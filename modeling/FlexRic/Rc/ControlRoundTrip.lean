import FlexRic.Rc.Control
import FlexRic.Rc.IndicationRoundTrip

/-! # Controls survive their codec

The header and the message of a control come back just when the encoder takes them; of an
outcome the decoder refuses styles without outcomes, and with too many, that the encoder
takes.
-/

namespace FlexRic.Rc

open Asn (Fault)
open E2sm (UeIdE2sm Ueid SharedCodec longOf16 low16 longOf32 low32)

section
variable (UeKept : UeIdE2sm → Prop)

structure CtrlHdrFrmt1Kept (src : CtrlHdrFrmt1) : Prop where
  ueId : UeKept src.ueId
  ctrlActId : 0 < src.ctrlActId
  ricCtrlDecision : src.ricCtrlDecision = none

structure CtrlHdrFrmt2Kept (src : CtrlHdrFrmt2) : Prop where
  ueId : ∀ id ∈ src.ueId, UeKept id
  ricCtrlDec : src.ricCtrlDec = none

/-- What of a header comes back. -/
def CtrlHdrKept : CtrlHdr → Prop
  | .frmt1 hdr => CtrlHdrFrmt1Kept UeKept hdr
  | .frmt2 hdr => CtrlHdrFrmt2Kept UeKept hdr

end

section
variable {ue : SharedCodec UeIdE2sm Ueid} {UeKept : UeIdE2sm → Prop} (keeps : ue.Keeps UeKept)
include keeps

theorem ctrlHdrFrmt1_back_iff (src : CtrlHdrFrmt1) :
    (encCtrlHdrFrmt1 ue src >>= decCtrlHdrFrmt1 ue) = .ok src ↔ CtrlHdrFrmt1Kept UeKept src := by
  obtain ⟨ueId, style, id, decision⟩ := src
  simp only [encCtrlHdrFrmt1, decCtrlHdrFrmt1, bind_eq_ok, check_eq_ok, pure_eq_ok,
    CtrlHdrFrmt1.mk.injEq]
  constructor
  · rintro ⟨_, ⟨asn, ueTaken, _, pos, _, absent, rfl⟩, _, ueBack, _, -, _, -, rfl, -⟩
    exact
      { ueId := (keeps.exists_iff _).mp ⟨asn, ueTaken, ueBack⟩
        ctrlActId := pos
        ricCtrlDecision := absent }
  · rintro ⟨ueKept, pos, rfl⟩
    obtain ⟨asn, ueTaken, ueBack⟩ := (keeps.exists_iff ueId).mpr ueKept
    exact ⟨_, ⟨asn, ueTaken, (), pos, (), rfl, rfl⟩, ueId, ueBack, (), longOf16_range pos, (), rfl,
      rfl, E2sm.low32_longOf32 style, E2sm.low16_longOf16 id, rfl⟩

theorem ctrlHdrFrmt2_back_iff (src : CtrlHdrFrmt2) :
    (encCtrlHdrFrmt2 ue src >>= decCtrlHdrFrmt2 ue) = .ok src ↔ CtrlHdrFrmt2Kept UeKept src := by
  obtain ⟨ueId, decision⟩ := src
  simp only [encCtrlHdrFrmt2, decCtrlHdrFrmt2, bind_eq_ok, check_eq_ok, pure_eq_ok,
    CtrlHdrFrmt2.mk.injEq]
  constructor
  · rintro ⟨_, ⟨asn, ueTaken, _, absent, rfl⟩, _, ueBack, _, -, rfl, -⟩
    exact
      { ueId := (optional_kept_iff keeps).mp ⟨asn, ueTaken, ueBack⟩
        ricCtrlDec := absent }
  · rintro ⟨kept, rfl⟩
    obtain ⟨asn, ueTaken, ueBack⟩ := (optional_kept_iff keeps).mpr kept
    exact ⟨_, ⟨asn, ueTaken, (), rfl, rfl⟩, ueId, ueBack, (), rfl, rfl, rfl⟩

theorem ctrlHdr_back_iff (src : CtrlHdr) :
    (ctrlHdrUnit ue src >>= ctrlHdrOf ue) = .ok src ↔ CtrlHdrKept UeKept src := by
  cases src with
  | frmt1 hdr =>
      refine (map_back_iff (encCtrlHdrFrmt1 ue) (decCtrlHdrFrmt1 ue) ControlHeaderAsn.format1
        (ctrlHdrOf ue) CtrlHdr.frmt1 (fun _ => rfl) fun _ _ => CtrlHdr.frmt1.inj).trans ?_
      exact ctrlHdrFrmt1_back_iff keeps hdr
  | frmt2 hdr =>
      refine (map_back_iff (encCtrlHdrFrmt2 ue) (decCtrlHdrFrmt2 ue) ControlHeaderAsn.format2
        (ctrlHdrOf ue) CtrlHdr.frmt2 (fun _ => rfl) fun _ _ => CtrlHdr.frmt2.inj).trans ?_
      exact ctrlHdrFrmt2_back_iff keeps hdr

end

theorem ctrlMsgFrmt1_back_iff (params : List SeqRanParam) :
    (∃ items, encCtrlMsgFrmt1 params = .ok items ∧ decCtrlMsgFrmt1 items = .ok params) ↔
      ParamsKept params := by
  refine (within_kept_iff seqRanParamBelow_back_iff).trans ?_
  exact and_congr_left fun _ => and_iff_right (Nat.zero_le _)

/-- An action comes back when it has parameters, if only an empty list of them. -/
structure SeqCtrlActKept (src : SeqCtrlAct) : Prop where
  ctrlActId : 0 < src.ctrlActId
  ctrlMsgFrmt1 : ∃ params, src.ctrlMsgFrmt1 = some params ∧ ParamsKept params

theorem seqCtrlAct_back_iff (src : SeqCtrlAct) :
    (encCtrlMsgFrmt2CtrlActIt src >>= decCtrlMsgSeqCtrlAct) = .ok src ↔ SeqCtrlActKept src := by
  obtain ⟨id, params⟩ := src
  cases params with
  | none =>
      constructor
      · intro back
        simp only [encCtrlMsgFrmt2CtrlActIt, bind_eq_ok] at back
        obtain ⟨_, ⟨_, -, absurd⟩, -⟩ := back
        cases absurd
      · rintro ⟨-, params, absurd, -⟩
        cases absurd
  | some params =>
      simp only [encCtrlMsgFrmt2CtrlActIt, decCtrlMsgSeqCtrlAct, bind_eq_ok, check_eq_ok,
        pure_eq_ok, SeqCtrlAct.mk.injEq, Option.some.injEq]
      constructor
      · rintro ⟨_, ⟨_, pos, items, taken, rfl⟩, _, -, _, back, -, rfl⟩
        exact
          { ctrlActId := pos
            ctrlMsgFrmt1 := ⟨_, rfl, (ctrlMsgFrmt1_back_iff _).mp ⟨items, taken, back⟩⟩ }
      · rintro ⟨pos, _, same, kept⟩
        cases same
        obtain ⟨items, taken, back⟩ := (ctrlMsgFrmt1_back_iff params).mpr kept
        exact ⟨_, ⟨(), pos, items, taken, rfl⟩, (), longOf16_range pos, params, back,
          E2sm.low16_longOf16 id, rfl⟩

structure SeqCtrlSmaKept (src : SeqCtrlSma) : Prop where
  count : 1 ≤ src.seqCtrlAct.length ∧ src.seqCtrlAct.length ≤ 63
  seqCtrlAct : ∀ action ∈ src.seqCtrlAct, SeqCtrlActKept action

theorem seqCtrlSma_back_iff (src : SeqCtrlSma) :
    (encCtrlMsgFrmt2It src >>= decCtrlMsgSeqCtrlSma) = .ok src ↔ SeqCtrlSmaKept src := by
  obtain ⟨style, actions⟩ := src
  simp only [encCtrlMsgFrmt2It, decCtrlMsgSeqCtrlSma, bind_eq_ok, pure_eq_ok, SeqCtrlSma.mk.injEq]
  constructor
  · rintro ⟨_, ⟨items, taken, rfl⟩, _, back, -, rfl⟩
    obtain ⟨count, each⟩ := (within_kept_iff seqCtrlAct_back_iff).mp ⟨items, taken, back⟩
    exact
      { count := count
        seqCtrlAct := each }
  · rintro ⟨count, each⟩
    obtain ⟨items, taken, back⟩ := (within_kept_iff seqCtrlAct_back_iff).mpr ⟨count, each⟩
    exact ⟨_, ⟨items, taken, rfl⟩, actions, back, E2sm.low32_longOf32 style, rfl⟩

/-- What of a message comes back. -/
def CtrlMsgKept : CtrlMsg → Prop
  | .frmt1 params => ParamsKept params
  | .frmt2 styles =>
      (1 ≤ styles.length ∧ styles.length ≤ 63) ∧ ∀ style ∈ styles, SeqCtrlSmaKept style

theorem ctrlMsg_back_iff (src : CtrlMsg) :
    (ctrlMsgUnit src >>= ctrlMsgOf) = .ok src ↔ CtrlMsgKept src := by
  cases src with
  | frmt1 params =>
      refine (map_back_iff encCtrlMsgFrmt1 decCtrlMsgFrmt1 ControlMessageAsn.format1 ctrlMsgOf
        CtrlMsg.frmt1 (fun _ => rfl) fun _ _ => CtrlMsg.frmt1.inj).trans ?_
      rw [bind_eq_ok]
      exact ctrlMsgFrmt1_back_iff params
  | frmt2 styles =>
      refine (map_back_iff encCtrlMsgFrmt2 decCtrlMsgFrmt2 ControlMessageAsn.format2 ctrlMsgOf
        CtrlMsg.frmt2 (fun _ => rfl) fun _ _ => CtrlMsg.frmt2.inj).trans ?_
      rw [bind_eq_ok]
      exact within_kept_iff seqCtrlSma_back_iff

/-- A parameter of an outcome has no structure, so only its id matters. -/
def SeqRanParam2Kept (src : SeqRanParam2) : Prop := 0 < src.ranParamId

theorem seqRanParam2_back_iff (src : SeqRanParam2) :
    (encCtrlOutFrmt1It src >>= decCtrlOutFrmt1It) = .ok src ↔ SeqRanParam2Kept src := by
  obtain ⟨id, value⟩ := src
  simp only [encCtrlOutFrmt1It, decCtrlOutFrmt1It, bind_eq_ok, check_eq_ok, pure_eq_ok,
    SeqRanParam2.mk.injEq]
  constructor
  · rintro ⟨_, ⟨_, pos, -⟩, -⟩
    exact pos
  · intro pos
    exact ⟨_, ⟨(), pos, rfl⟩, (), (E2sm.toUInt64_pos id).mpr pos, value, ranParamVal_back value,
      UInt32.toUInt32_toUInt64 id, rfl⟩

/-- Four bytes are below the bound of an id in any case. -/
theorem seqRanParam2Below_back_iff (src : SeqRanParam2) :
    (encCtrlOutFrmt2RanIt src >>= decCtrlOutFrmt2RanIt) = .ok src ↔ SeqRanParam2Kept src := by
  rw [← seqRanParam2_back_iff]
  simp only [encCtrlOutFrmt2RanIt, encCtrlOutFrmt1It, decCtrlOutFrmt2RanIt, decCtrlOutFrmt1It,
    bind_eq_ok, check_eq_ok, pure_eq_ok]
  constructor
  · rintro ⟨asn, taken, _, range, back⟩
    exact ⟨asn, taken, (), range.1, back⟩
  · rintro ⟨_, ⟨_, pos, rfl⟩, _, positive, back⟩
    exact ⟨_, ⟨(), pos, rfl⟩, (), ⟨positive, E2sm.toUInt64_lt _⟩, back⟩

structure SeqCtrlActOutKept (src : SeqCtrlActOut) : Prop where
  ctrlActId : 0 < src.ctrlActId
  count : 1 ≤ src.ranParam.length ∧ src.ranParam.length ≤ 255
  ranParam : ∀ param ∈ src.ranParam, SeqRanParam2Kept param

theorem seqCtrlActOut_back_iff (src : SeqCtrlActOut) :
    (encCtrlOutFrmt2CtrlOut src >>= decCtrlOutFrmt2CtrlOutIt) = .ok src ↔
      SeqCtrlActOutKept src := by
  obtain ⟨id, params⟩ := src
  simp only [encCtrlOutFrmt2CtrlOut, decCtrlOutFrmt2CtrlOutIt, bind_eq_ok, check_eq_ok, pure_eq_ok,
    SeqCtrlActOut.mk.injEq]
  constructor
  · rintro ⟨_, ⟨_, pos, items, taken, rfl⟩, _, -, _, back, -, rfl⟩
    obtain ⟨count, each⟩ := (within_kept_iff seqRanParam2Below_back_iff).mp ⟨items, taken, back⟩
    exact
      { ctrlActId := pos
        count := count
        ranParam := each }
  · rintro ⟨pos, count, each⟩
    obtain ⟨items, taken, back⟩ := (within_kept_iff seqRanParam2Below_back_iff).mpr ⟨count, each⟩
    exact ⟨_, ⟨(), pos, items, taken, rfl⟩, (), longOf16_range pos, params, back,
      E2sm.low16_longOf16 id, rfl⟩

/-- The number of outcomes is checked when they are read, and only then. -/
structure SeqCtrlStyMulOutKept (src : SeqCtrlStyMulOut) : Prop where
  count : 1 ≤ src.seqCtrlActOut.length ∧ src.seqCtrlActOut.length ≤ 63
  seqCtrlActOut : ∀ out ∈ src.seqCtrlActOut, SeqCtrlActOutKept out

theorem seqCtrlStyMulOut_back_iff (src : SeqCtrlStyMulOut) :
    (encCtrlOutFrmt2It src >>= decCtrlOutFrmt2StyIt) = .ok src ↔ SeqCtrlStyMulOutKept src := by
  obtain ⟨style, outs⟩ := src
  simp only [encCtrlOutFrmt2It, decCtrlOutFrmt2StyIt, bind_eq_ok, pure_eq_ok,
    SeqCtrlStyMulOut.mk.injEq]
  constructor
  · rintro ⟨_, ⟨items, taken, rfl⟩, _, back, -, rfl⟩
    obtain ⟨count, each⟩ :=
      (counted_kept_iff_of_mem fun out _ => seqCtrlActOut_back_iff out).mp ⟨items, taken, back⟩
    exact
      { count := count
        seqCtrlActOut := each }
  · rintro ⟨count, each⟩
    obtain ⟨items, taken, back⟩ :=
      (counted_kept_iff_of_mem fun out _ => seqCtrlActOut_back_iff out).mpr ⟨count, each⟩
    exact ⟨_, ⟨items, taken, rfl⟩, outs, back, E2sm.low32_longOf32 style, rfl⟩

/-- What of an outcome comes back. -/
def CtrlOutKept : CtrlOut → Prop
  | .frmt1 params => params.length ≤ 255 ∧ ∀ param ∈ params, SeqRanParam2Kept param
  | .frmt2 styles =>
      (1 ≤ styles.length ∧ styles.length ≤ 63) ∧ ∀ style ∈ styles, SeqCtrlStyMulOutKept style
  | .frmt3 params => params.length ≤ 255 ∧ ∀ param ∈ params, SeqRanParamKept param

theorem ctrlOut_back_iff (src : CtrlOut) :
    (ctrlOutUnit src >>= ctrlOutOf) = .ok src ↔ CtrlOutKept src := by
  cases src with
  | frmt1 params =>
      refine (map_back_iff encCtrlOutFrmt1 decCtrlOutFrmt1 ControlOutcomeAsn.format1 ctrlOutOf
        CtrlOut.frmt1 (fun _ => rfl) fun _ _ => CtrlOut.frmt1.inj).trans ?_
      rw [bind_eq_ok]
      refine (within_kept_iff seqRanParam2_back_iff).trans ?_
      exact and_congr_left fun _ => and_iff_right (Nat.zero_le _)
  | frmt2 styles =>
      refine (map_back_iff encCtrlOutFrmt2 decCtrlOutFrmt2 ControlOutcomeAsn.format2 ctrlOutOf
        CtrlOut.frmt2 (fun _ => rfl) fun _ _ => CtrlOut.frmt2.inj).trans ?_
      rw [bind_eq_ok]
      exact within_kept_iff seqCtrlStyMulOut_back_iff
  | frmt3 params =>
      refine (map_back_iff encCtrlOutFrmt3 decCtrlOutFrmt3 ControlOutcomeAsn.format3 ctrlOutOf
        CtrlOut.frmt3 (fun _ => rfl) fun _ _ => CtrlOut.frmt3.inj).trans ?_
      rw [bind_eq_ok]
      refine (within_kept_iff seqRanParam_back_iff).trans ?_
      exact and_congr_left fun _ => and_iff_right (Nat.zero_le _)

theorem cpid_back_iff (id : UInt32) : (cpidUnit id >>= cpidOf) = .ok id ↔ 0 < id := by
  simp only [cpidUnit, cpidOf, bind_eq_ok, check_eq_ok, pure_eq_ok]
  constructor
  · rintro ⟨_, ⟨_, pos, -⟩, -⟩
    exact pos
  · intro pos
    exact ⟨_, ⟨(), pos, rfl⟩, (), ⟨(E2sm.toUInt64_pos id).mpr pos, E2sm.toUInt64_lt id⟩,
      UInt32.toUInt32_toUInt64 id⟩

theorem ctrlHdr_packed_iff {ue : SharedCodec UeIdE2sm Ueid} {UeKept : UeIdE2sm → Prop}
    (keeps : ue.Keeps UeKept)
    {p : Packing ControlHeaderAsn} {hdr : CtrlHdr}
    (carries : p.Carries controlRoom (ctrlHdrUnit ue) hdr) :
    (rcEncCtrlHdrAsn ue p hdr >>= rcDecCtrlHdrAsn ue p) = .ok hdr ↔ CtrlHdrKept UeKept hdr := by
  rw [rcEncCtrlHdrAsn, rcDecCtrlHdrAsn, packed_back carries]
  exact ctrlHdr_back_iff keeps hdr

theorem ctrlMsg_packed_iff {p : Packing ControlMessageAsn} {msg : CtrlMsg}
    (carries : p.Carries controlRoom ctrlMsgUnit msg) :
    (rcEncCtrlMsgAsn p msg >>= rcDecCtrlMsgAsn p) = .ok msg ↔ CtrlMsgKept msg := by
  rw [rcEncCtrlMsgAsn, rcDecCtrlMsgAsn, packed_back carries]
  exact ctrlMsg_back_iff msg

theorem ctrlOut_packed_iff {p : Packing ControlOutcomeAsn} {out : CtrlOut}
    (carries : p.Carries controlRoom ctrlOutUnit out) :
    (rcEncCtrlOutAsn p out >>= rcDecCtrlOutAsn p) = .ok out ↔ CtrlOutKept out := by
  rw [rcEncCtrlOutAsn, rcDecCtrlOutAsn, packed_back carries]
  exact ctrlOut_back_iff out

/-- The parts of a control come back from their bytes just where each of their own parts does. -/
theorem rc_control_back_iff (there here : E2sm.Memory) :
    (∀ p (hdr : CtrlHdr), p.Carries controlRoom (ctrlHdrUnit (E2sm.ueIdCodec there here)) hdr →
      ((rcEncCtrlHdrAsn (E2sm.ueIdCodec there here) p hdr >>=
        rcDecCtrlHdrAsn (E2sm.ueIdCodec there here) p) = .ok hdr ↔
          CtrlHdrKept (E2sm.UeIdKeptIn here) hdr)) ∧
    (∀ p (msg : CtrlMsg), p.Carries controlRoom ctrlMsgUnit msg →
      ((rcEncCtrlMsgAsn p msg >>= rcDecCtrlMsgAsn p) = .ok msg ↔ CtrlMsgKept msg)) ∧
    (∀ p (out : CtrlOut), p.Carries controlRoom ctrlOutUnit out →
      ((rcEncCtrlOutAsn p out >>= rcDecCtrlOutAsn p) = .ok out ↔ CtrlOutKept out)) ∧
    ∀ p (id : UInt32), p.Carries controlRoom cpidUnit id →
      ((rcEncCpidAsn p id >>= rcDecCpidAsn p) = .ok id ↔ 0 < id) := by
  refine ⟨?_, ?_, ?_, ?_⟩
  · intro p hdr carries
    exact ctrlHdr_packed_iff (E2sm.ueIdCodec_keeps there here) carries
  · intro p msg carries
    exact ctrlMsg_packed_iff carries
  · intro p out carries
    exact ctrlOut_packed_iff carries
  · intro p id carries
    rw [rcEncCpidAsn, rcDecCpidAsn, packed_back carries]
    exact cpid_back_iff id

theorem anAction_kept : CtrlMsgKept (.frmt2 [⟨1, [⟨1, some []⟩]⟩]) := by
  have action : SeqCtrlActKept ⟨1, some []⟩ :=
    { ctrlActId := by decide
      ctrlMsgFrmt1 := ⟨[], rfl, Nat.zero_le _, List.forall_mem_nil _⟩ }
  have style : SeqCtrlSmaKept ⟨1, [⟨1, some []⟩]⟩ :=
    { count := ⟨Nat.le_refl 1, by decide⟩
      seqCtrlAct := List.forall_mem_singleton.mpr action }
  exact ⟨⟨Nat.le_refl 1, by decide⟩, List.forall_mem_singleton.mpr style⟩

/-- Style 1 and action 1 for a UE. -/
def aUeHeader : CtrlHdr := .frmt1 ⟨E2sm.aUeId, 1, 1, none⟩

theorem aUeHeader_kept : CtrlHdrKept (E2sm.UeIdKeptIn (.replicate 8 0)) aUeHeader :=
  { ueId := E2sm.aUeId_kept
    ctrlActId := by decide
    ricCtrlDecision := rfl }

/-- The header in aligned PER. -/
def aHeaderPer (unit : ControlHeaderAsn) : Packing ControlHeaderAsn :=
  .always unit 0x00 [0x00, 0x00, 0x01, 0x00, 0x02, 0xF8, 0x39, 0x01, 0x00, 0x41, 0x01, 0x01, 0x00,
    0x00, 0x00]

/-- A header for a UE, one action without parameters, and an outcome without any, as their bytes. -/
theorem rc_control_back_ue :
    ∃ hdrUnit msgUnit outUnit,
      (rcEncCtrlHdrAsn E2sm.aUeIdCodec (aHeaderPer hdrUnit) aUeHeader >>=
        rcDecCtrlHdrAsn E2sm.aUeIdCodec (aHeaderPer hdrUnit)) = .ok aUeHeader ∧
      (rcEncCtrlMsgAsn (.always msgUnit 0x20 [0, 1, 1, 0, 0, 0, 0, 0, 0])
          (.frmt2 [⟨1, [⟨1, some []⟩]⟩]) >>=
        rcDecCtrlMsgAsn (.always msgUnit 0x20 [0, 1, 1, 0, 0, 0, 0, 0, 0])) =
          .ok (.frmt2 [⟨1, [⟨1, some []⟩]⟩]) ∧
      (rcEncCtrlOutAsn (.always outUnit 0 [0]) (.frmt1 []) >>=
        rcDecCtrlOutAsn (.always outUnit 0 [0])) = .ok (.frmt1 []) := by
  have all := rc_control_back_iff (.replicate 8 0) (.replicate 8 0)
  have msgShort : [0x20, 0, 1, 1, 0, 0, 0, 0, 0, (0 : UInt8)].length ≤ controlRoom := by decide
  have outShort : [0, (0 : UInt8)].length ≤ controlRoom := by decide
  refine ⟨_, _, _,
    (all.1 _ aUeHeader (Packing.always_carries rfl (by decide))).mpr aUeHeader_kept,
    (all.2.1 _ (.frmt2 [_]) (Packing.always_carries rfl msgShort)).mpr ?_,
    (all.2.2.1 _ (.frmt1 []) (Packing.always_carries rfl outShort)).mpr ?_⟩
  · exact anAction_kept
  · exact ⟨Nat.zero_le _, List.forall_mem_nil _⟩

/-- A header or a message of a control, or of an indication, that keeps to the ranges of its lists
    and has nothing that is not implemented is written, and what is written is read as it was, if
    its UE ids come back. -/
theorem control_and_indication_back (there here : E2sm.Memory) :
    (∀ p (hdr : CtrlHdr), p.Carries controlRoom (ctrlHdrUnit (E2sm.ueIdCodec there here)) hdr →
      CtrlHdrKept (E2sm.ueIdCodec there here).Returns hdr →
        ∃ ba, rcEncCtrlHdrAsn (E2sm.ueIdCodec there here) p hdr = .ok ba ∧
          rcDecCtrlHdrAsn (E2sm.ueIdCodec there here) p ba = .ok hdr) ∧
    (∀ p (msg : CtrlMsg), p.Carries controlRoom ctrlMsgUnit msg → CtrlMsgKept msg →
      ∃ ba, rcEncCtrlMsgAsn p msg = .ok ba ∧ rcDecCtrlMsgAsn p ba = .ok msg) ∧
    (∀ p (hdr : IndHdr), p.Carries indHdrRoom (indHdrUnit (E2sm.ueIdCodec there here)) hdr →
      IndHdrKept (E2sm.ueIdCodec there here).Returns hdr →
        ∃ ba, rcEncIndHdrAsn (E2sm.ueIdCodec there here) p hdr = .ok ba ∧
          rcDecIndHdrAsn (E2sm.ueIdCodec there here) p ba = .ok hdr) ∧
    ∀ p (msg : IndMsg), p.Carries indMsgRoom (indMsgUnit (E2sm.ueIdCodec there here)) msg →
      IndMsgKept (E2sm.ueIdCodec there here).Returns msg →
        ∃ ba, rcEncIndMsgAsn (E2sm.ueIdCodec there here) p msg = .ok ba ∧
          rcDecIndMsgAsn (E2sm.ueIdCodec there here) p ba = .ok msg := by
  refine ⟨?_, ?_, ?_, ?_⟩
  · intro p hdr carries kept
    exact bind_eq_ok.mp ((ctrlHdr_packed_iff SharedCodec.keeps_returns carries).mpr kept)
  · intro p msg carries kept
    exact bind_eq_ok.mp ((ctrlMsg_packed_iff carries).mpr kept)
  · intro p hdr carries kept
    exact bind_eq_ok.mp ((indHdr_packed_iff SharedCodec.keeps_returns carries).mpr kept)
  · intro p msg carries kept
    exact bind_eq_ok.mp ((indMsg_packed_iff SharedCodec.keeps_returns carries).mpr kept)

/-- Parameter 1 is a list of one structure, whose parameter 2 is the number 5. -/
def nested : SeqRanParam := ⟨1, .lst [[⟨2, .flagFalse (.intRan 5)⟩]]⟩

theorem nested_kept : SeqRanParamKept nested := by
  have number : SeqRanParamKept ⟨2, .flagFalse (.intRan 5)⟩ :=
    { ranParamId := by decide
      ranParamVal := .flagFalse _ }
  have structs : ∀ params ∈ [[(⟨2, .flagFalse (.intRan 5)⟩ : SeqRanParam)]], StructKept params :=
    List.forall_mem_singleton.mpr
      ⟨⟨Nat.le_refl 1, by decide⟩, List.forall_mem_singleton.mpr number⟩
  exact
    { ranParamId := by decide
      ranParamVal := lst_kept_iff.mpr structs }

def nestedControl : CtrlMsg := .frmt2 [⟨1, [⟨1, some [nested]⟩]⟩]

theorem nestedControl_kept : CtrlMsgKept nestedControl := by
  have action : SeqCtrlActKept ⟨1, some [nested]⟩ :=
    { ctrlActId := by decide
      ctrlMsgFrmt1 := ⟨_, rfl, by decide, List.forall_mem_singleton.mpr nested_kept⟩ }
  have style : SeqCtrlSmaKept ⟨1, [⟨1, some [nested]⟩]⟩ :=
    { count := ⟨Nat.le_refl 1, by decide⟩
      seqCtrlAct := List.forall_mem_singleton.mpr action }
  exact ⟨⟨Nat.le_refl 1, by decide⟩, List.forall_mem_singleton.mpr style⟩

/-- It in aligned PER. -/
def nestedControlPer (unit : ControlMessageAsn) : Packing ControlMessageAsn :=
  .always unit 0x20 [0x00, 0x01, 0x01, 0x00, 0x00, 0x00, 0x00, 0x00, 0x01, 0x00, 0x00, 0x60, 0x00,
    0x00, 0x40, 0x00, 0x00, 0x00, 0x01, 0x28, 0x80, 0x01, 0x05]

/-- A header and a message of a control, and of an indication, as their bytes. -/
theorem control_and_indication_back_nested :
    ∃ ctrlHdr ctrlMsg indHdr indMsg,
      (∃ ba, rcEncCtrlHdrAsn E2sm.aUeIdCodec (aHeaderPer ctrlHdr) aUeHeader = .ok ba ∧
        rcDecCtrlHdrAsn E2sm.aUeIdCodec (aHeaderPer ctrlHdr) ba = .ok aUeHeader) ∧
      (∃ ba, rcEncCtrlMsgAsn (nestedControlPer ctrlMsg) nestedControl = .ok ba ∧
        rcDecCtrlMsgAsn (nestedControlPer ctrlMsg) ba = .ok nestedControl) ∧
      (∃ ba, rcEncIndHdrAsn E2sm.aUeIdCodec (anInsertPer indHdr) aUeInsert = .ok ba ∧
        rcDecIndHdrAsn E2sm.aUeIdCodec (anInsertPer indHdr) ba = .ok aUeInsert) ∧
      ∃ ba, rcEncIndMsgAsn E2sm.aUeIdCodec (aReportPer indMsg) aUeReport = .ok ba ∧
        rcDecIndMsgAsn E2sm.aUeIdCodec (aReportPer indMsg) ba = .ok aUeReport := by
  have all := control_and_indication_back (.replicate 8 0) (.replicate 8 0)
  rw [(E2sm.ueIdCodec_keeps _ _).returns_eq] at all
  refine ⟨_, _, _, _,
    all.1 _ aUeHeader (Packing.always_carries rfl (by decide)) ?_,
    all.2.1 _ nestedControl (Packing.always_carries rfl (by decide)) nestedControl_kept,
    all.2.2.1 _ aUeInsert (Packing.always_carries rfl (by decide)) ?_,
    all.2.2.2 _ aUeReport (Packing.always_carries rfl (by decide)) ?_⟩
  · exact aUeHeader_kept
  · exact aUeInsert_kept
  · exact aUeReport_kept

end FlexRic.Rc
