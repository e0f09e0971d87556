import FlexRic.Kpm.RoundTrip
import FlexRic.Rc.EventTriggerRoundTrip
import FlexRic.Rc.Indication

/-! # Indications survive their codec

A header or a message comes back just when its ids are not zero, its UEs and its cells come
back, and its lists have the lengths that the decoder takes; the encoder does not check the
lengths of the lists that may be empty.
-/

namespace FlexRic.Rc

open Asn (Fault)
open E2sm (UeIdE2sm Ueid SharedCodec CellGlobalIdKept cellGlobalId_back_iff longOf16 low16 longOf32
  low32)

/-- The parameters of a list that may not be empty. -/
theorem seqRanParams_back_iff (params : List SeqRanParam) :
    (∃ items, mapMWithin 1 65535 .bound encRanParamStruct params = .ok items ∧
      mapMWithin 1 65535 .bound decSeqRanParamStrcIt items = .ok params) ↔ StructKept params :=
  within_kept_iff seqRanParam_back_iff

/-- What of a list comes back that may be empty. -/
def ParamsKept (params : List SeqRanParam) : Prop :=
  params.length ≤ 65535 ∧ ∀ param ∈ params, SeqRanParamKept param

theorem atMost_kept_iff {α β : Type} {most : Nat} {enc : α → Except Fault β}
    {dec : β → Except Fault α} {Kept : α → Prop} {lst : List α}
    (kept : ∀ a, (enc a >>= dec) = .ok a ↔ Kept a) :
    (∃ items, lst.mapM enc = .ok items ∧ mapMWithin 0 most .bound dec items = .ok lst) ↔
      lst.length ≤ most ∧ ∀ a ∈ lst, Kept a := by
  rw [counted_kept_iff_of_mem fun a _ => kept a]
  exact and_congr_left fun _ => and_iff_right (Nat.zero_le _)

structure SeqCellInfoKept (src : SeqCellInfo) : Prop where
  cellGlobalId : CellGlobalIdKept src.cellGlobalId
  cellCtxInfo : src.cellCtxInfo = none
  cellDel : src.cellDel = none
  neighbourRelaTbl : src.neighbourRelaTbl = none

theorem seqCellInfo_back_iff (src : SeqCellInfo) :
    (encIndMsgFrmt3It src >>= decIndMsgFrmt3It) = .ok src ↔ SeqCellInfoKept src := by
  obtain ⟨cell, ctxInfo, del, table⟩ := src
  simp only [encIndMsgFrmt3It, decIndMsgFrmt3It, bind_eq_ok, check_eq_ok, pure_eq_ok,
    SeqCellInfo.mk.injEq]
  constructor
  · rintro ⟨_, ⟨asn, taken, _, ctxAbsent, _, delAbsent, _, tableAbsent, rfl⟩,
      _, back, _, -, _, -, _,
      -, rfl, -⟩
    exact
      { cellGlobalId := (cellGlobalId_back_iff _).mp (bind_eq_ok.mpr ⟨asn, taken, back⟩)
        cellCtxInfo := ctxAbsent
        cellDel := delAbsent
        neighbourRelaTbl := tableAbsent }
  · rintro ⟨kept, rfl, rfl, rfl⟩
    obtain ⟨asn, taken, back⟩ := bind_eq_ok.mp ((cellGlobalId_back_iff cell).mpr kept)
    exact ⟨_, ⟨asn, taken, (), rfl, (), rfl, (), rfl, rfl⟩, cell, back, (), rfl, (), rfl, (), rfl,
      rfl, rfl, rfl, rfl⟩

structure SeqCellInfo2Kept (src : SeqCellInfo2) : Prop where
  cellGlobalId : CellGlobalIdKept src.cellGlobalId
  cellCtxInfo : src.cellCtxInfo = none
  neighbourRelaTbl : src.neighbourRelaTbl = none

theorem seqCellInfo2_back_iff (src : SeqCellInfo2) :
    (encIndMsgFrmt4ItCell src >>= decIndMsgFrmt4ItDellInfo) = .ok src ↔ SeqCellInfo2Kept src := by
  obtain ⟨cell, ctxInfo, table⟩ := src
  simp only [encIndMsgFrmt4ItCell, decIndMsgFrmt4ItDellInfo, bind_eq_ok, check_eq_ok, pure_eq_ok,
    SeqCellInfo2.mk.injEq]
  constructor
  · rintro ⟨_, ⟨asn, taken, _, ctxAbsent, _, tableAbsent, rfl⟩, _, back, _, -, _, -, rfl, -⟩
    exact
      { cellGlobalId := (cellGlobalId_back_iff _).mp (bind_eq_ok.mpr ⟨asn, taken, back⟩)
        cellCtxInfo := ctxAbsent
        neighbourRelaTbl := tableAbsent }
  · rintro ⟨kept, rfl, rfl⟩
    obtain ⟨asn, taken, back⟩ := bind_eq_ok.mp ((cellGlobalId_back_iff cell).mpr kept)
    exact ⟨_, ⟨asn, taken, (), rfl, (), rfl, rfl⟩, cell, back, (), rfl, (), rfl, rfl, rfl, rfl⟩

/-- What of a requested parameter comes back. -/
def RanParamReqKept (src : RanParamReq) : Prop := SeqRanParamKept ⟨src.ranParamId, src.ranParam⟩

theorem ranParamReq_back_iff (src : RanParamReq) :
    (encIndMsgFrmt6Ran src >>= decRanParamReq) = .ok src ↔ RanParamReqKept src := by
  obtain ⟨id, val⟩ := src
  rw [RanParamReqKept, ← seqRanParamBelow_back_iff]
  simp only [encIndMsgFrmt6Ran, decRanParamReq, bind_eq_ok, map_eq_ok, RanParamReq.mk.injEq]
  constructor
  · rintro ⟨asn, taken, ⟨_, _⟩, back, rfl, rfl⟩
    exact ⟨asn, taken, back⟩
  · rintro ⟨asn, taken, back⟩
    exact ⟨asn, taken, _, back, rfl, rfl⟩

/-- The number of parameters is checked by neither side. -/
structure SeqInsIndAct2Kept (src : SeqInsIndAct2) : Prop where
  insIndId : 0 < src.insIndId
  ranParamReq : ∀ param ∈ src.ranParamReq, RanParamReqKept param

theorem seqInsIndAct2_back_iff (src : SeqInsIndAct2) :
    (encIndMsgFrmt6IndIt src >>= decSeqInsIndAct) = .ok src ↔ SeqInsIndAct2Kept src := by
  obtain ⟨id, params⟩ := src
  simp only [encIndMsgFrmt6IndIt, decSeqInsIndAct, bind_eq_ok, check_eq_ok, pure_eq_ok,
    SeqInsIndAct2.mk.injEq]
  constructor
  · rintro ⟨_, ⟨_, pos, asn, taken, rfl⟩, _, -, _, back, -, rfl⟩
    exact
      { insIndId := pos
        ranParamReq := (list_kept_iff ranParamReq_back_iff).mp ⟨asn, taken, back⟩ }
  · rintro ⟨pos, each⟩
    obtain ⟨asn, taken, back⟩ := (list_kept_iff ranParamReq_back_iff).mpr each
    exact ⟨_, ⟨(), pos, asn, taken, rfl⟩, (), longOf16_range pos, params, back,
      E2sm.low16_longOf16 id, rfl⟩

structure SeqInsStyle2Kept (src : SeqInsStyle2) : Prop where
  count : 1 ≤ src.seqInsIndAct.length ∧ src.seqInsIndAct.length ≤ 63
  seqInsIndAct : ∀ action ∈ src.seqInsIndAct, SeqInsIndAct2Kept action

theorem seqInsStyle2_back_iff (src : SeqInsStyle2) :
    (encIndMsgFrmt6It src >>= decSeqInsStyle) = .ok src ↔ SeqInsStyle2Kept src := by
  obtain ⟨style, actions⟩ := src
  simp only [encIndMsgFrmt6It, decSeqInsStyle, bind_eq_ok, pure_eq_ok, SeqInsStyle2.mk.injEq]
  constructor
  · rintro ⟨_, ⟨asn, taken, rfl⟩, _, back, -, rfl⟩
    obtain ⟨count, each⟩ := (within_kept_iff seqInsIndAct2_back_iff).mp ⟨asn, taken, back⟩
    exact
      { count := count
        seqInsIndAct := each }
  · rintro ⟨count, each⟩
    obtain ⟨asn, taken, back⟩ := (within_kept_iff seqInsIndAct2_back_iff).mpr ⟨count, each⟩
    exact ⟨_, ⟨asn, taken, rfl⟩, actions, back, E2sm.low32_longOf32 style, rfl⟩

theorem evTriggerCondId_back_iff (id : UInt16) :
    (encEvTriggerCondId id >>= decEvTriggerCondId) = .ok id ↔ 0 < id := by
  simp only [encEvTriggerCondId, decEvTriggerCondId, bind_eq_ok, check_eq_ok, pure_eq_ok]
  constructor
  · rintro ⟨_, ⟨_, pos, -⟩, -⟩
    exact pos
  · intro pos
    exact ⟨_, ⟨(), pos, rfl⟩, (), longOf16_range pos, E2sm.low16_longOf16 id⟩

section
variable (UeKept : UeIdE2sm → Prop)

/-- What of a header comes back. -/
def IndHdrKept : IndHdr → Prop
  | .frmt1 id => ∀ x ∈ id, 0 < x
  | .frmt2 hdr => UeKept hdr.ueId ∧ 0 < hdr.insIndId
  | .frmt3 hdr => (∀ x ∈ hdr.evTriggerCond, 0 < x) ∧ ∀ id ∈ hdr.ueId, UeKept id

structure SeqUeIdKept (src : SeqUeId) : Prop where
  ueId : UeKept src.ueId
  seqRanParam : StructKept src.seqRanParam

structure SeqUeInfoKept (src : SeqUeInfo) : Prop where
  ueId : UeKept src.ueId
  ueCtxInfo : src.ueCtxInfo = none
  cellGlobalId : CellGlobalIdKept src.cellGlobalId

structure IndMsgFrmt4Kept (src : IndMsgFrmt4) : Prop where
  ues : src.seqUeInfo.length ≤ 65535
  seqUeInfo : ∀ info ∈ src.seqUeInfo, SeqUeInfoKept UeKept info
  cells : src.seqCellInfo2.length ≤ 65535
  seqCellInfo2 : ∀ info ∈ src.seqCellInfo2, SeqCellInfo2Kept info

/-- What of a message comes back. -/
def IndMsgKept : IndMsg → Prop
  | .frmt1 params => StructKept params
  | .frmt2 ueIds => CountFits ueIds ∧ ∀ id ∈ ueIds, SeqUeIdKept UeKept id
  | .frmt3 cells => CountFits cells ∧ ∀ cell ∈ cells, SeqCellInfoKept cell
  | .frmt4 msg => IndMsgFrmt4Kept UeKept msg
  | .frmt5 params => ParamsKept params
  | .frmt6 styles =>
      (1 ≤ styles.length ∧ styles.length ≤ 63) ∧ ∀ style ∈ styles, SeqInsStyle2Kept style

end

section
variable {ue : SharedCodec UeIdE2sm Ueid} {UeKept : UeIdE2sm → Prop} (keeps : ue.Keeps UeKept)
include keeps

theorem indHdrFrmt2_back_iff (src : IndHdrFrmt2) :
    (cpIndHdrFrmt2 ue src >>= decIndHdrFrmt2 ue) = .ok src ↔
      UeKept src.ueId ∧ 0 < src.insIndId := by
  obtain ⟨ueId, style, id⟩ := src
  simp only [cpIndHdrFrmt2, decIndHdrFrmt2, bind_eq_ok, check_eq_ok, pure_eq_ok,
    IndHdrFrmt2.mk.injEq]
  constructor
  · rintro ⟨_, ⟨asn, ueTaken, _, pos, rfl⟩, _, ueBack, _, -, rfl, -⟩
    exact ⟨(keeps.exists_iff _).mp ⟨asn, ueTaken, ueBack⟩, pos⟩
  · rintro ⟨ueKept, pos⟩
    obtain ⟨asn, ueTaken, ueBack⟩ := (keeps.exists_iff ueId).mpr ueKept
    exact ⟨_, ⟨asn, ueTaken, (), pos, rfl⟩, ueId, ueBack, (), (longOf16_range pos).1, rfl,
      E2sm.low32_longOf32 style, E2sm.low16_longOf16 id⟩

theorem indHdrFrmt3_back_iff (src : IndHdrFrmt3) :
    (cpIndHdrFrmt3 ue src >>= decIndHdrFrmt3 ue) = .ok src ↔
      (∀ x ∈ src.evTriggerCond, 0 < x) ∧ ∀ id ∈ src.ueId, UeKept id := by
  obtain ⟨cond, ueId⟩ := src
  simp only [cpIndHdrFrmt3, decIndHdrFrmt3, bind_eq_ok, pure_eq_ok, IndHdrFrmt3.mk.injEq]
  constructor
  · rintro ⟨_, ⟨condAsn, condTaken, ueAsn, ueTaken, rfl⟩, _, condBack, _, ueBack, rfl, rfl⟩
    exact ⟨(optional_kept_iff evTriggerCondId_back_iff).mp ⟨condAsn, condTaken, condBack⟩,
      (optional_kept_iff keeps).mp ⟨ueAsn, ueTaken, ueBack⟩⟩
  · rintro ⟨condKept, ueKept⟩
    obtain ⟨condAsn, condTaken, condBack⟩ :=
      (optional_kept_iff evTriggerCondId_back_iff).mpr condKept
    obtain ⟨ueAsn, ueTaken, ueBack⟩ := (optional_kept_iff keeps).mpr ueKept
    exact ⟨_, ⟨condAsn, condTaken, ueAsn, ueTaken, rfl⟩, cond, condBack, ueId, ueBack, rfl, rfl⟩

theorem indHdr_back_iff (src : IndHdr) :
    (indHdrUnit ue src >>= indHdrOf ue) = .ok src ↔ IndHdrKept UeKept src := by
  cases src with
  | frmt1 id =>
      refine (map_back_iff (·.mapM encEvTriggerCondId) (·.mapM decEvTriggerCondId)
        IndicationHeaderAsn.format1 (indHdrOf ue) IndHdr.frmt1 (fun _ => rfl)
        fun _ _ => IndHdr.frmt1.inj).trans ?_
      rw [bind_eq_ok]
      exact optional_kept_iff evTriggerCondId_back_iff
  | frmt2 hdr =>
      refine (map_back_iff (cpIndHdrFrmt2 ue) (decIndHdrFrmt2 ue) IndicationHeaderAsn.format2
        (indHdrOf ue) IndHdr.frmt2 (fun _ => rfl) fun _ _ => IndHdr.frmt2.inj).trans ?_
      exact indHdrFrmt2_back_iff keeps hdr
  | frmt3 hdr =>
      refine (map_back_iff (cpIndHdrFrmt3 ue) (decIndHdrFrmt3 ue) IndicationHeaderAsn.format3
        (indHdrOf ue) IndHdr.frmt3 (fun _ => rfl) fun _ _ => IndHdr.frmt3.inj).trans ?_
      exact indHdrFrmt3_back_iff keeps hdr

theorem seqUeId_back_iff (src : SeqUeId) :
    (encIndMsgFrmt2It ue src >>= decSeqUeId ue) = .ok src ↔ SeqUeIdKept UeKept src := by
  obtain ⟨ueId, params⟩ := src
  simp only [encIndMsgFrmt2It, decSeqUeId, bind_eq_ok, pure_eq_ok, SeqUeId.mk.injEq]
  constructor
  · rintro ⟨_, ⟨asn, ueTaken, items, taken, rfl⟩, _, ueBack, _, back, rfl, rfl⟩
    exact
      { ueId := (keeps.exists_iff _).mp ⟨asn, ueTaken, ueBack⟩
        seqRanParam := (seqRanParams_back_iff _).mp ⟨items, taken, back⟩ }
  · rintro ⟨ueKept, kept⟩
    obtain ⟨asn, ueTaken, ueBack⟩ := (keeps.exists_iff ueId).mpr ueKept
    obtain ⟨items, taken, back⟩ := (seqRanParams_back_iff params).mpr kept
    exact ⟨_, ⟨asn, ueTaken, items, taken, rfl⟩, ueId, ueBack, params, back, rfl, rfl⟩

theorem seqUeInfo_back_iff (src : SeqUeInfo) :
    (encIndMsgFrmt4ItUe ue src >>= decIndMsgFrmt4ItUeInfo ue) = .ok src ↔
      SeqUeInfoKept UeKept src := by
  obtain ⟨ueId, ctxInfo, cell⟩ := src
  simp only [encIndMsgFrmt4ItUe, decIndMsgFrmt4ItUeInfo, bind_eq_ok, check_eq_ok, pure_eq_ok,
    SeqUeInfo.mk.injEq]
  constructor
  · rintro ⟨_, ⟨asn, ueTaken, _, ctxAbsent, cellAsn, taken, rfl⟩, _, ueBack, _, -, _, back, rfl, -,
      rfl⟩
    exact
      { ueId := (keeps.exists_iff _).mp ⟨asn, ueTaken, ueBack⟩
        ueCtxInfo := ctxAbsent
        cellGlobalId := (cellGlobalId_back_iff _).mp (bind_eq_ok.mpr ⟨cellAsn, taken, back⟩) }
  · rintro ⟨ueKept, rfl, kept⟩
    obtain ⟨asn, ueTaken, ueBack⟩ := (keeps.exists_iff ueId).mpr ueKept
    obtain ⟨cellAsn, taken, back⟩ := bind_eq_ok.mp ((cellGlobalId_back_iff cell).mpr kept)
    exact ⟨_, ⟨asn, ueTaken, (), rfl, cellAsn, taken, rfl⟩, ueId, ueBack, (), rfl, cell, back, rfl,
      rfl, rfl⟩

theorem indMsgFrmt4_back_iff (src : IndMsgFrmt4) :
    (encIndMsgFrmt4 ue src >>= decIndMsgFrmt4 ue) = .ok src ↔ IndMsgFrmt4Kept UeKept src := by
  obtain ⟨ues, cells⟩ := src
  simp only [encIndMsgFrmt4, decIndMsgFrmt4, bind_eq_ok, pure_eq_ok, IndMsgFrmt4.mk.injEq]
  constructor
  · rintro ⟨_, ⟨ueItems, uesTaken, cellItems, cellsTaken, rfl⟩, _, uesBack, _, cellsBack, rfl, rfl⟩
    obtain ⟨fewUes, eachUe⟩ :=
      (atMost_kept_iff (seqUeInfo_back_iff keeps)).mp ⟨ueItems, uesTaken, uesBack⟩
    obtain ⟨fewCells, eachCell⟩ :=
      (atMost_kept_iff seqCellInfo2_back_iff).mp ⟨cellItems, cellsTaken, cellsBack⟩
    exact
      { ues := fewUes
        seqUeInfo := eachUe
        cells := fewCells
        seqCellInfo2 := eachCell }
  · rintro ⟨fewUes, eachUe, fewCells, eachCell⟩
    obtain ⟨ueItems, uesTaken, uesBack⟩ :=
      (atMost_kept_iff (seqUeInfo_back_iff keeps)).mpr ⟨fewUes, eachUe⟩
    obtain ⟨cellItems, cellsTaken, cellsBack⟩ :=
      (atMost_kept_iff seqCellInfo2_back_iff).mpr ⟨fewCells, eachCell⟩
    exact ⟨_, ⟨ueItems, uesTaken, cellItems, cellsTaken, rfl⟩, ues, uesBack, cells, cellsBack, rfl,
      rfl⟩

theorem indMsg_back_iff (src : IndMsg) :
    (indMsgUnit ue src >>= indMsgOf ue) = .ok src ↔ IndMsgKept UeKept src := by
  cases src with
  | frmt1 params =>
      refine (map_back_iff encIndMsgFrmt1 decIndMsgFrmt1 IndicationMessageAsn.format1 (indMsgOf ue)
        IndMsg.frmt1 (fun _ => rfl) fun _ _ => IndMsg.frmt1.inj).trans ?_
      rw [bind_eq_ok]
      exact seqRanParams_back_iff params
  | frmt2 ueIds =>
      refine (map_back_iff (encIndMsgFrmt2 ue) (decIndMsgFrmt2 ue) IndicationMessageAsn.format2
        (indMsgOf ue) IndMsg.frmt2 (fun _ => rfl) fun _ _ => IndMsg.frmt2.inj).trans ?_
      rw [bind_eq_ok]
      exact within_kept_iff (seqUeId_back_iff keeps)
  | frmt3 cells =>
      refine (map_back_iff encIndMsgFrmt3 decIndMsgFrmt3 IndicationMessageAsn.format3 (indMsgOf ue)
        IndMsg.frmt3 (fun _ => rfl) fun _ _ => IndMsg.frmt3.inj).trans ?_
      rw [bind_eq_ok]
      exact within_kept_iff seqCellInfo_back_iff
  | frmt4 msg =>
      refine (map_back_iff (encIndMsgFrmt4 ue) (decIndMsgFrmt4 ue) IndicationMessageAsn.format4
        (indMsgOf ue) IndMsg.frmt4 (fun _ => rfl) fun _ _ => IndMsg.frmt4.inj).trans ?_
      exact indMsgFrmt4_back_iff keeps msg
  | frmt5 params =>
      refine (map_back_iff encIndMsgFrmt5 decIndMsgFrmt5 IndicationMessageAsn.format5 (indMsgOf ue)
        IndMsg.frmt5 (fun _ => rfl) fun _ _ => IndMsg.frmt5.inj).trans ?_
      rw [bind_eq_ok]
      exact atMost_kept_iff seqRanParam_back_iff
  | frmt6 styles =>
      refine (map_back_iff encIndMsgFrmt6 decIndMsgFrmt6 IndicationMessageAsn.format6 (indMsgOf ue)
        IndMsg.frmt6 (fun _ => rfl) fun _ _ => IndMsg.frmt6.inj).trans ?_
      rw [bind_eq_ok]
      exact within_kept_iff seqInsStyle2_back_iff

theorem indHdr_packed_iff {p : Packing IndicationHeaderAsn} {hdr : IndHdr}
    (carries : p.Carries indHdrRoom (indHdrUnit ue) hdr) :
    (rcEncIndHdrAsn ue p hdr >>= rcDecIndHdrAsn ue p) = .ok hdr ↔ IndHdrKept UeKept hdr := by
  rw [rcEncIndHdrAsn, rcDecIndHdrAsn, packed_back carries]
  exact indHdr_back_iff keeps hdr

theorem indMsg_packed_iff {p : Packing IndicationMessageAsn} {msg : IndMsg}
    (carries : p.Carries indMsgRoom (indMsgUnit ue) msg) :
    (rcEncIndMsgAsn ue p msg >>= rcDecIndMsgAsn ue p) = .ok msg ↔ IndMsgKept UeKept msg := by
  rw [rcEncIndMsgAsn, rcDecIndMsgAsn, packed_back carries]
  exact indMsg_back_iff keeps msg

end

/-- The header and the message of an indication come back from their bytes just where each of
    their parts does. -/
theorem rc_indication_back_iff (there here : E2sm.Memory) :
    (∀ p (hdr : IndHdr), p.Carries indHdrRoom (indHdrUnit (E2sm.ueIdCodec there here)) hdr →
      ((rcEncIndHdrAsn (E2sm.ueIdCodec there here) p hdr >>=
        rcDecIndHdrAsn (E2sm.ueIdCodec there here) p) = .ok hdr ↔
          IndHdrKept (E2sm.UeIdKeptIn here) hdr)) ∧
    ∀ p (msg : IndMsg), p.Carries indMsgRoom (indMsgUnit (E2sm.ueIdCodec there here)) msg →
      ((rcEncIndMsgAsn (E2sm.ueIdCodec there here) p msg >>=
        rcDecIndMsgAsn (E2sm.ueIdCodec there here) p) = .ok msg ↔
          IndMsgKept (E2sm.UeIdKeptIn here) msg) := by
  constructor
  · intro p hdr carries
    exact indHdr_packed_iff (E2sm.ueIdCodec_keeps there here) carries
  · intro p msg carries
    exact indMsg_packed_iff (E2sm.ueIdCodec_keeps there here) carries

/-- A UE that is told about, and what is told: parameter 1 is true. -/
def aUeInsert : IndHdr := .frmt2 ⟨E2sm.aUeId, 1, 1⟩

def aUeReport : IndMsg := .frmt2 [⟨E2sm.aUeId, [⟨1, .flagTrue (.boolRan true)⟩]⟩]

theorem aUeInsert_kept : IndHdrKept (E2sm.UeIdKeptIn (.replicate 8 0)) aUeInsert :=
  ⟨E2sm.aUeId_kept, by decide⟩

theorem aUeReport_kept : IndMsgKept (E2sm.UeIdKeptIn (.replicate 8 0)) aUeReport := by
  have param : SeqRanParamKept ⟨1, .flagTrue (.boolRan true)⟩ :=
    { ranParamId := by decide
      ranParamVal := .flagTrue _ }
  have about : SeqUeIdKept (E2sm.UeIdKeptIn (.replicate 8 0))
      ⟨E2sm.aUeId, [⟨1, .flagTrue (.boolRan true)⟩]⟩ :=
    { ueId := E2sm.aUeId_kept
      seqRanParam := ⟨⟨Nat.le_refl 1, by decide⟩, List.forall_mem_singleton.mpr param⟩ }
  exact ⟨⟨Nat.le_refl 1, by decide⟩, List.forall_mem_singleton.mpr about⟩

/-- Both in aligned PER. -/
def anInsertPer (unit : IndicationHeaderAsn) : Packing IndicationHeaderAsn :=
  .always unit 0x20 [0x00, 0x00, 0x01, 0x00, 0x02, 0xF8, 0x39, 0x01, 0x00, 0x41, 0x01, 0x01, 0x00,
    0x00, 0x00]

def aReportPer (unit : IndicationMessageAsn) : Packing IndicationMessageAsn :=
  .always unit 0x08 [0x00, 0x00, 0x00, 0x00, 0x01, 0x00, 0x02, 0xF8, 0x39, 0x01, 0x00, 0x41, 0x00,
    0x00, 0x00, 0x00, 0x00, 0x80]

theorem rc_indication_back_ue :
    ∃ hdrUnit msgUnit,
      (rcEncIndHdrAsn E2sm.aUeIdCodec (anInsertPer hdrUnit) aUeInsert >>=
        rcDecIndHdrAsn E2sm.aUeIdCodec (anInsertPer hdrUnit)) = .ok aUeInsert ∧
      (rcEncIndMsgAsn E2sm.aUeIdCodec (aReportPer msgUnit) aUeReport >>=
        rcDecIndMsgAsn E2sm.aUeIdCodec (aReportPer msgUnit)) = .ok aUeReport := by
  have all := rc_indication_back_iff (.replicate 8 0) (.replicate 8 0)
  exact ⟨_, _,
    (all.1 _ aUeInsert (Packing.always_carries rfl (by decide))).mpr aUeInsert_kept,
    (all.2 _ aUeReport (Packing.always_carries rfl (by decide))).mpr aUeReport_kept⟩

end FlexRic.Rc
