import FlexRic.Library.Canonical
import FlexRic.Tc.ControlCodec
import FlexRic.Tc.IndicationCodec

/-! # What the readers of the traffic control service model accept

An indication is accepted just when it was written for a message as it comes back. So is a
control message, but for the addition of an OSI classifier: the reader takes the bytes that the
writer gives up on.
-/

namespace FlexRic.Tc

open Wire

instance : ExactTag ClsE where
  code_of_ofCode v a known := by
    simp only [Tag.ofCode] at known
    split_ifs at known <;> cases known <;> subst_vars <;> rfl

instance : ExactTag QueueE where
  code_of_ofCode v a known := by
    simp only [Tag.ofCode] at known
    split_ifs at known <;> cases known <;> subst_vars <;> rfl

instance : ExactTag SchE where
  code_of_ofCode v a known := by
    simp only [Tag.ofCode] at known
    split_ifs at known <;> cases known <;> subst_vars <;> rfl

instance : ExactTag PcrE where
  code_of_ofCode v a known := by
    simp only [Tag.ofCode] at known
    split_ifs at known <;> cases known <;> subst_vars <;> rfl

instance : ExactTag CtrlActE where
  code_of_ofCode v a known := by
    simp only [Tag.ofCode] at known
    split_ifs at known <;> cases known <;> subst_vars <;> rfl

instance : ExactTag CtrlMsgE where
  code_of_ofCode v a known := by
    simp only [Tag.ofCode] at known
    split_ifs at known <;> cases known <;> subst_vars <;> rfl

theorem decDummy_canonical : Canonical decDummy encDummy := by
  intro bytes d rest taken
  simp only [decDummy, run_bind_eq_ok, readU32_eq_ok, run_pure_eq_ok] at taken
  obtain ⟨word, _, rfl, rfl, rfl⟩ := taken
  rfl

theorem decOsiFilter_canonical : Canonical decOsiFilter encOsiFilter := by
  intro bytes f rest taken
  simp only [decOsiFilter, run_bind_eq_ok, readU32_eq_ok, readI64_eq_ok, readI32_eq_ok,
    run_pure_eq_ok] at taken
  obtain ⟨id, _, rfl, pad, _, rfl, src, _, rfl, dst, _, rfl, srcPort, _, rfl, dstPort, _, rfl,
    protocol, _, rfl, l7, _, l7Part, queue, _, rfl, padEnd, _, rfl, rfl, rfl⟩ := taken
  rw [decDummy_canonical _ _ _ l7Part]
  simp only [encOsiFilter, List.append_assoc]

theorem decSchPrio_canonical : Canonical decSchPrio encSchPrio := by
  have word : Canonical readU32 u32 := fun _ _ _ taken => readU32_eq_ok.mp taken
  exact word.counted

theorem tcDecSch_canonical : Canonical tcDecSch tcEncSch := by
  intro bytes sch rest taken
  simp only [tcDecSch, run_bind_eq_ok, readTag_eq_ok] at taken
  obtain ⟨type, _, rfl, taken⟩ := taken
  cases type with
  | rr =>
      obtain ⟨rfl, rfl⟩ := run_pure_eq_ok.mp taken
      rw [tcEncSch, List.append_nil]
      rfl
  | prio =>
      obtain ⟨prio, rfl, rfl⟩ := decSchPrio_canonical.under taken
      rw [tcEncSch, List.append_assoc]
      rfl

theorem tcDecMtr_canonical : Canonical tcDecMtr tcEncMtr := by
  intro bytes mtr rest taken
  simp only [tcDecMtr, run_bind_eq_ok, readU32_eq_ok, run_pure_eq_ok] at taken
  obtain ⟨bnd, _, rfl, window, _, rfl, rfl, rfl⟩ := taken
  rw [tcEncMtr, List.append_assoc]

theorem tcDecPcr_canonical : Canonical tcDecPcr tcEncPcr := by
  intro bytes pcr rest taken
  simp only [tcDecPcr, run_bind_eq_ok, readU32_eq_ok, run_pure_eq_ok] at taken
  obtain ⟨type, _, rfl, id, _, rfl, mtr, _, mtrPart, rfl, rfl⟩ := taken
  rw [tcDecMtr_canonical _ _ _ mtrPart]
  simp only [tcEncPcr, List.append_assoc]

theorem tcDecCls_canonical : Canonical tcDecCls tcEncCls := by
  have osi : Canonical tcDecClsOsi tcEncClsOsi := decOsiFilter_canonical.counted
  intro bytes cls rest taken
  simp only [tcDecCls, run_bind_eq_ok, readTag_eq_ok] at taken
  obtain ⟨type, _, rfl, taken⟩ := taken
  cases type with
  | rr =>
      obtain ⟨rr, rfl, rfl⟩ := decDummy_canonical.under taken
      rw [tcEncCls, List.append_assoc]
      rfl
  | osi =>
      obtain ⟨filters, rfl, rfl⟩ := osi.under taken
      rw [tcEncCls, List.append_assoc]
      rfl
  | sto =>
      obtain ⟨sto, rfl, rfl⟩ := decDummy_canonical.under taken
      rw [tcEncCls, List.append_assoc]
      rfl

theorem tcDecShp_canonical : Canonical tcDecShp tcEncShp := by
  intro bytes shp rest taken
  simp only [tcDecShp, run_bind_eq_ok, readU32_eq_ok, run_pure_eq_ok] at taken
  obtain ⟨id, _, rfl, active, _, rfl, rate, _, rfl, mtr, _, mtrPart, rfl, rfl⟩ := taken
  rw [tcDecMtr_canonical _ _ _ mtrPart]
  simp only [tcEncShp, List.append_assoc]

theorem tcDecDrp_canonical : Canonical tcDecDrp tcEncDrp := by
  intro bytes drp rest taken
  simp only [tcDecDrp, run_bind_eq_ok, readU32_eq_ok, run_pure_eq_ok] at taken
  obtain ⟨dropped, _, rfl, rfl, rfl⟩ := taken
  rfl

theorem tcDecMrk_canonical : Canonical tcDecMrk tcEncMrk := by
  intro bytes mrk rest taken
  simp only [tcDecMrk, run_bind_eq_ok, readU32_eq_ok, run_pure_eq_ok] at taken
  obtain ⟨marked, _, rfl, rfl, rfl⟩ := taken
  rfl

theorem tcDecPlc_canonical : Canonical tcDecPlc tcEncPlc := by
  intro bytes plc rest taken
  simp only [tcDecPlc, run_bind_eq_ok, readU32_eq_ok, run_pure_eq_ok] at taken
  obtain ⟨id, _, rfl, mtr, _, mtrPart, drp, _, drpPart, mrk, _, mrkPart, rate, _, rfl, active, _,
    rfl, dst, _, rfl, dev, _, rfl, rfl, rfl⟩ := taken
  rw [tcDecMtr_canonical _ _ _ mtrPart, tcDecDrp_canonical _ _ _ drpPart,
    tcDecMrk_canonical _ _ _ mrkPart]
  simp only [tcEncPlc, List.append_assoc]

theorem decQueueStats_canonical {κ : Type} {dec : Reader κ} {enc : κ → Bytes}
    (counts : Canonical dec enc) : Canonical (decQueueStats dec) (encQueueStats enc) := by
  intro bytes q rest taken
  simp only [decQueueStats, run_bind_eq_ok, readU32_eq_ok, readI64_eq_ok, run_pure_eq_ok] at taken
  obtain ⟨size, _, rfl, pkts, _, rfl, sizeFwd, _, rfl, pktsFwd, _, rfl, count, _, countPart, avg,
    _, rfl, last, _, rfl, rfl, rfl⟩ := taken
  rw [counts _ _ _ countPart]
  simp only [encQueueStats, List.append_assoc]

theorem tcDecQ_canonical : Canonical tcDecQ tcEncQ := by
  intro bytes q rest taken
  simp only [tcDecQ, run_bind_eq_ok, readTag_eq_ok] at taken
  obtain ⟨type, _, rfl, taken⟩ := taken
  cases type with
  | fifo =>
      obtain ⟨fifo, rfl, rfl⟩ := (decQueueStats_canonical tcDecDrp_canonical).under taken
      rw [tcEncQ, List.append_assoc]
      rfl
  | codel =>
      obtain ⟨codel, rfl, rfl⟩ := (decQueueStats_canonical tcDecDrp_canonical).under taken
      rw [tcEncQ, List.append_assoc]
      rfl
  | ecnCodel =>
      obtain ⟨ecn, rfl, rfl⟩ := (decQueueStats_canonical tcDecMrk_canonical).under taken
      rw [tcEncQ, List.append_assoc]
      rfl

theorem decQShpPlc_canonical : Canonical decQShpPlc writeQShpPlc := by
  intro bytes e rest taken
  simp only [decQShpPlc, run_bind_eq_ok, more_eq_ok, run_pure_eq_ok] at taken
  obtain ⟨shp, _, shpPart, _, _, ⟨_, rfl⟩, plc, _, plcPart, _, _, ⟨_, rfl⟩, q, _, qPart, _, _,
    ⟨_, rfl⟩, rfl, rfl⟩ := taken
  rw [tcDecShp_canonical _ _ _ shpPart, tcDecPlc_canonical _ _ _ plcPart,
    tcDecQ_canonical _ _ _ qPart]
  simp only [writeQShpPlc, List.append_assoc]

/-- The three arrays go together as they came apart. -/
theorem zip_qShpPlc {n : Nat} (es : List.Vector QShpPlc n) :
    List.Vector.zipWith (fun shp plcQ => { shp, plc := plcQ.1, q := plcQ.2 })
      (es.map QShpPlc.shp)
      (List.Vector.zipWith Prod.mk (es.map QShpPlc.plc) (es.map QShpPlc.q)) = es := by
  apply List.Vector.ext
  intro i
  simp

theorem tcDecIndMsg_canonical : Canonical tcDecIndMsg writeIndMsg := by
  intro bytes m rest taken
  simp only [tcDecIndMsg, run_bind_eq_ok, more_eq_ok, readU32_eq_ok, readI64_eq_ok,
    run_pure_eq_ok] at taken
  obtain ⟨sch, _, schPart, _, _, ⟨_, rfl⟩, pcr, _, pcrPart, _, _, ⟨_, rfl⟩, cls, _, clsPart, _, _,
    ⟨_, rfl⟩, lenQ, _, rfl, _, _, ⟨_, rfl⟩, es, _, queues, tstamp, _, rfl, rfl, rfl⟩ := taken
  rw [tcDecSch_canonical _ _ _ schPart, tcDecPcr_canonical _ _ _ pcrPart,
    tcDecCls_canonical _ _ _ clsPart, decQShpPlc_canonical.many _ _ _ queues]
  simp only [writeIndMsg, IndMsg.qShpPlc, zip_qShpPlc, List.append_assoc]

/-- An indication is accepted just when it is what the writer writes for a message that comes back
    as it is: a round robin that holds nothing, and queues without ids. -/
theorem tc_indication_accepted_iff (bytes : Bytes) (m : IndMsg) :
    tcDecIndMsgPlain bytes = .ok m ↔ tcEncIndMsgPlain m = .ok bytes ∧ m.received = m := by
  rw [tcEncIndMsgPlain_ok, Except.ok.injEq]
  constructor
  · intro accepted
    have written := tcDecIndMsg_canonical.readAll_eq accepted
    rw [written, tcDecIndMsgPlain_ok, Except.ok.injEq] at accepted
    exact ⟨written.symm, accepted⟩
  · intro both
    rw [← both.1, tcDecIndMsgPlain_ok, both.2]

section

variable {α δ μ ο : Type}

theorem decCtrl_canonical {encAdd : α → Bytes} {encDel : δ → Bytes} {encMod : μ → Bytes}
    {decAdd : Reader α} {decDel : Reader δ} {decMod : Reader μ} (add : Canonical decAdd encAdd)
    (del : Canonical decDel encDel) (mod : Canonical decMod encMod) :
    Canonical (decCtrl decAdd decDel decMod) (encCtrl encAdd encDel encMod) := by
  intro bytes c rest taken
  simp only [decCtrl, run_bind_eq_ok, readTag_eq_ok] at taken
  obtain ⟨act, _, rfl, taken⟩ := taken
  cases act with
  | add =>
      obtain ⟨part, rfl, rfl⟩ := add.under taken
      rw [encCtrl, List.append_assoc]
      rfl
  | del =>
      obtain ⟨part, rfl, rfl⟩ := del.under taken
      rw [encCtrl, List.append_assoc]
      rfl
  | mod =>
      obtain ⟨part, rfl, rfl⟩ := mod.under taken
      rw [encCtrl, List.append_assoc]
      rfl

theorem decCtrlClsOf_canonical {encOsi : ο → Bytes} {decOsi : Reader ο}
    (osi : Canonical decOsi encOsi) : Canonical (decCtrlClsOf decOsi) (encCtrlClsOf encOsi) := by
  intro bytes c rest taken
  simp only [decCtrlClsOf, run_bind_eq_ok, readTag_eq_ok] at taken
  obtain ⟨type, _, rfl, taken⟩ := taken
  cases type with
  | rr =>
      obtain ⟨rr, rfl, rfl⟩ := decDummy_canonical.under taken
      rw [encCtrlClsOf, List.append_assoc]
      rfl
  | osi =>
      obtain ⟨part, rfl, rfl⟩ := osi.under taken
      rw [encCtrlClsOf, List.append_assoc]
      rfl
  | sto =>
      obtain ⟨sto, rfl, rfl⟩ := decDummy_canonical.under taken
      rw [encCtrlClsOf, List.append_assoc]
      rfl

end

theorem decTcAddCtrlPayloadClsOsi_canonical :
    Canonical decTcAddCtrlPayloadClsOsi encTcAddCtrlPayloadClsOsi := by
  intro bytes osi rest taken
  simp only [decTcAddCtrlPayloadClsOsi, run_bind_eq_ok, readI64_eq_ok, readI32_eq_ok,
    run_pure_eq_ok] at taken
  obtain ⟨src, _, rfl, dst, _, rfl, srcPort, _, rfl, dstPort, _, rfl, protocol, _, rfl, queue, _,
    rfl, rfl, rfl⟩ := taken
  simp only [encTcAddCtrlPayloadClsOsi, List.append_assoc]

theorem decTcDelCtrlPayloadClsOsi_canonical :
    Canonical decTcDelCtrlPayloadClsOsi encTcDelCtrlPayloadClsOsi := by
  intro bytes osi rest taken
  simp only [decTcDelCtrlPayloadClsOsi, run_bind_eq_ok, readU32_eq_ok, run_pure_eq_ok] at taken
  obtain ⟨id, _, rfl, rfl, rfl⟩ := taken
  rfl

theorem decTcModCtrlPayloadClsOsi_canonical :
    Canonical decTcModCtrlPayloadClsOsi encTcModCtrlPayloadClsOsi := by
  intro bytes osi rest taken
  obtain ⟨filter, rfl, rfl⟩ := decOsiFilter_canonical.under taken
  rfl

theorem decTcCtrlPayloadCls_canonical : Canonical decTcCtrlPayloadCls encTcCtrlPayloadCls :=
  decCtrl_canonical (decCtrlClsOf_canonical decTcAddCtrlPayloadClsOsi_canonical)
    (decCtrlClsOf_canonical decTcDelCtrlPayloadClsOsi_canonical)
    (decCtrlClsOf_canonical decTcModCtrlPayloadClsOsi_canonical)

theorem decDelById_canonical : Canonical decDelById encDelById := by
  intro bytes del rest taken
  simp only [decDelById, run_bind_eq_ok, readU32_eq_ok, run_pure_eq_ok] at taken
  obtain ⟨id, _, rfl, rfl, rfl⟩ := taken
  rfl

theorem decTcCtrlPayloadPlc_canonical : Canonical decTcCtrlPayloadPlc encTcCtrlPayloadPlc := by
  apply decCtrl_canonical decDummy_canonical decDelById_canonical
  intro bytes mod rest taken
  simp only [decTcModCtrlPayloadPlc, run_bind_eq_ok, readU32_eq_ok, run_pure_eq_ok] at taken
  obtain ⟨id, _, rfl, dropRate, _, rfl, dev, _, rfl, devRate, _, rfl, active, _, rfl, rfl,
    rfl⟩ := taken
  simp only [encTcModCtrlPayloadPlc, List.append_assoc]

theorem decTcCtrlPayloadQCodel_canonical :
    Canonical decTcCtrlPayloadQCodel encTcCtrlPayloadQCodel := by
  intro bytes codel rest taken
  simp only [decTcCtrlPayloadQCodel, run_bind_eq_ok, readU32_eq_ok, run_pure_eq_ok] at taken
  obtain ⟨target, _, rfl, interval, _, rfl, rfl, rfl⟩ := taken
  rw [encTcCtrlPayloadQCodel, List.append_assoc]

theorem decTcAddCtrlPayloadQ_canonical : Canonical decTcAddCtrlPayloadQ encTcAddCtrlPayloadQ := by
  intro bytes add rest taken
  simp only [decTcAddCtrlPayloadQ, run_bind_eq_ok, readTag_eq_ok] at taken
  obtain ⟨type, _, rfl, taken⟩ := taken
  cases type with
  | fifo =>
      obtain ⟨fifo, rfl, rfl⟩ := decDummy_canonical.under taken
      rw [encTcAddCtrlPayloadQ, List.append_assoc]
      rfl
  | codel =>
      obtain ⟨codel, rfl, rfl⟩ := decTcCtrlPayloadQCodel_canonical.under taken
      rw [encTcAddCtrlPayloadQ, List.append_assoc]
      rfl
  | ecnCodel =>
      obtain ⟨ecn, rfl, rfl⟩ := decTcCtrlPayloadQCodel_canonical.under taken
      rw [encTcAddCtrlPayloadQ, List.append_assoc]
      rfl

theorem decTcCtrlPayloadQ_canonical : Canonical decTcCtrlPayloadQ encTcCtrlPayloadQ := by
  apply decCtrl_canonical decTcAddCtrlPayloadQ_canonical
  case del =>
    intro bytes del rest taken
    simp only [decTcDelCtrlPayloadQ, run_bind_eq_ok, readU32_eq_ok, run_pure_eq_ok] at taken
    obtain ⟨id, _, rfl, type, _, rfl, rfl, rfl⟩ := taken
    rw [encTcDelCtrlPayloadQ, List.append_assoc]
  case mod =>
    intro bytes mod rest taken
    simp only [decTcModCtrlPayloadQ, run_bind_eq_ok, readU32_eq_ok, run_pure_eq_ok] at taken
    obtain ⟨id, _, rfl, queue, _, queuePart, rfl, rfl⟩ := taken
    rw [decTcAddCtrlPayloadQ_canonical _ _ _ queuePart, encTcModCtrlPayloadQ, List.append_assoc]

theorem decTcCtrlPayloadSch_canonical : Canonical decTcCtrlPayloadSch encTcCtrlPayloadSch := by
  apply decCtrl_canonical decDummy_canonical decDummy_canonical
  intro bytes mod rest taken
  simp only [decTcModCtrlPayloadSch, run_bind_eq_ok, readTag_eq_ok] at taken
  obtain ⟨type, _, rfl, taken⟩ := taken
  cases type with
  | rr =>
      obtain ⟨rr, rfl, rfl⟩ := decDummy_canonical.under taken
      rw [encTcModCtrlPayloadSch, List.append_assoc]
      rfl
  | prio =>
      obtain ⟨prio, rfl, rfl⟩ := decSchPrio_canonical.under taken
      rw [encTcModCtrlPayloadSch, List.append_assoc]
      rfl

theorem decTcCtrlPayloadShp_canonical : Canonical decTcCtrlPayloadShp encTcCtrlPayloadShp := by
  apply decCtrl_canonical decDummy_canonical decDelById_canonical
  intro bytes mod rest taken
  simp only [decTcModCtrlPayloadShp, run_bind_eq_ok, readU32_eq_ok, run_pure_eq_ok] at taken
  obtain ⟨id, _, rfl, window, _, rfl, rate, _, rfl, active, _, rfl, rfl, rfl⟩ := taken
  simp only [encTcModCtrlPayloadShp, List.append_assoc]

theorem decTcModCtrlPayloadPcrBdp_canonical :
    Canonical decTcModCtrlPayloadPcrBdp encTcModCtrlPayloadPcrBdp := by
  intro bytes bdp rest taken
  simp only [decTcModCtrlPayloadPcrBdp, run_bind_eq_ok, readU32_eq_ok, readI64_eq_ok,
    run_pure_eq_ok] at taken
  obtain ⟨size, _, rfl, tstamp, _, rfl, rfl, rfl⟩ := taken
  rw [encTcModCtrlPayloadPcrBdp, List.append_assoc]

theorem decTcCtrlPayloadPcr_canonical : Canonical decTcCtrlPayloadPcr encTcCtrlPayloadPcr := by
  apply decCtrl_canonical decDummy_canonical decDummy_canonical
  intro bytes mod rest taken
  simp only [decTcModCtrlPayloadPcr, run_bind_eq_ok, readTag_eq_ok] at taken
  obtain ⟨type, _, rfl, taken⟩ := taken
  cases type with
  | dummy =>
      obtain ⟨dummy, rfl, rfl⟩ := decDummy_canonical.under taken
      rw [encTcModCtrlPayloadPcr, List.append_assoc]
      rfl
  | bdp5g =>
      obtain ⟨bdp, rfl, rfl⟩ := decTcModCtrlPayloadPcrBdp_canonical.under taken
      rw [encTcModCtrlPayloadPcr, List.append_assoc]
      rfl

theorem tcDecCtrlMsg_canonical : Canonical tcDecCtrlMsg encTcCtrlPayload := by
  intro bytes m rest taken
  simp only [tcDecCtrlMsg, run_bind_eq_ok, readTag_eq_ok] at taken
  obtain ⟨type, _, rfl, taken⟩ := taken
  cases type with
  | cls =>
      obtain ⟨cls, rfl, rfl⟩ := decTcCtrlPayloadCls_canonical.under taken
      rw [encTcCtrlPayload, List.append_assoc]
      rfl
  | plc =>
      obtain ⟨plc, rfl, rfl⟩ := decTcCtrlPayloadPlc_canonical.under taken
      rw [encTcCtrlPayload, List.append_assoc]
      rfl
  | queue =>
      obtain ⟨q, rfl, rfl⟩ := decTcCtrlPayloadQ_canonical.under taken
      rw [encTcCtrlPayload, List.append_assoc]
      rfl
  | sch =>
      obtain ⟨sch, rfl, rfl⟩ := decTcCtrlPayloadSch_canonical.under taken
      rw [encTcCtrlPayload, List.append_assoc]
      rfl
  | shp =>
      obtain ⟨shp, rfl, rfl⟩ := decTcCtrlPayloadShp_canonical.under taken
      rw [encTcCtrlPayload, List.append_assoc]
      rfl
  | pcr =>
      obtain ⟨pcr, rfl, rfl⟩ := decTcCtrlPayloadPcr_canonical.under taken
      rw [encTcCtrlPayload, List.append_assoc]
      rfl

/-- A control message as it comes back: the layer 7 filter of an added classifier is empty. -/
def CtrlMsg.received : CtrlMsg → CtrlMsg
  | .cls (.add (.osi osi)) => .cls (.add (.osi { osi with l7 := { dummy := 0 } }))
  | m => m

theorem CtrlMsg.received_of_others {m : CtrlMsg} (others : m.addsOsi = false) : m.received = m := by
  rw [CtrlMsg.received]
  intro osi same
  rw [same] at others
  cases others

theorem tcDecCtrlMsg_run_received (m : CtrlMsg) (rest : Bytes) :
    tcDecCtrlMsg.run (encTcCtrlPayload m ++ rest) = .ok (m.received, rest) := by
  by_cases adds : m.addsOsi = true
  case pos =>
    match m, adds with
    | .cls (.add (.osi osi)), _ =>
        simp [tcDecCtrlMsg, encTcCtrlPayload, CtrlMsg.type, decTcCtrlPayloadCls,
          encTcCtrlPayloadCls, decCtrl, encCtrl, Ctrl.act, decCtrlClsOf, encCtrlClsOf,
          CtrlClsOf.type, decTcAddCtrlPayloadClsOsi, encTcAddCtrlPayloadClsOsi, CtrlMsg.received]
  case neg =>
    have others := Bool.eq_false_of_not_eq_true adds
    rw [CtrlMsg.received_of_others others, tcDecCtrlMsg_run others]

theorem encTcCtrlPayload_ne_nil (m : CtrlMsg) : encTcCtrlPayload m ≠ [] := by
  cases m <;> simp [encTcCtrlPayload]

theorem tcDecCtrlMsgPlain_eq_ok {bytes : Bytes} {m : CtrlMsg} :
    tcDecCtrlMsgPlain bytes = .ok m ↔ bytes = encTcCtrlPayload m ∧ m.received = m := by
  have back (m : CtrlMsg) : tcDecCtrlMsgPlain (encTcCtrlPayload m) = .ok m.received := by
    have whole := tcDecCtrlMsg_run_received m []
    rw [List.append_nil] at whole
    rw [tcDecCtrlMsgPlain, check_pass _ (encTcCtrlPayload_ne_nil m), ok_bind, readAll_ok whole]
  constructor
  · intro accepted
    have reads := accepted
    simp only [tcDecCtrlMsgPlain, bind_eq_ok] at reads
    obtain ⟨_, _, reads⟩ := reads
    have written := tcDecCtrlMsg_canonical.readAll_eq reads
    rw [written, back, Except.ok.injEq] at accepted
    exact ⟨written, accepted⟩
  · rintro ⟨rfl, same⟩
    rw [back, same]

/-- What the writer writes for a message, and when it gives up. -/
theorem tcEncCtrlMsgPlain_eq (m : CtrlMsg) :
    tcEncCtrlMsgPlain m =
      if m.addsOsi then .error .mismatch else .ok (encTcCtrlPayload m) := by
  cases adds : m.addsOsi with
  | false => exact writeAll_eq_ok.mpr ⟨length_encTcCtrlPayload adds, rfl⟩
  | true =>
      have longer := length_encTcCtrlPayload_addsOsi adds
      have differs : (encTcCtrlPayload m).length ≠ calTcCtrlPayload m := by omega
      exact bind_eq_error.mpr (.inl (check_eq_error.mpr ⟨differs, rfl⟩))

/-- A control message is accepted just when it is what the writer writes for it, or when it adds an
    OSI classifier without a layer 7 filter, on which the writer gives up one word later. -/
theorem tc_control_accepted_iff (bytes : Bytes) (m : CtrlMsg) :
    tcDecCtrlMsgPlain bytes = .ok m ↔
      tcEncCtrlMsgPlain m = .ok bytes ∨
        bytes = encTcCtrlPayload m ∧ tcEncCtrlMsgPlain m = .error .mismatch ∧ m.received = m := by
  rw [tcDecCtrlMsgPlain_eq_ok, tcEncCtrlMsgPlain_eq]
  cases adds : m.addsOsi with
  | false =>
      have same := CtrlMsg.received_of_others adds
      simp [same, eq_comm]
  | true => simp

end FlexRic.Tc
