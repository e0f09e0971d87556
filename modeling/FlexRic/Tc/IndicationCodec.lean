import FlexRic.Tc.Indication
import Mathlib.Data.Vector.MapLemmas

/-! # Indications of the traffic control service model, there and back

The three traversals agree on the layout, so every message is written and read
without a failed assertion. What comes back lacks what the layout leaves out.
-/

namespace FlexRic.Tc

open Wire

@[simp] theorem length_tcEncSch (sch : Sch) : (tcEncSch sch).length = calSchPayload sch := by
  cases sch <;> simp [tcEncSch, calSchPayload]

@[simp] theorem length_tcEncMtr (mtr : Mtr) : (tcEncMtr mtr).length = calMtrPayload mtr := by
  simp [tcEncMtr, calMtrPayload]

@[simp] theorem length_tcEncPcr (pcr : Pcr) : (tcEncPcr pcr).length = calPcrPayload pcr := by
  simp [tcEncPcr, calPcrPayload, calMtrPayload]

@[simp] theorem length_tcEncCls (cls : Cls) : (tcEncCls cls).length = calClsPayload cls := by
  cases cls <;> simp [tcEncCls, calClsPayload, tcEncClsOsi, calClsOsiPayload,
    length_writeMany length_encOsiFilter]

@[simp] theorem length_tcEncShp (shp : Shp) : (tcEncShp shp).length = calShpPayload shp := by
  simp [tcEncShp, calShpPayload, calMtrPayload]

@[simp] theorem length_tcEncDrp (drp : Drp) : (tcEncDrp drp).length = calDrpPayload drp :=
  length_u32 _

@[simp] theorem length_tcEncMrk (mrk : Mrk) : (tcEncMrk mrk).length = calMrkPayload mrk :=
  length_u32 _

@[simp] theorem length_tcEncPlc (plc : Plc) : (tcEncPlc plc).length = calPlcPayload plc := by
  simp [tcEncPlc, calPlcPayload, calMtrPayload, calDrpPayload, calMrkPayload]

theorem length_encQueueStats {κ : Type} {enc : κ → Bytes} {cal : κ → Nat}
    (counts : ∀ c, (enc c).length = cal c) (q : QueueStats κ) :
    (encQueueStats enc q).length = calQueueStats cal q := by
  simp [encQueueStats, calQueueStats, counts]
  omega

@[simp] theorem length_tcEncQ (q : Queue) : (tcEncQ q).length = calQPayload q := by
  rw [tcEncQ, calQPayload, List.length_append, length_tag]
  cases q.kind with
  | fifo fifo => rw [length_encQueueStats length_tcEncDrp]
  | codel codel => rw [length_encQueueStats length_tcEncDrp]
  | ecn ecn => rw [length_encQueueStats length_tcEncMrk]

def writeQShpPlc (e : QShpPlc) : Bytes := tcEncShp e.shp ++ tcEncPlc e.plc ++ tcEncQ e.q

@[simp] theorem length_writeQShpPlc (e : QShpPlc) : (writeQShpPlc e).length = calQShpPlc e := by
  simp [writeQShpPlc, calQShpPlc]
  omega

/-- The bytes of a message. -/
def writeIndMsg (m : IndMsg) : Bytes :=
  tcEncSch m.sch ++ tcEncPcr m.pcr ++ tcEncCls m.cls ++ u32 m.lenQ ++
    writeMany writeQShpPlc m.qShpPlc ++ i64 m.tstamp

theorem length_writeIndMsg (m : IndMsg) : (writeIndMsg m).length = calIndMsgPayload m := by
  have queues : (m.qShpPlc.toList.flatMap writeQShpPlc).length =
      (m.qShpPlc.toList.map calQShpPlc).sum := by
    simp [List.length_flatMap]
  simp only [writeIndMsg, calIndMsgPayload, writeMany, List.length_append, length_tcEncSch,
    length_tcEncPcr, length_tcEncCls, length_u32, length_i64, queues]

theorem advanceIn_ok {sz : Nat} {it part : Bytes} (inside : (it ++ part).length < sz) :
    advanceIn sz it part = .ok (it ++ part) := by
  rw [advanceIn, check_pass _ inside]
  rfl

theorem encQShpPlc_ok {sz : Nat} {it : Bytes} {e : QShpPlc}
    (inside : (it ++ writeQShpPlc e).length < sz) :
    encQShpPlc sz it e = .ok (it ++ writeQShpPlc e) := by
  simp only [writeQShpPlc, List.length_append] at inside
  rw [encQShpPlc, advanceIn_ok, ok_bind, advanceIn_ok, ok_bind, advanceIn_ok]
  · simp [writeQShpPlc]
  all_goals
    simp only [List.length_append]
    omega

/-- The loop goes through while it stays inside the chunk. -/
theorem foldlM_encQShpPlc {sz : Nat} (es : List QShpPlc) {it : Bytes}
    (inside : (it ++ es.flatMap writeQShpPlc).length < sz) :
    es.foldlM (encQShpPlc sz) it = .ok (it ++ es.flatMap writeQShpPlc) := by
  induction es generalizing it with
  | nil => simp
  | cons e es ih =>
      rw [List.flatMap_cons, ← List.append_assoc] at inside ⊢
      have first : (it ++ writeQShpPlc e).length < sz := by
        rw [List.length_append] at inside
        omega
      rw [List.foldlM_cons, encQShpPlc_ok first, ok_bind, ih inside]

/-- No assertion of the encoder fails. -/
theorem tcEncIndMsgPlain_ok (m : IndMsg) : tcEncIndMsgPlain m = .ok (writeIndMsg m) := by
  have whole := length_writeIndMsg m
  simp only [writeIndMsg, writeMany, List.length_append, length_i64] at whole
  rw [tcEncIndMsgPlain, advanceIn_ok, ok_bind, advanceIn_ok, ok_bind, advanceIn_ok, ok_bind,
    advanceIn_ok, ok_bind, foldlM_encQShpPlc, ok_bind, writeAll_eq_ok]
  · constructor
    · simp only [List.length_append, List.nil_append, length_i64]
      omega
    · simp [writeIndMsg, writeMany]
  all_goals
    simp only [List.length_append, List.nil_append]
    omega

/-- A round robin as it comes back. -/
def Sch.received : Sch → Sch
  | .rr _ => .rr { dummy := 0 }
  | .prio p => .prio p

/-- A queue as it comes back. -/
def Queue.received (q : Queue) : Queue := { q with id := 0 }

def QShpPlc.received (e : QShpPlc) : QShpPlc := { e with q := e.q.received }

/-- A message as it comes back. -/
def IndMsg.received (m : IndMsg) : IndMsg :=
  { m with sch := m.sch.received, q := m.q.map Queue.received }

@[simp] theorem tcDecSch_run (sch : Sch) (rest : Bytes) :
    tcDecSch.run (tcEncSch sch ++ rest) = .ok (sch.received, rest) := by
  cases sch <;> simp [tcDecSch, tcEncSch, Sch.type, Sch.received]

@[simp] theorem tcDecMtr_run (mtr : Mtr) (rest : Bytes) :
    tcDecMtr.run (tcEncMtr mtr ++ rest) = .ok (mtr, rest) := by
  simp [tcDecMtr, tcEncMtr]

@[simp] theorem tcDecPcr_run (pcr : Pcr) (rest : Bytes) :
    tcDecPcr.run (tcEncPcr pcr ++ rest) = .ok (pcr, rest) := by
  simp [tcDecPcr, tcEncPcr]

@[simp] theorem tcDecClsOsi_run (osi : ClsOsi) (rest : Bytes) :
    tcDecClsOsi.run (tcEncClsOsi osi ++ rest) = .ok (osi, rest) := by
  simp [tcDecClsOsi, tcEncClsOsi, readMany_run decOsiFilter_run]

@[simp] theorem tcDecCls_run (cls : Cls) (rest : Bytes) :
    tcDecCls.run (tcEncCls cls ++ rest) = .ok (cls, rest) := by
  cases cls <;> simp [tcDecCls, tcEncCls, Cls.type]

@[simp] theorem tcDecShp_run (shp : Shp) (rest : Bytes) :
    tcDecShp.run (tcEncShp shp ++ rest) = .ok (shp, rest) := by
  simp [tcDecShp, tcEncShp]

@[simp] theorem tcDecDrp_run (drp : Drp) (rest : Bytes) :
    tcDecDrp.run (tcEncDrp drp ++ rest) = .ok (drp, rest) := by
  simp [tcDecDrp, tcEncDrp]

@[simp] theorem tcDecMrk_run (mrk : Mrk) (rest : Bytes) :
    tcDecMrk.run (tcEncMrk mrk ++ rest) = .ok (mrk, rest) := by
  simp [tcDecMrk, tcEncMrk]

@[simp] theorem tcDecPlc_run (plc : Plc) (rest : Bytes) :
    tcDecPlc.run (tcEncPlc plc ++ rest) = .ok (plc, rest) := by
  simp [tcDecPlc, tcEncPlc]

theorem decQueueStats_run {κ : Type} {enc : κ → Bytes} {dec : Reader κ}
    (counts : ∀ c rest, dec.run (enc c ++ rest) = .ok (c, rest)) (q : QueueStats κ)
    (rest : Bytes) :
    (decQueueStats dec).run (encQueueStats enc q ++ rest) = .ok (q, rest) := by
  simp [decQueueStats, encQueueStats, counts]

@[simp] theorem tcDecQ_run (q : Queue) (rest : Bytes) :
    tcDecQ.run (tcEncQ q ++ rest) = .ok (q.received, rest) := by
  cases hk : q.kind <;>
    simp [tcDecQ, tcEncQ, hk, QueueKind.type, Queue.received, decQueueStats_run tcDecDrp_run,
      decQueueStats_run tcDecMrk_run]

/-- What a queue brings is read back when something follows it. -/
theorem decQShpPlc_run (e : QShpPlc) {rest : Bytes} (after : rest ≠ []) :
    decQShpPlc.run (writeQShpPlc e ++ rest) = .ok (e.received, rest) := by
  simp [decQShpPlc, writeQShpPlc, QShpPlc.received, after]

/-! The three arrays come apart as they were put together. -/

theorem map_shp_qShpPlc (m : IndMsg) :
    (m.qShpPlc.map QShpPlc.received).map QShpPlc.shp = m.shp := by
  apply List.Vector.ext
  intro i
  simp [IndMsg.qShpPlc, QShpPlc.received]

theorem map_plc_qShpPlc (m : IndMsg) :
    (m.qShpPlc.map QShpPlc.received).map QShpPlc.plc = m.plc := by
  apply List.Vector.ext
  intro i
  simp [IndMsg.qShpPlc, QShpPlc.received]

theorem map_q_qShpPlc (m : IndMsg) :
    (m.qShpPlc.map QShpPlc.received).map QShpPlc.q = m.q.map Queue.received := by
  apply List.Vector.ext
  intro i
  simp [IndMsg.qShpPlc, QShpPlc.received]

/-- No assertion of the decoder fails, and it reads all the bytes. -/
theorem tcDecIndMsgPlain_ok (m : IndMsg) :
    tcDecIndMsgPlain (writeIndMsg m) = .ok m.received := by
  have stamp : i64 m.tstamp ≠ [] := i64_ne_nil m.tstamp
  have queues := readMany_run_of (· ≠ []) QShpPlc.received
    (fun _ _ after => List.append_ne_nil_of_right_ne_nil _ after)
    (fun e _ after => decQShpPlc_run e after) m.qShpPlc stamp
  have last := readI64_run m.tstamp []
  rw [List.append_nil] at last
  apply readAll_ok
  simp only [tcDecIndMsg, writeIndMsg, List.append_assoc]
  simp [-List.Vector.map_map, queues, stamp, last, IndMsg.received, map_shp_qShpPlc,
    map_plc_qShpPlc, map_q_qShpPlc]

/-- The priorities of a scheduler that has some. -/
def Sch.priorities : Sch → Option SchPrio
  | .rr _ => none
  | .prio p => some p

/-- The messages are the same to the one who receives. -/
structure SameToReceiver (m m' : IndMsg) : Prop where
  schType : m'.sch.type = m.sch.type
  priorities : m'.sch.priorities = m.sch.priorities
  pcr : m'.pcr = m.pcr
  cls : m'.cls = m.cls
  shp : m'.shp.toList = m.shp.toList
  plc : m'.plc.toList = m.plc.toList
  q : m'.q.toList = m.q.toList
  tstamp : m'.tstamp = m.tstamp

/-- The message is written on as many bytes as announced and they are read as a
    message that is the same to the receiver. -/
def IndMsg.RoundTrips (m : IndMsg) : Prop :=
  ∃ bytes m', tcEncIndMsgPlain m = .ok bytes ∧ bytes.length = calIndMsgPayload m ∧
    tcDecIndMsgPlain bytes = .ok m' ∧ SameToReceiver m m'

/-- The layout loses the ids of the queues and nothing else a receiver looks at. -/
theorem sameToReceiver_received_iff (m : IndMsg) :
    SameToReceiver m m.received ↔ ∀ q ∈ m.q.toList, q.id = 0 := by
  have ids : m.q.toList.map Queue.received = m.q.toList ↔ ∀ q ∈ m.q.toList, q.id = 0 := by
    have each (q : Queue) : q.received = id q ↔ q.id = 0 := by
      cases q
      simp [Queue.received, eq_comm]
    calc m.q.toList.map Queue.received = m.q.toList
      _ ↔ m.q.toList.map Queue.received = m.q.toList.map id := by rw [List.map_id]
      _ ↔ ∀ q ∈ m.q.toList, q.received = id q := List.map_inj_left
      _ ↔ ∀ q ∈ m.q.toList, q.id = 0 := by simp only [each]
  constructor
  · intro same
    rw [← ids, ← List.Vector.toList_map]
    exact same.q
  · intro zero
    constructor
    case schType => cases hs : m.sch <;> simp [IndMsg.received, hs, Sch.received, Sch.type]
    case priorities =>
      cases hs : m.sch <;> simp [IndMsg.received, hs, Sch.received, Sch.priorities]
    case q =>
      rw [IndMsg.received, List.Vector.toList_map]
      exact ids.mpr zero
    all_goals rfl

/-- What comes of a message is what is read from the bytes written for it. -/
theorem IndMsg.roundTrips_iff (m : IndMsg) : m.RoundTrips ↔ SameToReceiver m m.received := by
  constructor
  · intro trip
    obtain ⟨bytes, m', written, _, back, same⟩ := trip
    rw [tcEncIndMsgPlain_ok] at written
    cases written
    rw [tcDecIndMsgPlain_ok] at back
    cases back
    exact same
  · intro same
    exact ⟨_, _, tcEncIndMsgPlain_ok m, length_writeIndMsg m, tcDecIndMsgPlain_ok m, same⟩

theorem indication_round_trip_iff (m : IndMsg) :
    m.RoundTrips ↔ ∀ q ∈ m.q.toList, q.id = 0 :=
  m.roundTrips_iff.trans (sameToReceiver_received_iff m)

/-- One queue, and its id is 1. -/
def oneQueue : IndMsg where
  sch := .rr { dummy := 0 }
  pcr := { type := 0, id := 0, mtr := { timeWindowMs := 0, bnd := 0 } }
  cls := .rr { dummy := 0 }
  lenQ := 1
  shp := .replicate _ { id := 0, active := 0, maxRateKbps := 0,
                        mtr := { timeWindowMs := 0, bnd := 0 } }
  plc := .replicate _ { id := 0, mtr := { timeWindowMs := 0, bnd := 0 },
                        drp := { droppedPkts := 0 }, mrk := { markedPkts := 0 },
                        maxRateKbps := 0, active := 0, dstId := 0, devId := 0 }
  q := .replicate _ { id := 1, kind := .fifo { bytes := 0, pkts := 0, bytesFwd := 0, pktsFwd := 0,
                                               count := { droppedPkts := 0 },
                                               avgSojournTime := 0, lastSojournTime := 0 } }
  tstamp := 0

theorem queue_id_lost : ¬oneQueue.RoundTrips := by
  intro trip
  have same := oneQueue.roundTrips_iff.mp trip
  have ids := congrArg (List.map Queue.id) same.q
  exact absurd ids (by decide)

end FlexRic.Tc
