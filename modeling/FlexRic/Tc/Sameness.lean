import FlexRic.Tc.Equality

/-! # When equality and copies of traffic control messages are exact

The equality never answers no. It is right where two messages agree in every field, and
only there. What a copy leaves out has to be zero for the copy to be the same.
-/

namespace FlexRic.Tc

open Wire

section
variable (R : Float → FloatBits → FloatBits → Prop)

/-- Fields agree when they are equal, those that are floating-point numbers when they are
    related at their tolerance. -/
structure MtrRel (m0 m1 : Mtr) : Prop where
  timeWindowMs : m0.timeWindowMs = m1.timeWindowMs
  bnd : R hundredth m0.bnd m1.bnd

def SchRel : Sch → Sch → Prop
  | .rr m0, .rr m1 => m0 = m1
  | .prio m0, .prio m1 => m0.items.toList = m1.items.toList
  | _, _ => False

structure PcrRel (m0 m1 : Pcr) : Prop where
  type : m0.type = m1.type
  id : m0.id = m1.id
  mtr : MtrRel R m0.mtr m1.mtr

/-- All but the bytes that align. -/
structure OsiFilterRel (m0 m1 : OsiFilter) : Prop where
  id : m0.id = m1.id
  l3 : m0.l3 = m1.l3
  l4 : m0.l4 = m1.l4
  l7 : m0.l7 = m1.l7
  dstQueue : m0.dstQueue = m1.dstQueue

def ClsRel : Cls → Cls → Prop
  | .rr m0, .rr m1 => m0 = m1
  | .osi m0, .osi m1 => List.Forall₂ OsiFilterRel m0.items.toList m1.items.toList
  | .sto m0, .sto m1 => m0 = m1
  | _, _ => False

structure ShpRel (m0 m1 : Shp) : Prop where
  id : m0.id = m1.id
  active : m0.active = m1.active
  maxRateKbps : m0.maxRateKbps = m1.maxRateKbps
  mtr : MtrRel R m0.mtr m1.mtr

structure PlcRel (m0 m1 : Plc) : Prop where
  id : m0.id = m1.id
  mtr : MtrRel R m0.mtr m1.mtr
  drp : m0.drp = m1.drp
  mrk : m0.mrk = m1.mrk
  maxRateKbps : R hundredth m0.maxRateKbps m1.maxRateKbps
  active : m0.active = m1.active
  dstId : m0.dstId = m1.dstId
  devId : m0.devId = m1.devId

structure QueueStatsRel {κ : Type} (m0 m1 : QueueStats κ) : Prop where
  bytes : m0.bytes = m1.bytes
  pkts : m0.pkts = m1.pkts
  bytesFwd : m0.bytesFwd = m1.bytesFwd
  pktsFwd : m0.pktsFwd = m1.pktsFwd
  count : m0.count = m1.count
  avgSojournTime : R thousandth m0.avgSojournTime m1.avgSojournTime
  lastSojournTime : m0.lastSojournTime = m1.lastSojournTime

def QueueKindRel : QueueKind → QueueKind → Prop
  | .fifo m0, .fifo m1 => QueueStatsRel R m0 m1
  | .codel m0, .codel m1 => QueueStatsRel R m0 m1
  | .ecn m0, .ecn m1 => QueueStatsRel R m0 m1
  | _, _ => False

structure QShpPlcRel (e0 e1 : QShpPlc) : Prop where
  shp : ShpRel R e0.shp e1.shp
  plc : PlcRel R e0.plc e1.plc
  id : e0.q.id = e1.q.id
  kind : QueueKindRel R e0.q.kind e1.q.kind

structure IndMsgRel (m0 m1 : IndMsg) : Prop where
  sch : SchRel m0.sch m1.sch
  pcr : PcrRel R m0.pcr m1.pcr
  cls : ClsRel m0.cls m1.cls
  lenQ : m0.lenQ = m1.lenQ
  qShpPlc : List.Forall₂ (QShpPlcRel R) m0.qShpPlc.toList m1.qShpPlc.toList
  tstamp : m0.tstamp = m1.tstamp

end

/-- Up to the tolerance. -/
def CloseBits (eps : Float) (a b : FloatBits) : Prop := Close eps (.ofBits a) (.ofBits b)

def Agree (m0 m1 : IndMsg) : Prop := IndMsgRel CloseBits m0 m1

/-- To the bit. -/
def SameFields (m0 m1 : IndMsg) : Prop := IndMsgRel (fun _ => Eq) m0 m1

theorem hundredth_number : hundredth.isNaN = false := by
  decide +kernel

theorem thousandth_number : thousandth.isNaN = false := by
  decide +kernel

theorem eqTcMtr_true_iff {m0 m1 : Mtr} :
    eqTcMtr m0 m1 = .ok true ↔ MtrRel CloseBits m0 m1 := by
  rw [eqTcMtr, both_true_iff, pure_eq_ok, decide_eq_true_iff, eqFloat_true_iff hundredth_number]
  exact ⟨fun same => ⟨same.1, same.2⟩, fun same => ⟨same.timeWindowMs, same.bnd⟩⟩

theorem eqTcPcr_true_iff {m0 m1 : Pcr} : eqTcPcr m0 m1 = .ok true ↔ PcrRel CloseBits m0 m1 := by
  simp only [eqTcPcr, both_true_iff, pure_eq_ok, decide_eq_true_iff, eqTcMtr_true_iff]
  exact ⟨fun same => ⟨same.1, same.2.1, same.2.2⟩, fun same => ⟨same.type, same.id, same.mtr⟩⟩

theorem eqTcSch_of_rel {m0 m1 : Sch} (same : SchRel m0 m1) : eqTcSch m0 m1 = true := by
  cases m0 with
  | rr m0 =>
      cases m1 with
      | rr m1 => rfl
      | prio m1 => cases same
  | prio m0 =>
      cases m1 with
      | rr m1 => cases same
      | prio m1 =>
          have lists : m0.items.toList = m1.items.toList := same
          have lengths : m0.len.toNat = m1.len.toNat := by
            simpa using congrArg List.length lists
          simp [eqTcSch, eqTcSchPrio, lists, UInt32.toNat_inj.mp lengths]

theorem eqTcClsOsiFilter_of_rel {m0 m1 : OsiFilter} (same : OsiFilterRel m0 m1) :
    eqTcClsOsiFilter m0 m1 = true := by
  simp [eqTcClsOsiFilter, eqL3Filter, eqL4Filter, same.id, same.l3, same.l4, same.dstQueue]

theorem eqTcClsOsi_of_each {m0 m1 : ClsOsi}
    (each : List.Forall₂ (fun flt0 flt1 => eqTcClsOsiFilter flt0 flt1 = true) m0.items.toList
      m1.items.toList) : eqTcClsOsi m0 m1 = true := by
  have lengths : m0.len.toNat = m1.len.toNat := by
    simpa using each.length_eq
  have all : (m0.items.toList.zip m1.items.toList).all
      (fun flts => eqTcClsOsiFilter flts.1 flts.2) = true := by
    rw [List.all_eq_true]
    intro flts mem
    exact (List.forall₂_iff_zip.mp each).2 mem
  simp [eqTcClsOsi, UInt32.toNat_inj.mp lengths, all]

theorem eqTcCls_of_rel {m0 m1 : Cls} (same : ClsRel m0 m1) : eqTcCls m0 m1 = true := by
  cases m0 with
  | rr m0 =>
      cases m1 with
      | rr m1 =>
          have dummies : m0 = m1 := same
          simp [eqTcCls, dummies]
      | _ => cases same
  | osi m0 =>
      cases m1 with
      | osi m1 =>
          have filters : List.Forall₂ OsiFilterRel m0.items.toList m1.items.toList := same
          exact eqTcClsOsi_of_each (filters.imp fun _ _ => eqTcClsOsiFilter_of_rel)
      | _ => cases same
  | sto m0 =>
      cases m1 with
      | sto m1 =>
          have dummies : m0 = m1 := same
          simp [eqTcCls, dummies]
      | _ => cases same

theorem eqTcShp_true_iff {m0 m1 : Shp} :
    eqTcShp m0 m1 = .ok true ↔
      m0.id = m1.id ∧ m0.active = m1.active ∧ MtrRel CloseBits m0.mtr m1.mtr := by
  simp only [eqTcShp, both_true_iff, pure_eq_ok, decide_eq_true_iff, eqTcMtr_true_iff]

theorem eqTcPlc_true_iff {m0 m1 : Plc} : eqTcPlc m0 m1 = .ok true ↔ PlcRel CloseBits m0 m1 := by
  obtain ⟨id, mtr, ⟨drp⟩, ⟨mrk⟩, rate, active, dst, dev⟩ := m0
  obtain ⟨id', mtr', ⟨drp'⟩, ⟨mrk'⟩, rate', active', dst', dev'⟩ := m1
  simp only [eqTcPlc, both_true_iff, pure_eq_ok, decide_eq_true_iff, eqTcMtr_true_iff, eqTcDrp,
    eqTcMrk, eqFloat_true_iff hundredth_number, Bool.and_eq_true]
  constructor
  · rintro ⟨ids, mtrs, rfl, rfl, rates, ⟨actives, dsts⟩, devs⟩
    exact ⟨ids, mtrs, rfl, rfl, rates, actives, dsts, devs⟩
  · rintro ⟨ids, mtrs, drps, mrks, rates, actives, dsts, devs⟩
    exact ⟨ids, mtrs, congrArg Drp.droppedPkts drps, congrArg Mrk.markedPkts mrks, rates,
      ⟨actives, dsts⟩, devs⟩

/-- What is compared of two queues. -/
structure QueueStatsLike {κ : Type} (m0 m1 : QueueStats κ) : Prop where
  bytes : m0.bytes = m1.bytes
  pkts : m0.pkts = m1.pkts
  bytesFwd : m0.bytesFwd = m1.bytesFwd
  pktsFwd : m0.pktsFwd = m1.pktsFwd
  count : m0.count = m1.count
  avgSojournTime : CloseBits thousandth m0.avgSojournTime m1.avgSojournTime

theorem eqTcQueueStats_true_iff {κ : Type} {eqCount : κ → κ → Bool}
    (exact : ∀ a b, eqCount a b = true ↔ a = b) {m0 m1 : QueueStats κ} :
    eqTcQueueStats eqCount m0 m1 = .ok true ↔ QueueStatsLike m0 m1 := by
  simp only [eqTcQueueStats, both_true_iff, pure_eq_ok, decide_eq_true_iff, exact,
    eqFloat_true_iff thousandth_number, Bool.and_eq_true]
  constructor
  · rintro ⟨count, avg, ⟨⟨bytes, pkts⟩, bytesFwd⟩, pktsFwd⟩
    exact ⟨bytes, pkts, bytesFwd, pktsFwd, count, avg⟩
  · rintro ⟨bytes, pkts, bytesFwd, pktsFwd, count, avg⟩
    exact ⟨count, avg, ⟨⟨bytes, pkts⟩, bytesFwd⟩, pktsFwd⟩

theorem eqTcDrp_iff (m0 m1 : Drp) : eqTcDrp m0 m1 = true ↔ m0 = m1 := by
  cases m0
  cases m1
  simp [eqTcDrp]

theorem eqTcMrk_iff (m0 m1 : Mrk) : eqTcMrk m0 m1 = true ↔ m0 = m1 := by
  cases m0
  cases m1
  simp [eqTcMrk]

def QueueKindLike : QueueKind → QueueKind → Prop
  | .fifo m0, .fifo m1 => QueueStatsLike m0 m1
  | .codel m0, .codel m1 => QueueStatsLike m0 m1
  | .ecn m0, .ecn m1 => QueueStatsLike m0 m1
  | _, _ => False

theorem eqTcQ_true_iff {m0 m1 : Queue} :
    eqTcQ m0 m1 = .ok true ↔ QueueKindLike m0.kind m1.kind := by
  obtain ⟨id, kind⟩ := m0
  obtain ⟨id', kind'⟩ := m1
  cases kind <;> cases kind' <;>
    simp [eqTcQ, eqTcQKind, QueueKindLike, eqTcQueueStats_true_iff eqTcDrp_iff,
      eqTcQueueStats_true_iff eqTcMrk_iff]

theorem QueueKindRel.like {m0 m1 : QueueKind} (same : QueueKindRel CloseBits m0 m1) :
    QueueKindLike m0 m1 := by
  have stats {κ : Type} {m m' : QueueStats κ} (same : QueueStatsRel CloseBits m m') :
      QueueStatsLike m m' :=
    ⟨same.bytes, same.pkts, same.bytesFwd, same.pktsFwd, same.count, same.avgSojournTime⟩
  cases m0 with
  | fifo m0 =>
      cases m1 with
      | fifo m1 => exact stats same
      | _ => cases same
  | codel m0 =>
      cases m1 with
      | codel m1 => exact stats same
      | _ => cases same
  | ecn m0 =>
      cases m1 with
      | ecn m1 => exact stats same
      | _ => cases same

/-- What is compared of a shaper, a policer and a queue. -/
structure QShpPlcLike (e0 e1 : QShpPlc) : Prop where
  shpId : e0.shp.id = e1.shp.id
  shpActive : e0.shp.active = e1.shp.active
  shpMtr : MtrRel CloseBits e0.shp.mtr e1.shp.mtr
  plc : PlcRel CloseBits e0.plc e1.plc
  kind : QueueKindLike e0.q.kind e1.q.kind

theorem eqShpPlcQ_eq_ok {e0 e1 : QShpPlc} {u : Unit} :
    eqShpPlcQ e0 e1 = .ok u ↔ QShpPlcLike e0 e1 := by
  simp only [eqShpPlcQ, bind_eq_ok, orAbort_eq_ok, exists_const, eqTcShp_true_iff,
    eqTcPlc_true_iff, eqTcQ_true_iff]
  constructor
  · rintro ⟨⟨ids, actives, mtrs⟩, plcs, kinds⟩
    exact ⟨ids, actives, mtrs, plcs, kinds⟩
  · rintro ⟨ids, actives, mtrs, plcs, kinds⟩
    exact ⟨⟨ids, actives, mtrs⟩, plcs, kinds⟩

/-- What is compared of two messages. -/
structure IndMsgLike (m0 m1 : IndMsg) : Prop where
  tstamp : m0.tstamp = m1.tstamp
  sch : eqTcSch m0.sch m1.sch = true
  pcr : PcrRel CloseBits m0.pcr m1.pcr
  cls : eqTcCls m0.cls m1.cls = true
  lenQ : m0.lenQ = m1.lenQ
  qShpPlc : List.Forall₂ QShpPlcLike m0.qShpPlc.toList m1.qShpPlc.toList

theorem eqTcIndMsg_true_iff {m0 m1 : IndMsg} : eqTcIndMsg m0 m1 = .ok true ↔ IndMsgLike m0 m1 := by
  simp only [eqTcIndMsg, bind_eq_ok, orAbort_eq_ok, exists_const, pure_eq_ok, decide_eq_true_iff,
    eqTcPcr_true_iff]
  constructor
  · rintro ⟨tstamps, schs, pcrs, clss, lengths, _, each, -⟩
    refine ⟨tstamps, schs, pcrs, clss, lengths,
      (eachPair_eq_ok ?_ fun _ _ => eqShpPlcQ_eq_ok).mp each⟩
    simp [lengths]
  · rintro ⟨tstamps, schs, pcrs, clss, lengths, each⟩
    refine ⟨tstamps, schs, pcrs, clss, lengths, (),
      (eachPair_eq_ok ?_ fun _ _ => eqShpPlcQ_eq_ok).mpr each, trivial⟩
    simp [lengths]

theorem eqTcIndMsg_ne_false (m0 m1 : IndMsg) : eqTcIndMsg m0 m1 ≠ .ok false := by
  intro no
  simp only [eqTcIndMsg, bind_eq_ok, pure_eq_ok] at no
  obtain ⟨_, -, _, -, _, -, _, -, _, -, _, -, same⟩ := no
  cases same

theorem Agree.like {m0 m1 : IndMsg} (agree : Agree m0 m1) : IndMsgLike m0 m1 where
  tstamp := agree.tstamp
  sch := eqTcSch_of_rel agree.sch
  pcr := agree.pcr
  cls := eqTcCls_of_rel agree.cls
  lenQ := agree.lenQ
  qShpPlc := agree.qShpPlc.imp fun _ _ same =>
    ⟨same.shp.id, same.shp.active, same.shp.mtr, same.plc, same.kind.like⟩

theorem eqTcIndMsg_tells_iff (m0 m1 : IndMsg) :
    Tells (eqTcIndMsg m0 m1) (Agree m0 m1) ↔ Agree m0 m1 := by
  rw [tells_iff_of_complete fun agree => eqTcIndMsg_true_iff.mpr agree.like]
  exact or_iff_left (eqTcIndMsg_ne_false m0 m1)

/-- The copy of an element. -/
def QShpPlc.copied (e : QShpPlc) : QShpPlc where
  shp := { e.shp with maxRateKbps := 0, mtr := cpTcMtr e.shp.mtr }
  plc := { e.plc with mtr := cpTcMtr e.plc.mtr, drp := cpTcDrp e.plc.drp, mrk := cpTcMrk e.plc.mrk }
  q := cpTcQueue e.q

/-- Shaper and policer are on or off. -/
structure Switched (e : QShpPlc) : Prop where
  shp : e.shp.active = 0 ∨ e.shp.active = 1
  plc : e.plc.active = 0 ∨ e.plc.active = 1

theorem cpShpQPlc_eq_ok {e e' : QShpPlc} : cpShpQPlc e = .ok e' ↔ Switched e ∧ e' = e.copied := by
  simp only [cpShpQPlc, cpTcShp, cpTcPlc, bind_eq_ok, check_eq_ok, pure_eq_ok]
  constructor
  · rintro ⟨_, ⟨_, shp, rfl⟩, _, ⟨_, plc, rfl⟩, rfl⟩
    exact ⟨⟨shp, plc⟩, rfl⟩
  · rintro ⟨⟨shp, plc⟩, rfl⟩
    exact ⟨_, ⟨(), shp, rfl⟩, _, ⟨(), plc, rfl⟩, rfl⟩

theorem cpShpQPlcs_eq_ok {n : Nat} {es es' : List.Vector QShpPlc n} :
    cpShpQPlcs n es = .ok es' ↔ (∀ e ∈ es.toList, Switched e) ∧ es' = es.map QShpPlc.copied := by
  induction n with
  | zero =>
      obtain rfl := es.eq_nil
      obtain rfl := es'.eq_nil
      simp [cpShpQPlcs]
  | succ n ih =>
      obtain ⟨e, rest, rfl⟩ := es.exists_eq_cons
      simp only [cpShpQPlcs, bind_eq_ok, pure_eq_ok, List.Vector.head_cons, List.Vector.tail_cons,
        cpShpQPlc_eq_ok, ih, List.Vector.toList_cons, List.forall_mem_cons, List.Vector.map_cons]
      constructor
      · rintro ⟨_, ⟨first, rfl⟩, _, ⟨others, rfl⟩, rfl⟩
        exact ⟨⟨first, others⟩, rfl⟩
      · rintro ⟨⟨first, others⟩, rfl⟩
        exact ⟨_, ⟨first, rfl⟩, _, ⟨others, rfl⟩, rfl⟩

/-- The copy of a message. -/
def IndMsg.copied (m : IndMsg) : IndMsg where
  sch := cpTcSch m.sch
  pcr := cpTcPcr m.pcr
  cls := cpTcCls m.cls
  lenQ := m.lenQ
  shp := (m.qShpPlc.map QShpPlc.copied).map QShpPlc.shp
  plc := (m.qShpPlc.map QShpPlc.copied).map QShpPlc.plc
  q := (m.qShpPlc.map QShpPlc.copied).map QShpPlc.q
  tstamp := m.tstamp

theorem copyOf_eq_ok {m m' : IndMsg} :
    copyOf m = .ok m' ↔ (∀ e ∈ m.qShpPlc.toList, Switched e) ∧ m' = m.copied := by
  simp only [copyOf, bind_eq_ok, pure_eq_ok, cpShpQPlcs_eq_ok]
  constructor
  · rintro ⟨_, ⟨switched, rfl⟩, rfl⟩
    exact ⟨switched, rfl⟩
  · rintro ⟨switched, rfl⟩
    exact ⟨_, ⟨switched, rfl⟩, rfl⟩

/-- Three arrays that were taken from one are one again. -/
theorem qShpPlc_copied (m : IndMsg) :
    m.copied.qShpPlc.toList = m.qShpPlc.toList.map QShpPlc.copied := by
  have arrays (es : List.Vector QShpPlc m.lenQ.toNat) :
      (List.Vector.zipWith (fun shp plcQ => QShpPlc.mk shp plcQ.1 plcQ.2) (es.map QShpPlc.shp)
        (List.Vector.zipWith Prod.mk (es.map QShpPlc.plc) (es.map QShpPlc.q))).toList =
          es.toList := by
    obtain ⟨lst, len⟩ := es
    apply List.ext_getElem
    · simp [List.Vector.zipWith, List.Vector.map, List.Vector.toList]
    · intro i _ _
      simp [List.Vector.zipWith, List.Vector.map, List.Vector.toList]
  rw [← List.Vector.toList_map]
  exact arrays _

theorem closeBits_self_iff {eps : Float} (constant : eps.isNaN = false) {bits : FloatBits} :
    CloseBits eps bits bits ↔ IsNumber bits := by
  rw [CloseBits, ← eqFloat_true_iff constant, eqFloat_self_iff constant, IsNumber]

def QueueKind.avgSojournTime : QueueKind → FloatBits
  | .fifo q => q.avgSojournTime
  | .codel q => q.avgSojournTime
  | .ecn q => q.avgSojournTime

def QueueKind.lastSojournTime : QueueKind → Int64
  | .fifo q => q.lastSojournTime
  | .codel q => q.lastSojournTime
  | .ecn q => q.lastSojournTime

/-- An element whose copy is accepted. -/
structure Numbers (e : QShpPlc) : Prop where
  shp : IsNumber e.shp.mtr.bnd
  plc : IsNumber e.plc.mtr.bnd
  rate : IsNumber e.plc.maxRateKbps
  sojourn : IsNumber e.q.kind.avgSojournTime

theorem mtr_copied_iff {m : Mtr} : MtrRel CloseBits m (cpTcMtr m) ↔ IsNumber m.bnd := by
  rw [← closeBits_self_iff hundredth_number]
  exact ⟨MtrRel.bnd, fun number => ⟨rfl, number⟩⟩

theorem queueKind_copied_iff {kind : QueueKind} :
    QueueKindLike kind (cpTcQueueKind kind) ↔ IsNumber kind.avgSojournTime := by
  have stats {κ : Type} {cpCount : κ → κ} (exact : ∀ a, cpCount a = a) (q : QueueStats κ) :
      QueueStatsLike q (cpTcQueueStats cpCount q) ↔ IsNumber q.avgSojournTime := by
    rw [← closeBits_self_iff thousandth_number]
    exact ⟨QueueStatsLike.avgSojournTime,
      fun number => ⟨rfl, rfl, rfl, rfl, (exact q.count).symm, number⟩⟩
  cases kind with
  | fifo q => exact stats (fun _ => rfl) q
  | codel q => exact stats (fun _ => rfl) q
  | ecn q => exact stats (fun _ => rfl) q

theorem qShpPlc_like_copied_iff {e : QShpPlc} : QShpPlcLike e e.copied ↔ Numbers e := by
  constructor
  · intro like
    exact ⟨mtr_copied_iff.mp like.shpMtr, mtr_copied_iff.mp like.plc.mtr,
      (closeBits_self_iff hundredth_number).mp like.plc.maxRateKbps,
      queueKind_copied_iff.mp like.kind⟩
  · intro numbers
    exact {
      shpId := rfl
      shpActive := rfl
      shpMtr := mtr_copied_iff.mpr numbers.shp
      plc := ⟨rfl, mtr_copied_iff.mpr numbers.plc, rfl, rfl,
        (closeBits_self_iff hundredth_number).mpr numbers.rate, rfl, rfl, rfl⟩
      kind := queueKind_copied_iff.mpr numbers.sojourn }

theorem eqTcSch_copied (m : Sch) : eqTcSch m (cpTcSch m) = true := by
  cases m with
  | rr m => rfl
  | prio m => simp [eqTcSch, cpTcSch, cpTcSchPrio, eqTcSchPrio]

/-- A filter and its copy are compared equal, whatever was left out. -/
theorem eqTcClsOsiFilter_copied (flt : OsiFilter) :
    eqTcClsOsiFilter flt (cpTcClsOsiFilter flt) = true := by
  simp [eqTcClsOsiFilter, cpTcClsOsiFilter, eqL3Filter, cpL3Filter, eqL4Filter, cpL4Filter]

theorem eqTcCls_copied (m : Cls) : eqTcCls m (cpTcCls m) = true := by
  cases m with
  | rr m => simp [eqTcCls, cpTcCls]
  | osi m =>
      apply eqTcClsOsi_of_each
      simp only [cpTcClsOsi, List.Vector.toList_map, List.forall₂_map_right_iff]
      exact List.forall₂_same.mpr fun flt _ => eqTcClsOsiFilter_copied flt
  | sto m => simp [eqTcCls, cpTcCls]

theorem indMsg_like_copied_iff {m : IndMsg} :
    IndMsgLike m m.copied ↔
      IsNumber m.pcr.mtr.bnd ∧ ∀ e ∈ m.qShpPlc.toList, Numbers e := by
  have each : List.Forall₂ QShpPlcLike m.qShpPlc.toList m.copied.qShpPlc.toList ↔
      ∀ e ∈ m.qShpPlc.toList, Numbers e := by
    rw [qShpPlc_copied, List.forall₂_map_right_iff, List.forall₂_same]
    exact forall₂_congr fun e _ => qShpPlc_like_copied_iff
  constructor
  · intro like
    exact ⟨mtr_copied_iff.mp like.pcr.mtr, each.mp like.qShpPlc⟩
  · rintro ⟨number, numbers⟩
    exact {
      tstamp := rfl
      sch := eqTcSch_copied m.sch
      pcr := ⟨rfl, rfl, mtr_copied_iff.mpr number⟩
      cls := eqTcCls_copied m.cls
      lenQ := rfl
      qShpPlc := each.mpr numbers }

theorem cpTcIndMsg_eq_ok {m m' : IndMsg} :
    cpTcIndMsg m = .ok m' ↔
      (∀ e ∈ m.qShpPlc.toList, Switched e) ∧
      (IsNumber m.pcr.mtr.bnd ∧ ∀ e ∈ m.qShpPlc.toList, Numbers e) ∧ m' = m.copied := by
  simp only [cpTcIndMsg, bind_eq_ok, check_eq_ok, pure_eq_ok, copyOf_eq_ok]
  constructor
  · rintro ⟨_, ⟨switched, rfl⟩, _, compared, _, rfl, rfl⟩
    exact ⟨switched, indMsg_like_copied_iff.mp (eqTcIndMsg_true_iff.mp compared), rfl⟩
  · rintro ⟨switched, numbers, rfl⟩
    exact ⟨_, ⟨switched, rfl⟩, true,
      eqTcIndMsg_true_iff.mpr (indMsg_like_copied_iff.mpr numbers), (),
      rfl, rfl⟩

/-- What a copy leaves out is zero. -/
structure Bare (e : QShpPlc) : Prop where
  maxRateKbps : e.shp.maxRateKbps = 0
  id : e.q.id = 0
  lastSojournTime : e.q.kind.lastSojournTime = 0

def Cls.BareFilters : Cls → Prop
  | .osi flts => ∀ flt ∈ flts.items.toList, flt.l7.dummy = 0
  | _ => True

theorem queueKind_same_copied_iff {kind : QueueKind} :
    QueueKindRel (fun _ => Eq) (cpTcQueueKind kind) kind ↔ kind.lastSojournTime = 0 := by
  have stats {κ : Type} {cpCount : κ → κ} (exact : ∀ a, cpCount a = a) (q : QueueStats κ) :
      QueueStatsRel (fun _ => Eq) (cpTcQueueStats cpCount q) q ↔ q.lastSojournTime = 0 :=
    ⟨fun same => same.lastSojournTime.symm,
      fun zero => ⟨rfl, rfl, rfl, rfl, exact q.count, rfl, zero.symm⟩⟩
  cases kind with
  | fifo q => exact stats (fun _ => rfl) q
  | codel q => exact stats (fun _ => rfl) q
  | ecn q => exact stats (fun _ => rfl) q

theorem qShpPlc_same_copied_iff {e : QShpPlc} : QShpPlcRel (fun _ => Eq) e.copied e ↔ Bare e := by
  constructor
  · intro same
    exact ⟨same.shp.maxRateKbps.symm, same.id.symm, queueKind_same_copied_iff.mp same.kind⟩
  · intro bare
    exact {
      shp := ⟨rfl, rfl, bare.maxRateKbps.symm, rfl, rfl⟩
      plc := ⟨rfl, ⟨rfl, rfl⟩, rfl, rfl, rfl, rfl, rfl, rfl⟩
      id := bare.id.symm
      kind := queueKind_same_copied_iff.mpr bare.lastSojournTime }

theorem cls_same_copied_iff {m : Cls} : ClsRel (cpTcCls m) m ↔ m.BareFilters := by
  cases m with
  | rr m => exact iff_of_true rfl trivial
  | osi m =>
      have filter (flt : OsiFilter) :
          OsiFilterRel (cpTcClsOsiFilter flt) flt ↔ flt.l7.dummy = 0 := by
        constructor
        · intro same
          exact (congrArg Dummy.dummy same.l7).symm
        · intro zero
          exact ⟨rfl, rfl, rfl, congrArg Dummy.mk zero.symm, rfl⟩
      simp only [cpTcCls, cpTcClsOsi, ClsRel, Cls.BareFilters, List.Vector.toList_map,
        List.forall₂_map_left_iff, List.forall₂_same, filter]
  | sto m => exact iff_of_true rfl trivial

theorem sameFields_copied_iff {m : IndMsg} :
    SameFields m.copied m ↔ m.cls.BareFilters ∧ ∀ e ∈ m.qShpPlc.toList, Bare e := by
  have each : List.Forall₂ (QShpPlcRel fun _ => Eq) m.copied.qShpPlc.toList m.qShpPlc.toList ↔
      ∀ e ∈ m.qShpPlc.toList, Bare e := by
    rw [qShpPlc_copied, List.forall₂_map_left_iff, List.forall₂_same]
    exact forall₂_congr fun e _ => qShpPlc_same_copied_iff
  constructor
  · intro same
    exact ⟨cls_same_copied_iff.mp same.cls, each.mp same.qShpPlc⟩
  · rintro ⟨bareFilters, bare⟩
    have sch : SchRel (cpTcSch m.sch) m.sch := by
      cases m.sch <;> exact rfl
    exact {
      sch
      pcr := ⟨rfl, rfl, ⟨rfl, rfl⟩⟩
      cls := cls_same_copied_iff.mpr bareFilters
      lenQ := rfl
      qShpPlc := each.mpr bare
      tstamp := rfl }

/-- What is copied whole: nothing that is left out is there, shapers and policers are on or off,
    and floating-point fields are numbers. -/
structure CopyKept (m : IndMsg) : Prop where
  switched : ∀ e ∈ m.qShpPlc.toList, Switched e
  pcr : IsNumber m.pcr.mtr.bnd
  numbers : ∀ e ∈ m.qShpPlc.toList, Numbers e
  bareFilters : m.cls.BareFilters
  bare : ∀ e ∈ m.qShpPlc.toList, Bare e

/-- A copy is the same just where nothing is left out, and the equality is right just where two
    messages agree. -/
theorem tc_copy_and_equality_iff (m m0 m1 : IndMsg) :
    ((∃ m', cpTcIndMsg m = .ok m' ∧ SameFields m' m) ↔ CopyKept m) ∧
    (Tells (eqTcIndMsg m0 m1) (Agree m0 m1) ↔ Agree m0 m1) := by
  refine ⟨?_, eqTcIndMsg_tells_iff m0 m1⟩
  simp only [cpTcIndMsg_eq_ok]
  constructor
  · rintro ⟨_, ⟨switched, ⟨pcr, numbers⟩, rfl⟩, same⟩
    obtain ⟨bareFilters, bare⟩ := sameFields_copied_iff.mp same
    exact ⟨switched, pcr, numbers, bareFilters, bare⟩
  · intro kept
    exact ⟨_, ⟨kept.switched, ⟨kept.pcr, kept.numbers⟩, rfl⟩,
      sameFields_copied_iff.mpr ⟨kept.bareFilters, kept.bare⟩⟩

/-- One queue with the id `id`, at the time `tstamp`. -/
def queueWithId (id : UInt32) (tstamp : Int64) : IndMsg where
  sch := .rr ⟨0⟩
  pcr := ⟨0, 0, 0, 0⟩
  cls := .rr ⟨0⟩
  lenQ := 1
  shp := ⟨[⟨0, 0, 0, 0, 0⟩], rfl⟩
  plc := ⟨[⟨0, ⟨0, 0⟩, ⟨0⟩, ⟨0⟩, 0, 0, 0, 0⟩], rfl⟩
  q := ⟨[⟨id, .fifo ⟨0, 0, 0, 0, ⟨0⟩, 0, 0⟩⟩], rfl⟩
  tstamp

/-- The id of a queue is lost in a copy, and is not seen in a comparison. A time that differs
    stops the process. -/
theorem tc_queue_id_lost :
    (∃ m', cpTcIndMsg (queueWithId 5 0) = .ok m' ∧ ¬SameFields m' (queueWithId 5 0)) ∧
    eqTcIndMsg (queueWithId 5 0) (queueWithId 6 0) = .ok true ∧
    ¬Agree (queueWithId 5 0) (queueWithId 6 0) ∧
    eqTcIndMsg (queueWithId 5 0) (queueWithId 5 1) = .error .differ := by
  have zero : IsNumber 0 := by
    rw [IsNumber]
    decide +kernel
  have elements (id : UInt32) (tstamp : Int64) : (queueWithId id tstamp).qShpPlc.toList =
      [⟨⟨0, 0, 0, 0, 0⟩, ⟨0, ⟨0, 0⟩, ⟨0⟩, ⟨0⟩, 0, 0, 0, 0⟩,
        ⟨id, .fifo ⟨0, 0, 0, 0, ⟨0⟩, 0, 0⟩⟩⟩] := rfl
  refine ⟨⟨(queueWithId 5 0).copied, ?_, ?_⟩, ?_, ?_, rfl⟩
  · rw [cpTcIndMsg_eq_ok, elements]
    refine ⟨?_, ⟨zero, ?_⟩, rfl⟩
    · exact List.forall_mem_singleton.mpr ⟨.inl rfl, .inl rfl⟩
    · exact List.forall_mem_singleton.mpr ⟨zero, zero, zero, zero⟩
  · rw [sameFields_copied_iff, elements]
    rintro ⟨-, bare⟩
    exact absurd (List.forall_mem_singleton.mp bare).id (by decide)
  · have close {eps : Float} (constant : eps.isNaN = false) : CloseBits eps 0 0 :=
      (closeBits_self_iff constant).mpr zero
    rw [eqTcIndMsg_true_iff]
    refine ⟨rfl, rfl, ⟨rfl, rfl, rfl, close hundredth_number⟩, rfl, rfl, ?_⟩
    rw [elements, elements]
    exact .cons
      { shpId := rfl
        shpActive := rfl
        shpMtr := ⟨rfl, close hundredth_number⟩
        plc := ⟨rfl, ⟨rfl, close hundredth_number⟩, rfl, rfl, close hundredth_number, rfl, rfl, rfl⟩
        kind := ⟨rfl, rfl, rfl, rfl, rfl, close thousandth_number⟩ } .nil
  · intro agree
    have first := agree.qShpPlc
    rw [elements, elements] at first
    exact absurd (List.forall₂_cons.mp first).1.id (by decide)

end FlexRic.Tc
