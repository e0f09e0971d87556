import FlexRic.Tc.Control

/-! # Controls of the traffic control service model, there and back

For every kind of message the three traversals agree, but for the addition of an
OSI classifier: its size counts the layer 7 filter, which the writer leaves out.
-/

namespace FlexRic.Tc

open Wire

/-- The message adds an OSI classifier. -/
def CtrlMsg.addsOsi : CtrlMsg → Bool
  | .cls (.add (.osi _)) => true
  | _ => false

section

variable {α δ μ ο : Type}

theorem length_encCtrl {calAdd : α → Nat} {calDel : δ → Nat} {calMod : μ → Nat}
    {encAdd : α → Bytes} {encDel : δ → Bytes} {encMod : μ → Bytes} (c : Ctrl α δ μ)
    (add : ∀ a, c = .add a → (encAdd a).length = calAdd a)
    (del : ∀ d, (encDel d).length = calDel d) (mod : ∀ m, (encMod m).length = calMod m) :
    (encCtrl encAdd encDel encMod c).length = calCtrl calAdd calDel calMod c := by
  cases c with
  | add a => simp [encCtrl, calCtrl, add a rfl]
  | del d => simp [encCtrl, calCtrl, del]
  | mod m => simp [encCtrl, calCtrl, mod]

theorem length_encCtrlClsOf {calOsi : ο → Nat} {encOsi : ο → Bytes} (c : CtrlClsOf ο)
    (osi : ∀ o, c = .osi o → (encOsi o).length = calOsi o) :
    (encCtrlClsOf encOsi c).length = calCtrlClsOf calOsi c := by
  cases c with
  | rr => simp [encCtrlClsOf, calCtrlClsOf]
  | osi o => simp [encCtrlClsOf, calCtrlClsOf, osi o rfl]
  | sto => simp [encCtrlClsOf, calCtrlClsOf]

end

/-- The writer stays one word behind the size. -/
theorem length_encTcAddCtrlPayloadClsOsi (osi : AddClsOsi) :
    (encTcAddCtrlPayloadClsOsi osi).length + 4 = calTcAddCtrlPayloadClsOsi osi := by
  simp [encTcAddCtrlPayloadClsOsi, calTcAddCtrlPayloadClsOsi]

theorem length_encTcDelCtrlPayloadClsOsi (osi : DelClsOsi) :
    (encTcDelCtrlPayloadClsOsi osi).length = calTcDelCtrlPayloadClsOsi osi :=
  length_u32 _

theorem length_encTcModCtrlPayloadClsOsi (osi : ModClsOsi) :
    (encTcModCtrlPayloadClsOsi osi).length = calTcModCtrlPayloadClsOsi osi :=
  length_encOsiFilter _

theorem length_encTcCtrlPayloadCls (cls : CtrlCls) (others : (CtrlMsg.cls cls).addsOsi = false) :
    (encTcCtrlPayloadCls cls).length = calTcCtrlPayloadCls cls := by
  apply length_encCtrl
  case add =>
    intro a added
    apply length_encCtrlClsOf
    intro o osi
    rw [added, osi] at others
    cases others
  case del =>
    intro d
    exact length_encCtrlClsOf d fun o _ => length_encTcDelCtrlPayloadClsOsi o
  case mod =>
    intro m
    exact length_encCtrlClsOf m fun o _ => length_encTcModCtrlPayloadClsOsi o

theorem length_encDelById (del : DelById) : (encDelById del).length = calDelById del :=
  length_u32 _

theorem length_encTcCtrlPayloadPlc (plc : CtrlPlc) :
    (encTcCtrlPayloadPlc plc).length = calTcCtrlPayloadPlc plc := by
  apply length_encCtrl
  case add => exact fun a _ => length_encDummy a
  case del => exact length_encDelById
  case mod =>
    intro m
    simp [encTcModCtrlPayloadPlc, calTcModCtrlPayloadPlc]

theorem length_encTcAddCtrlPayloadQ (add : AddCtrlQueue) :
    (encTcAddCtrlPayloadQ add).length = calTcCtrlPayloadQAdd add := by
  cases add <;>
    simp [encTcAddCtrlPayloadQ, calTcCtrlPayloadQAdd, encTcCtrlPayloadQCodel,
      calTcCtrlPayloadQCodel]

theorem length_encTcCtrlPayloadQ (q : CtrlQueue) :
    (encTcCtrlPayloadQ q).length = calTcCtrlPayloadQ q := by
  apply length_encCtrl
  case add => exact fun a _ => length_encTcAddCtrlPayloadQ a
  case del =>
    intro d
    simp [encTcDelCtrlPayloadQ, calTcCtrlPayloadQDel]
  case mod =>
    intro m
    simp [encTcModCtrlPayloadQ, calTcCtrlPayloadQMod, length_encTcAddCtrlPayloadQ]

theorem length_encTcCtrlPayloadSch (sch : CtrlSch) :
    (encTcCtrlPayloadSch sch).length = calTcCtrlPayloadSch sch := by
  apply length_encCtrl
  case add => exact fun a _ => length_encDummy a
  case del => exact length_encDummy
  case mod =>
    intro m
    cases m <;> simp [encTcModCtrlPayloadSch, calTcCtrlPayloadSchMod]

theorem length_encTcCtrlPayloadShp (shp : CtrlShp) :
    (encTcCtrlPayloadShp shp).length = calTcCtrlPayloadShp shp := by
  apply length_encCtrl
  case add => exact fun a _ => length_encDummy a
  case del => exact length_encDelById
  case mod =>
    intro m
    simp [encTcModCtrlPayloadShp, calTcCtrlPayloadShpMod]

theorem length_encTcCtrlPayloadPcr (pcr : CtrlPcr) :
    (encTcCtrlPayloadPcr pcr).length = calTcCtrlPayloadPcr pcr := by
  apply length_encCtrl
  case add => exact fun a _ => length_encDummy a
  case del => exact length_encDummy
  case mod =>
    intro m
    cases m <;>
      simp [encTcModCtrlPayloadPcr, calTcCtrlPayloadPcrMod, encTcModCtrlPayloadPcrBdp]

theorem length_encTcCtrlPayload {m : CtrlMsg} (others : m.addsOsi = false) :
    (encTcCtrlPayload m).length = calTcCtrlPayload m := by
  cases m <;>
    simp [encTcCtrlPayload, calTcCtrlPayload, length_encTcCtrlPayloadCls, others,
      length_encTcCtrlPayloadPlc, length_encTcCtrlPayloadQ, length_encTcCtrlPayloadSch,
      length_encTcCtrlPayloadShp, length_encTcCtrlPayloadPcr]

/-- The size of an addition of an OSI classifier is more than what is written. -/
theorem length_encTcCtrlPayload_addsOsi {m : CtrlMsg} (adds : m.addsOsi = true) :
    (encTcCtrlPayload m).length + 4 = calTcCtrlPayload m := by
  match m, adds with
  | .cls (.add (.osi osi)), _ =>
      have short := length_encTcAddCtrlPayloadClsOsi osi
      simp only [encTcCtrlPayload, calTcCtrlPayload, encTcCtrlPayloadCls, calTcCtrlPayloadCls,
        encCtrl, calCtrl, encCtrlClsOf, calCtrlClsOf, List.length_append, length_tag]
      omega

section

variable {α δ μ ο : Type}

theorem decCtrl_run {encAdd : α → Bytes} {encDel : δ → Bytes} {encMod : μ → Bytes}
    {decAdd : Reader α} {decDel : Reader δ} {decMod : Reader μ} (c : Ctrl α δ μ)
    (add : ∀ a rest, c = .add a → decAdd.run (encAdd a ++ rest) = .ok (a, rest))
    (del : ∀ d rest, decDel.run (encDel d ++ rest) = .ok (d, rest))
    (mod : ∀ m rest, decMod.run (encMod m ++ rest) = .ok (m, rest)) (rest : Bytes) :
    (decCtrl decAdd decDel decMod).run (encCtrl encAdd encDel encMod c ++ rest) =
      .ok (c, rest) := by
  cases c with
  | add a => simp [decCtrl, encCtrl, Ctrl.act, add a rest rfl]
  | del d => simp [decCtrl, encCtrl, Ctrl.act, del]
  | mod m => simp [decCtrl, encCtrl, Ctrl.act, mod]

theorem decCtrlClsOf_run {encOsi : ο → Bytes} {decOsi : Reader ο} (c : CtrlClsOf ο)
    (osi : ∀ o rest, c = .osi o → decOsi.run (encOsi o ++ rest) = .ok (o, rest)) (rest : Bytes) :
    (decCtrlClsOf decOsi).run (encCtrlClsOf encOsi c ++ rest) = .ok (c, rest) := by
  cases c with
  | rr => simp [decCtrlClsOf, encCtrlClsOf, CtrlClsOf.type]
  | osi o => simp [decCtrlClsOf, encCtrlClsOf, CtrlClsOf.type, osi o rest rfl]
  | sto => simp [decCtrlClsOf, encCtrlClsOf, CtrlClsOf.type]

end

theorem decTcCtrlPayloadCls_run (cls : CtrlCls) (others : (CtrlMsg.cls cls).addsOsi = false)
    (rest : Bytes) :
    decTcCtrlPayloadCls.run (encTcCtrlPayloadCls cls ++ rest) = .ok (cls, rest) := by
  apply decCtrl_run
  case add =>
    intro a rest added
    apply decCtrlClsOf_run
    intro o rest osi
    rw [added, osi] at others
    cases others
  case del =>
    intro d rest
    apply decCtrlClsOf_run
    intro o rest _
    simp [decTcDelCtrlPayloadClsOsi, encTcDelCtrlPayloadClsOsi]
  case mod =>
    intro m rest
    apply decCtrlClsOf_run
    intro o rest _
    simp [decTcModCtrlPayloadClsOsi, encTcModCtrlPayloadClsOsi]

theorem decDelById_run (del : DelById) (rest : Bytes) :
    decDelById.run (encDelById del ++ rest) = .ok (del, rest) := by
  simp [decDelById, encDelById]

theorem decTcCtrlPayloadPlc_run (plc : CtrlPlc) (rest : Bytes) :
    decTcCtrlPayloadPlc.run (encTcCtrlPayloadPlc plc ++ rest) = .ok (plc, rest) := by
  apply decCtrl_run
  case add => exact fun a rest _ => decDummy_run a rest
  case del => exact decDelById_run
  case mod =>
    intro m rest
    simp [decTcModCtrlPayloadPlc, encTcModCtrlPayloadPlc]

theorem decTcCtrlPayloadQCodel_run (codel : CtrlQueueCodel) (rest : Bytes) :
    decTcCtrlPayloadQCodel.run (encTcCtrlPayloadQCodel codel ++ rest) = .ok (codel, rest) := by
  simp [decTcCtrlPayloadQCodel, encTcCtrlPayloadQCodel]

theorem decTcAddCtrlPayloadQ_run (add : AddCtrlQueue) (rest : Bytes) :
    decTcAddCtrlPayloadQ.run (encTcAddCtrlPayloadQ add ++ rest) = .ok (add, rest) := by
  cases add <;>
    simp [decTcAddCtrlPayloadQ, encTcAddCtrlPayloadQ, AddCtrlQueue.type,
      decTcCtrlPayloadQCodel_run]

theorem decTcCtrlPayloadQ_run (q : CtrlQueue) (rest : Bytes) :
    decTcCtrlPayloadQ.run (encTcCtrlPayloadQ q ++ rest) = .ok (q, rest) := by
  apply decCtrl_run
  case add => exact fun a rest _ => decTcAddCtrlPayloadQ_run a rest
  case del =>
    intro d rest
    simp [decTcDelCtrlPayloadQ, encTcDelCtrlPayloadQ]
  case mod =>
    intro m rest
    simp [decTcModCtrlPayloadQ, encTcModCtrlPayloadQ, decTcAddCtrlPayloadQ_run]

theorem decTcCtrlPayloadSch_run (sch : CtrlSch) (rest : Bytes) :
    decTcCtrlPayloadSch.run (encTcCtrlPayloadSch sch ++ rest) = .ok (sch, rest) := by
  apply decCtrl_run
  case add => exact fun a rest _ => decDummy_run a rest
  case del => exact decDummy_run
  case mod =>
    intro m rest
    cases m <;> simp [decTcModCtrlPayloadSch, encTcModCtrlPayloadSch, ModCtrlSch.type]

theorem decTcCtrlPayloadShp_run (shp : CtrlShp) (rest : Bytes) :
    decTcCtrlPayloadShp.run (encTcCtrlPayloadShp shp ++ rest) = .ok (shp, rest) := by
  apply decCtrl_run
  case add => exact fun a rest _ => decDummy_run a rest
  case del => exact decDelById_run
  case mod =>
    intro m rest
    simp [decTcModCtrlPayloadShp, encTcModCtrlPayloadShp]

theorem decTcModCtrlPayloadPcrBdp_run (bdp : Pcr5gBdp) (rest : Bytes) :
    decTcModCtrlPayloadPcrBdp.run (encTcModCtrlPayloadPcrBdp bdp ++ rest) = .ok (bdp, rest) := by
  simp [decTcModCtrlPayloadPcrBdp, encTcModCtrlPayloadPcrBdp]

theorem decTcCtrlPayloadPcr_run (pcr : CtrlPcr) (rest : Bytes) :
    decTcCtrlPayloadPcr.run (encTcCtrlPayloadPcr pcr ++ rest) = .ok (pcr, rest) := by
  apply decCtrl_run
  case add => exact fun a rest _ => decDummy_run a rest
  case del => exact decDummy_run
  case mod =>
    intro m rest
    cases m <;>
      simp [decTcModCtrlPayloadPcr, encTcModCtrlPayloadPcr, ModCtrlPcr.type,
        decTcModCtrlPayloadPcrBdp_run]

theorem tcDecCtrlMsg_run {m : CtrlMsg} (others : m.addsOsi = false) (rest : Bytes) :
    tcDecCtrlMsg.run (encTcCtrlPayload m ++ rest) = .ok (m, rest) := by
  cases m <;>
    simp [tcDecCtrlMsg, encTcCtrlPayload, CtrlMsg.type, decTcCtrlPayloadCls_run, others,
      decTcCtrlPayloadPlc_run, decTcCtrlPayloadQ_run, decTcCtrlPayloadSch_run,
      decTcCtrlPayloadShp_run, decTcCtrlPayloadPcr_run]

/-- The message is written on as many bytes as announced, the assertion at the end
    holds, and the bytes are read to their end as the same message. -/
def CtrlMsg.RoundTrips (m : CtrlMsg) : Prop :=
  (encTcCtrlPayload m).length = calTcCtrlPayload m ∧
    ∃ bytes, tcEncCtrlMsgPlain m = .ok bytes ∧ tcDecCtrlMsgPlain bytes = .ok m

theorem control_round_trip_iff (m : CtrlMsg) : m.RoundTrips ↔ m.addsOsi = false := by
  constructor
  · intro trip
    by_contra adds
    have longer := length_encTcCtrlPayload_addsOsi (Bool.eq_true_of_not_eq_false adds)
    have agrees := trip.1
    omega
  · intro others
    have size := length_encTcCtrlPayload others
    have written : tcEncCtrlMsgPlain m = .ok (encTcCtrlPayload m) :=
      writeAll_eq_ok.mpr ⟨size, rfl⟩
    have reads := tcDecCtrlMsg_run others []
    rw [List.append_nil] at reads
    have some : encTcCtrlPayload m ≠ [] := by
      cases m <;> simp [encTcCtrlPayload]
    refine ⟨size, _, written, ?_⟩
    rw [tcDecCtrlMsgPlain, check_pass _ some, ok_bind, readAll_ok reads]

/-- Add a filter for everything. -/
def addAnyOsi : CtrlMsg :=
  .cls (.add (.osi { l3 := { srcAddr := -1, dstAddr := -1 },
                     l4 := { srcPort := -1, dstPort := -1, protocol := -1 },
                     l7 := { dummy := 0 }, dstQueue := 1 }))

theorem layout_assertion_fails :
    tcEncCtrlMsgPlain addAnyOsi = .error .mismatch ∧ ¬addAnyOsi.RoundTrips := by
  constructor
  · decide
  · intro trip
    have sizes := trip.1
    exact absurd sizes (by decide)

end FlexRic.Tc
