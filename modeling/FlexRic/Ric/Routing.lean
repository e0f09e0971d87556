import FlexRic.Ric.History
import Mathlib.Algebra.Group.Nat.Defs
import Mathlib.Data.List.Nodup

/-! # Routing

Who an answer goes to is decided by three records that different handlers keep:
the map of request ids, the request that a task has already looked up, and the
addresses of the xApps. The invariant ties each of them to the history, where
ids were handed out.
-/

namespace FlexRic

namespace Ric

variable {plugin : List UInt16} {s s' : Ric} {h : History}

/-- Every record of whose request an id is goes back to the event that handed it out. -/
structure Routed (s : Ric) (h : History) : Prop where
  consistent : s.iapp.mapRicId.Consistent
  mapped : ∀ n x, (n, x) ∈ s.iapp.mapRicId.pairs →
    ∃ id : UInt16, n.ricId.ricReqId = id.toUInt32 ∧ (id, x) ∈ assignments h
  waiting : ∀ msg, Task.handle msg ∈ s.tasks ∨ Task.lookUp msg ∈ s.tasks → msg ∈ arrived h
  inHand : ∀ msg x, Task.forward msg x ∈ s.tasks → msg ∈ arrived h ∧
    (msg.ricId.ricReqId.toUInt16, x) ∈ assignments h ∧
    msg.ricId.ranFuncId = x.ricId.ranFuncId ∧ msg.ricId.ricInstId = x.ricId.ricInstId
  addresses : s.iapp.xapps.left.Distinct
  registered : ∀ p, p ∈ registrations h ↔ p ∈ s.iapp.xapps.pairs

theorem lookUp_ok {iapp : E42Iapp} {msg : RicMsg} {x : XappRicId}
    (found : lookUp iapp msg = .ok (some x)) :
    (∃ n, (n, x) ∈ iapp.mapRicId.pairs ∧
      n.ricId.ricReqId = msg.ricId.ricReqId.toUInt16.toUInt32) ∧
    msg.ricId.ranFuncId = x.ricId.ranFuncId ∧ msg.ricId.ricInstId = x.ricId.ricInstId := by
  simp only [lookUp, bind_eq_ok] at found
  obtain ⟨y, got, found⟩ := found
  cases y with
  | none =>
      simp only [bind_eq_ok, pure_eq_ok, reduceCtorEq, and_false, exists_false] at found
  | some y =>
      simp only [bind_eq_ok, check_eq_ok, pure_eq_ok, Option.some.injEq] at found
      obtain ⟨_, func, _, inst, rfl⟩ := found
      exact ⟨(MapRicId.find_ok got).2, func, inst⟩

theorem routed_init : Routed (initRic plugin) [] where
  consistent := MapRicId.consistent_init
  mapped := by simp [initRic, initE42Iapp]
  waiting := by simp [initRic]
  inHand := by simp [initRic]
  addresses := BiMap.bijective_init.left
  registered := by simp [registrations, initRic, initE42Iapp]

theorem arrived_cons {e : RicEvent} {out : List Sent} :
    arrived (⟨s, e, out, s'⟩ :: h) =
      (match e with | .ricMsg msg => [msg] | _ => []) ++ arrived h := by
  cases e <;> rfl

theorem mem_arrived_cons {e : RicEvent} {out : List Sent} {msg : RicMsg}
    (mem : msg ∈ arrived h) : msg ∈ arrived (⟨s, e, out, s'⟩ :: h) := by
  rw [arrived_cons]
  exact List.mem_append_right _ mem

theorem mem_assignments_cons {x : Entry Ric RicEvent (List Sent)} {p : UInt16 × XappRicId}
    (mem : p ∈ assignments h) : p ∈ assignments (x :: h) := by
  rw [assignments_cons]
  exact List.mem_append_right _ mem

/-- The map's half of the step. -/
theorem Routed.map_step {e : RicEvent} {out : List Sent} (inv : Routed s h)
    (step : Step s e s' out) :
    s'.iapp.mapRicId.Consistent ∧ ∀ n x, (n, x) ∈ s'.iapp.mapRicId.pairs →
      ∃ id : UInt16, n.ricId.ricReqId = id.toUInt32 ∧
        (id, x) ∈ assignments (⟨s, e, out, s'⟩ :: h) := by
  rcases step.map_cases (h := h) with ⟨type, fd, req, done, recorded⟩ | ⟨x, _, removed, _, same⟩ |
    ⟨same, _, recorded⟩
  · cases done with
    | mk _ _ _ added =>
        refine ⟨inv.consistent.add added, ?_⟩
        intro n x mem
        rw [recorded]
        rcases (MapRicId.mem_add added).mp mem with new | old
        · cases new
          exact ⟨s.nextId, rfl, by simp⟩
        · obtain ⟨id, key, mem⟩ := inv.mapped n x old
          exact ⟨id, key, List.mem_cons_of_mem _ mem⟩
  · obtain ⟨_, perm, kept⟩ := inv.consistent.rm removed
    refine ⟨kept, ?_⟩
    intro n x mem
    rw [same]
    exact inv.mapped n x (perm.mem_iff.mpr (List.mem_cons_of_mem _ mem))
  · rw [same, recorded]
    exact ⟨inv.consistent, inv.mapped⟩

theorem Routed.waiting_step {e : RicEvent} {out : List Sent} (inv : Routed s h)
    (step : Step s e s' out) {msg : RicMsg}
    (mem : Task.handle msg ∈ s'.tasks ∨ Task.lookUp msg ∈ s'.tasks) :
    msg ∈ arrived (⟨s, e, out, s'⟩ :: h) := by
  rcases mem with mem | mem
  · rcases step.task_origin mem with old | new
    · exact mem_arrived_cons (inv.waiting msg (.inl old))
    · rw [arrived_cons, show e = .ricMsg msg from new]
      simp
  · rcases step.task_origin mem with old | new
    · exact mem_arrived_cons (inv.waiting msg (.inr old))
    · exact mem_arrived_cons (inv.waiting msg (.inl new))

theorem Routed.inHand_step {e : RicEvent} {out : List Sent} (inv : Routed s h)
    (step : Step s e s' out) {msg : RicMsg} {x : XappRicId}
    (mem : Task.forward msg x ∈ s'.tasks) :
    msg ∈ arrived (⟨s, e, out, s'⟩ :: h) ∧
      (msg.ricId.ricReqId.toUInt16, x) ∈ assignments (⟨s, e, out, s'⟩ :: h) ∧
      msg.ricId.ranFuncId = x.ricId.ranFuncId ∧ msg.ricId.ricInstId = x.ricId.ricInstId := by
  rcases step.task_origin mem with old | ⟨task, found⟩
  · obtain ⟨came, mine, ids⟩ := inv.inHand msg x old
    exact ⟨mem_arrived_cons came, mem_assignments_cons mine, ids⟩
  · obtain ⟨⟨n, stored, key⟩, ids⟩ := lookUp_ok found
    obtain ⟨id, key', mine⟩ := inv.mapped n x stored
    cases toUInt32_inj (key.symm.trans key')
    exact ⟨mem_arrived_cons (inv.waiting msg (.inr task)), mem_assignments_cons mine, ids⟩

theorem addMapXappsSad_ok {m m' : MapXappsSad} {xappId : UInt16} {info : SctpInfo}
    (ok : addMapXappsSad m xappId info = .ok m') :
    m' = m.insert xappId info ∧ ∀ p ∈ m.pairs, p.1 ≠ xappId := by
  simp only [addMapXappsSad, bind_eq_ok, check_eq_ok, pure_eq_ok] at ok
  obtain ⟨_, fresh, rfl⟩ := ok
  exact ⟨rfl, fun p mem same => AssocRbTree.findIf_none.mp fresh p mem (by simpa using same)⟩

theorem Routed.xapps_step {e : RicEvent} {out : List Sent} (inv : Routed s h)
    (step : Step s e s' out) :
    s'.iapp.xapps.left.Distinct ∧ ∀ p, p ∈ registrations (⟨s, e, out, s'⟩ :: h) ↔
      p ∈ s'.iapp.xapps.pairs := by
  rcases step.xapps_cases (h := h) with ⟨xappId, info, added, recorded⟩ | ⟨same, recorded⟩
  · obtain ⟨eq, fresh⟩ := addMapXappsSad_ok added
    rw [eq, recorded]
    refine ⟨AssocRbTree.distinct_insert.mpr ⟨?_, inv.addresses⟩, ?_⟩
    · intro p mem ties
      exact fresh p mem (cmpUint16_ties.mp ties).symm
    · intro p
      rw [(BiMap.pairs_insert _ _ _).mem_iff, List.mem_cons, List.mem_cons, inv.registered]
  · rw [same, recorded]
    exact ⟨inv.addresses, inv.registered⟩

theorem Routed.step {e : RicEvent} {out : List Sent} (inv : Routed s h)
    (step : Step s e s' out) : Routed s' (⟨s, e, out, s'⟩ :: h) where
  consistent := (inv.map_step step).1
  mapped := (inv.map_step step).2
  waiting _ := inv.waiting_step step
  inHand _ _ := inv.inHand_step step
  addresses := (inv.xapps_step step).1
  registered := (inv.xapps_step step).2

theorem routed_run (run : (machine plugin).Run s h) : Routed s h := by
  induction run with
  | start => exact routed_init
  | next _ enabled moved ih => exact ih.step (step_cases enabled moved)

/-- The `k`-th request gets `1021 + k`, cut to 16 bits. -/
def idOf (k : Nat) : UInt16 := UInt16.ofNat (1021 + k)

theorem assignments_in_turn (run : (machine plugin).Run s h) :
    s.ric.reqId = 1021 + (assignments h).length ∧
      (assignments h).map Prod.fst = ((List.range (assignments h).length).map idOf).reverse := by
  induction run with
  | start => exact ⟨rfl, rfl⟩
  | @next s h e s' out _ enabled moved ih =>
      obtain ⟨count, ids⟩ := ih
      rcases (step_cases enabled moved).map_cases (h := h) with
        ⟨type, fd, req, done, recorded⟩ | ⟨x, _, _, counter, same⟩ | ⟨_, counter, same⟩
      · cases done
        rw [recorded]
        refine ⟨?_, ?_⟩
        · simp only [addPending, createTimer, count, List.length_cons]
          omega
        · simp only [List.map_cons, ids, List.length_cons, List.range_succ, List.map_append,
            List.map_nil, List.reverse_append, List.reverse_cons, List.reverse_nil,
            List.nil_append, List.cons_append, List.cons.injEq, and_true]
          rw [nextId, count, idOf]
      · rw [counter, same]
        exact ⟨count, ids⟩
      · rw [counter, same]
        exact ⟨count, ids⟩

theorem idOf_inj {j k : Nat} (hj : j < 2 ^ 16) (hk : k < 2 ^ 16) (same : idOf j = idOf k) :
    j = k := by
  have := congrArg UInt16.toNat same
  simp only [idOf, UInt16.toNat_ofNat'] at this
  omega

/-- Up to 2^16 of them, no id is handed out twice. -/
theorem assignments_nodup (run : (machine plugin).Run s h)
    (few : (assignments h).length ≤ 2 ^ 16) : ((assignments h).map Prod.fst).Nodup := by
  rw [(assignments_in_turn run).2, List.nodup_reverse]
  refine List.Nodup.map_on (fun j hj k hk same => ?_) List.nodup_range
  have := List.mem_range.mp hj
  have := List.mem_range.mp hk
  exact idOf_inj (by omega) (by omega) same

theorem assignments_append {later earlier : History} :
    assignments (later ++ earlier) = assignments later ++ assignments earlier :=
  List.filterMap_append

theorem mapped_assigned (run : (machine plugin).Run s h) {n : UInt16} (mapped : Mapped s n) :
    ∃ x, (n, x) ∈ assignments h := by
  obtain ⟨⟨m, x⟩, stored, key⟩ := mapped
  obtain ⟨id, key', mine⟩ := (routed_run run).mapped m x stored
  cases toUInt32_inj (key.symm.trans key')
  exact ⟨x, mine⟩

theorem removed_stays_away (run : (machine plugin).Run s h)
    (few : (assignments h).length ≤ 2 ^ 16) {n : UInt16}
    {removal : Entry Ric RicEvent (List Sent)} (mem : removal ∈ h)
    (was : Mapped removal.before n) (gone : ¬Mapped removal.after n) : ¬Mapped s n := by
  induction run with
  | start => cases mem
  | @next s h e s' out run enabled moved ih =>
      rcases List.mem_cons.mp mem with rfl | older
      · exact gone
      have whole : (machine plugin).Run s' (⟨s, e, out, s'⟩ :: h) := .next run enabled moved
      have fewer : (assignments h).length ≤ 2 ^ 16 := by
        rw [assignments_cons, List.length_append] at few
        omega
      have away := ih fewer older
      rcases (step_cases enabled moved).map_cases (h := h) with
        ⟨type, fd, req, done, recorded⟩ | ⟨x, _, removed, _, _⟩ | ⟨same, _, _⟩
      · intro mapped
        obtain ⟨p, stored, key⟩ := mapped
        cases done with
        | mk _ _ _ added =>
            rcases (MapRicId.mem_add added).mp stored with new | old
            · -- the new id would be one that was handed out before
              cases new
              cases toUInt32_inj key
              obtain ⟨later, earlier, rfl⟩ := List.append_of_mem older
              obtain ⟨x, mine⟩ := mapped_assigned run.cut.1 was
              have distinct := assignments_nodup whole few
              rw [recorded, List.map_cons, List.nodup_cons] at distinct
              refine distinct.1 (List.mem_map.mpr ⟨(s.nextId, x), ?_, rfl⟩)
              rw [assignments_append]
              exact List.mem_append_right _ (mem_assignments_cons mine)
            · exact away ⟨p, old, key⟩
      · intro mapped
        obtain ⟨p, stored, key⟩ := mapped
        obtain ⟨_, perm, _⟩ := (routed_run run).consistent.rm removed
        exact away ⟨p, perm.mem_iff.mpr (List.mem_cons_of_mem _ stored), key⟩
      · rwa [Mapped, same]

/-- The same message about another request. -/
def withRicId (ricId : RicGenId) : RicMsg → RicMsg
  | .subscriptionResponse resp => .subscriptionResponse { resp with ricId := ricId }
  | .subscriptionDeleteResponse _ => .subscriptionDeleteResponse ricId
  | .controlAcknowledge _ => .controlAcknowledge ricId
  | .indication _ => .indication ricId

/-- Handlers that only replace the request id build the whole id of the xApp's
    request, since they have checked the rest. -/
theorem ans_eq {msg : RicMsg} {x : XappRicId} (func : msg.ricId.ranFuncId = x.ricId.ranFuncId)
    (inst : msg.ricId.ricInstId = x.ricId.ricInstId) :
    (e2apMsgHandleIapp msg).ans x = withRicId x.ricId msg := by
  cases msg with
  | subscriptionResponse resp =>
      simp only [RicMsg.ricId] at func inst
      simp [e2apMsgHandleIapp, e2apHandleSubscriptionResponseIapp, withRicId, func, inst]
  | subscriptionDeleteResponse ricId => rfl
  | controlAcknowledge ricId => rfl
  | indication ricId =>
      simp only [RicMsg.ricId] at func inst
      simp [e2apMsgHandleIapp, e2apHandleRicIndicationIapp, withRicId, func, inst]

theorem Step.toXapp_cases {e : RicEvent} {out : List Sent} (step : Step s e s' out)
    {info : SctpInfo} {answer : RicMsg} (sent : Sent.toXapp info (.ricMsg answer) ∈ out) :
    ∃ i msg x, e = .runTask i ∧ s.tasks[i]? = some (.forward msg x) ∧
      answer = (e2apMsgHandleIapp msg).ans x ∧
      findMapXappsSad s.iapp.xapps x.xappId = .ok info := by
  cases step with
  | forward task found =>
      simp only [List.mem_singleton, Sent.toXapp.injEq, XappMsg.ricMsg.injEq] at sent
      obtain ⟨rfl, rfl⟩ := sent
      exact ⟨_, _, _, rfl, task, rfl, found⟩
  | e42Setup pos added => simp at sent
  | e42Subscription done => cases done; simp at sent
  | e42Control done => cases done; simp at sent
  | forwardDelete next forwarded =>
      rcases fwdRicSubscriptionRequestDelete_ok forwarded with ⟨-, rfl, -⟩ | ⟨-, -, _, -, rfl⟩ <;>
        simp at sent
  | _ => simp at sent

theorem findMapXappsSad_ok {m : MapXappsSad} {xappId : UInt16} {info : SctpInfo}
    (ok : findMapXappsSad m xappId = .ok info) : (xappId, info) ∈ m.pairs := by
  unfold findMapXappsSad at ok
  split at ok
  · cases ok
  · rename_i id s found
    cases ok
    obtain ⟨mem, same⟩ := AssocRbTree.findIf_some found
    simp only [decide_eq_true_eq] at same
    rwa [← same]

theorem findMapXappsSad_of_mem {m : MapXappsSad} (distinct : m.left.Distinct) {id : UInt16}
    {info : SctpInfo} (mem : (id, info) ∈ m.pairs) : findMapXappsSad m id = .ok info := by
  unfold findMapXappsSad
  split
  · rename_i missed
    exact absurd (by simp) (AssocRbTree.findIf_none.mp missed _ mem)
  · rename_i id' info' found
    obtain ⟨mem', same⟩ := AssocRbTree.findIf_some found
    obtain rfl : id' = id := by simpa using same
    cases Comparator.eq_of_ties distinct mem mem' (.refl _ _)
    rfl

/-- What an event sends to an xApp about a message of an E2 node is that message
    under the id that the xApp's own request had, the one request the message's id
    was ever handed out for, and it goes to the one address that this xApp registered. -/
def SendsFaithfully (h earlier : History) (entry : Entry Ric RicEvent (List Sent)) : Prop :=
  ∀ info answer, Sent.toXapp info (.ricMsg answer) ∈ entry.output →
    ∃ i msg x, entry.event = .runTask i ∧ entry.before.tasks[i]? = some (.forward msg x) ∧
      msg ∈ arrived earlier ∧
      (msg.ricId.ricReqId.toUInt16, x) ∈ assignments earlier ∧
      (∀ y, (msg.ricId.ricReqId.toUInt16, y) ∈ assignments h → y = x) ∧
      answer = withRicId x.ricId msg ∧
      (x.xappId, info) ∈ registrations earlier ∧
      ∀ info', (x.xappId, info') ∈ registrations h → info' = info

theorem sends_faithfully (run : (machine plugin).Run s h) (few : (assignments h).length < 2 ^ 16)
    {later earlier : History} {entry : Entry Ric RicEvent (List Sent)}
    (cut : h = later ++ entry :: earlier) : SendsFaithfully h earlier entry := by
  have here := cut ▸ run
  obtain ⟨before, enabled, moved⟩ := here.cut
  intro info answer sent
  obtain ⟨i, msg, x, event, task, rfl, found⟩ :=
    (step_cases enabled moved).toXapp_cases sent
  obtain ⟨came, mine, func, inst⟩ :=
    (routed_run before).inHand msg x (List.mem_of_getElem? task)
  have address : (x.xappId, info) ∈ registrations earlier :=
    ((routed_run before).registered _).mpr (findMapXappsSad_ok found)
  refine ⟨i, msg, x, event, task, came, mine, ?_, ans_eq func inst, address, ?_⟩
  · intro y other
    have inWhole : (msg.ricId.ricReqId.toUInt16, x) ∈ assignments h := by
      rw [cut, assignments_append]
      exact List.mem_append_right _ (mem_assignments_cons mine)
    have distinct := assignments_nodup run (Nat.le_of_lt few)
    exact (Prod.mk.inj (List.inj_on_of_nodup_map distinct other inWhole rfl)).2
  · intro info' other
    have stored := ((routed_run run).registered _).mp other
    have stored' : (x.xappId, info) ∈ s.iapp.xapps.pairs := by
      apply ((routed_run run).registered _).mp
      rw [cut, registrations, List.flatMap_append]
      exact List.mem_append_right _ (List.mem_append_right _ address)
    have same := Comparator.eq_of_ties (routed_run run).addresses stored stored'
      (Comparator.Ties.refl _ _)
    exact (Prod.mk.inj same).2

/-- An id whose entry was removed is in the map neither before nor after the event. -/
def StaysAway (earlier : History) (entry : Entry Ric RicEvent (List Sent)) : Prop :=
  ∀ removal ∈ earlier, ∀ n, Mapped removal.before n → ¬Mapped removal.after n →
    ¬Mapped entry.before n ∧ ¬Mapped entry.after n

theorem stays_away (run : (machine plugin).Run s h) (few : (assignments h).length < 2 ^ 16)
    {later earlier : History} {entry : Entry Ric RicEvent (List Sent)}
    (cut : h = later ++ entry :: earlier) : StaysAway earlier entry := by
  have here := cut ▸ run
  have suffix : (assignments (entry :: earlier)).length ≤ 2 ^ 16 := by
    rw [cut, assignments_append, List.length_append] at few
    omega
  have older : (assignments earlier).length ≤ 2 ^ 16 := by
    rw [assignments_cons, List.length_append] at suffix
    omega
  intro removal mem n was gone
  exact ⟨removed_stays_away here.cut.1 older mem was gone,
    removed_stays_away here.upto suffix (List.mem_cons_of_mem _ mem) was gone⟩

/-- One xApp subscribes, the node answers, and the answer is forwarded. -/
def subscribed : List RicEvent :=
  setup gnb gnbAddr ++ [.e42Setup 1 xappAddr, .e42Subscription 20 ⟨7, gnb, localId⟩,
    .ricMsg (.subscriptionResponse ⟨⟨1021, 0, 2⟩, [0], 0⟩), .runTask 0, .runTask 0, .runTask 0]

end Ric

end FlexRic
