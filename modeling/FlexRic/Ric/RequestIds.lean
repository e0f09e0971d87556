import FlexRic.Ric.Routing

/-! # How long request ids last

The counter starts at 1021 and its low 16 bits go out as request ids. So the
first 64515 requests of a run get distinct ids other than zero, and the next
one gets zero.
-/

namespace FlexRic

open Assertion

namespace Ric

variable {plugin : List UInt16} {s s' : Ric} {h : History}

/-- A request under this id waits for its answer, or its entry is in the map. -/
def Outstanding (s : Ric) (n : UInt16) : Prop :=
  Mapped s n ∨ ∃ p ∈ s.ric.pending.pairs,
    (p.2.ev = .subscriptionRequest ∨ p.2.ev = .controlRequest) ∧ p.2.id.ricReqId.toUInt16 = n

theorem pending_assigned (run : (machine plugin).Run s h) {fd : Fd} {ev : PendingEventRic}
    (mem : (fd, ev) ∈ s.ric.pending.pairs)
    (kind : ev.ev = .subscriptionRequest ∨ ev.ev = .controlRequest) :
    ∃ x, (ev.id.ricReqId.toUInt16, x) ∈ assignments h := by
  induction run with
  | start => simp [machine, initRic, initNearRic] at mem
  | @next s h e s' out _ enabled moved ih =>
      have earlier (old : (fd, ev) ∈ s.ric.pending.pairs) :
          ∃ x, (ev.id.ricReqId.toUInt16, x) ∈ assignments (⟨s, e, out, s'⟩ :: h) := by
        obtain ⟨x, mine⟩ := ih old
        exact ⟨x, mem_assignments_cons mine⟩
      have step := step_cases enabled moved
      rcases step.pending_cases with ⟨type, fd', req, rfl, done⟩ |
        ⟨fd', d, rest, -, -, armed, -⟩ | ⟨msg, ev', -, -, stopped⟩ | ⟨same, -⟩
      · have recorded : assigned ⟨s, requestArrives type fd' req, out, s'⟩ =
            some (s.nextId, ⟨req.ricId, req.xappId⟩) := by
          cases type <;> simp [assigned, requestArrives, assigned_requested done]
        cases done
        rcases List.mem_cons.mp ((BiMap.pairs_insert _ _ _).mem_iff.mp mem) with new | old
        · cases new
          refine ⟨⟨req.ricId, req.xappId⟩, ?_⟩
          rw [assignments_cons, recorded, sentId, storeLow16_toUInt16]
          simp
        · exact earlier old
      · rw [armed] at mem
        rcases List.mem_cons.mp ((BiMap.pairs_insert _ _ _).mem_iff.mp mem) with new | old
        · cases new
          simp at kind
        · exact earlier old
      · obtain ⟨_, _, taken, -, -, after⟩ := stopPendingEvent_ok stopped
        rw [after] at mem
        exact earlier (BiMap.extractRight_subset taken mem)
      · rw [same] at mem
        exact earlier mem

theorem outstanding_assigned (run : (machine plugin).Run s h) {n : UInt16}
    (outstanding : Outstanding s n) : n ∈ (assignments h).map Prod.fst := by
  rcases outstanding with mapped | ⟨⟨fd, ev⟩, mem, kind, rfl⟩
  · obtain ⟨x, mine⟩ := mapped_assigned run mapped
    exact List.mem_map.mpr ⟨_, mine, rfl⟩
  · obtain ⟨x, mine⟩ := pending_assigned run mem kind
    exact List.mem_map.mpr ⟨_, mine, rfl⟩

theorem mem_ids (run : (machine plugin).Run s h) {n : UInt16} :
    n ∈ (assignments h).map Prod.fst ↔ ∃ k < (assignments h).length, idOf k = n := by
  rw [(assignments_in_turn run).2]
  simp

theorem nextId_eq (run : (machine plugin).Run s h) : s.nextId = idOf (assignments h).length := by
  rw [nextId, (assignments_in_turn run).1, idOf]

theorem idOf_ne_zero {k : Nat} (few : k < 64515) : idOf k ≠ 0 := by
  intro zero
  have := congrArg UInt16.toNat zero
  simp only [idOf, UInt16.toNat_ofNat', UInt16.toNat_zero] at this
  omega

/-- As long as the counter has not come round, the next id is free. -/
theorem nextId_free (run : (machine plugin).Run s h) (few : (assignments h).length < 64515) :
    s.nextId ≠ 0 ∧ ¬Outstanding s s.nextId := by
  rw [nextId_eq run]
  refine ⟨idOf_ne_zero few, ?_⟩
  intro outstanding
  obtain ⟨k, before, same⟩ := (mem_ids run).mp (outstanding_assigned run outstanding)
  have := idOf_inj (by omega) (by omega) same
  omega

theorem assigned_nextId {e : RicEvent} {out : List Sent} (step : Step s e s' out) {n : UInt16}
    {x : XappRicId} (given : assigned ⟨s, e, out, s'⟩ = some (n, x)) : n = s.nextId := by
  cases step with
  | e42Subscription done =>
      simp only [assigned, assigned_requested done, Option.map_some, Option.some.injEq,
        Prod.mk.injEq] at given
      exact given.1.symm
  | e42Control done =>
      simp only [assigned, assigned_requested done, Option.map_some, Option.some.injEq,
        Prod.mk.injEq] at given
      exact given.1.symm
  | _ => simp [assigned] at given

/-- The id that an event handed out was not zero and belonged to no outstanding request. -/
def FreshAt (x : Entry Ric RicEvent (List Sent)) : Prop :=
  ∀ n y, assigned x = some (n, y) → n ≠ 0 ∧ ¬Outstanding x.before n

theorem fresh_of_few (run : (machine plugin).Run s h) (few : (assignments h).length ≤ 64515) :
    ∀ x ∈ h, FreshAt x := by
  intro x mem n y given
  obtain ⟨later, earlier, rfl⟩ := List.append_of_mem mem
  obtain ⟨before, enabled, moved⟩ := run.cut
  rw [assigned_nextId (step_cases enabled moved) given]
  apply nextId_free before
  rw [assignments_append, assignments_cons, given] at few
  simp only [List.length_append, Option.toList_some, List.length_singleton] at few
  omega

theorem few_of_fresh (run : (machine plugin).Run s h) (fresh : ∀ x ∈ h, FreshAt x) :
    (assignments h).length ≤ 64515 := by
  by_contra many
  have zero : (0 : UInt16) ∈ (assignments h).map Prod.fst :=
    (mem_ids run).mpr ⟨64515, by omega, rfl⟩
  obtain ⟨⟨n, y⟩, given, same⟩ := List.mem_map.mp zero
  obtain ⟨x, mem, given⟩ := List.mem_filterMap.mp given
  exact (fresh x mem n y given).1 same

/-- Only an id that is in the map stops a request at the map's assertion. -/
theorem e42Request_inMap {type : RicReqType} {fd : Fd} {req : E42Request}
    (stopped : e42Request type (fwdRequest (requestEvent type) (nodeRequest type)) s.ric s.iapp fd
      req = .error ricReqIdInMap) : Mapped s s.nextId := by
  simp only [e42Request, fwdRequest, e2apSendBytesRic, bind_eq_error, bind_eq_ok, check_eq_error,
    check_eq_ok, pure_eq_ok, pure_ne_error, Prod.exists, reduceCtorEq, and_false, exists_false,
    or_false, false_or, Prod.mk.injEq] at stopped
  obtain ⟨_, _, _, _, unsent | ⟨_, _, _, ⟨_, ⟨_, _, rfl⟩, rfl, rfl, rfl⟩, inMap⟩⟩ := stopped
  · simp only [findMapE2NodeSad] at unsent
    split at unsent <;> cases unsent
  · obtain ⟨-, p, mem, same⟩ := MapRicId.add_error.mp inMap
    exact ⟨p, mem, same⟩

theorem findXappMapRicId_zero {map : MapRicId} {n : UInt16}
    (stopped : findXappMapRicId map n = .error ricReqIdZero) : n = 0 := by
  simp only [findXappMapRicId, bind_eq_error, check_eq_error, pure_ne_error, and_false,
    exists_false, or_false, and_true] at stopped
  have := UInt16.lt_iff_toNat_lt.not.mp stopped
  rw [← UInt16.toNat_inj]
  simpa using this

/-- In every run, every id handed out is fresh if and only if the run hands out at
    most 64515 of them. While there is one left, no request stops at the map's
    assertion that its id is new; no id handed out is stopped on its way back for
    being zero; and no two entries of the map ever share an id. -/
theorem request_ids_fresh_iff (run : (machine plugin).Run s h) :
    ((∀ x ∈ h, FreshAt x) ↔ (assignments h).length ≤ 64515) ∧
    ((assignments h).length < 64515 → ∀ fd req,
      s.step (.e42Subscription fd req) ≠ .error ricReqIdInMap ∧
      s.step (.e42Control fd req) ≠ .error ricReqIdInMap) ∧
    ((assignments h).length ≤ 64515 → ∀ p ∈ assignments h,
      findXappMapRicId s.iapp.mapRicId p.1 ≠ .error ricReqIdZero) ∧
    ∀ p ∈ s.iapp.mapRicId.pairs, ∀ p' ∈ s.iapp.mapRicId.pairs,
      p.1.ricId.ricReqId = p'.1.ricId.ricReqId → p = p' := by
  refine ⟨⟨few_of_fresh run, fresh_of_few run⟩, ?_, ?_, ?_⟩
  · intro few fd req
    have free : ¬Mapped s s.nextId := fun mapped => (nextId_free run few).2 (.inl mapped)
    refine ⟨fun stopped => free ?_, fun stopped => free ?_⟩
    · simp only [step, bind_eq_error, pure_ne_error, and_false, exists_false, or_false] at stopped
      exact e42Request_inMap stopped
    · simp only [step, bind_eq_error, pure_ne_error, and_false, exists_false, or_false] at stopped
      exact e42Request_inMap stopped
  · intro few p mem stopped
    obtain ⟨k, before, same⟩ := (mem_ids run).mp (List.mem_map.mpr ⟨p, mem, rfl⟩)
    exact idOf_ne_zero (by omega) (same.trans (findXappMapRicId_zero stopped))
  · intro p mem p' mem' same
    exact Comparator.eq_of_ties (routed_run run).consistent.distinct mem mem'
      (cmpE2NodeRicReq_ties.mpr same)

/-- A subscription that was answered, and a control and another subscription after it. -/
def requests : List RicEvent :=
  subscribed ++ [.e42Control 22 ⟨7, gnb, ⟨2, 0, 2⟩⟩, .e42Subscription 23 ⟨7, gnb, ⟨3, 0, 2⟩⟩]

theorem request_ids_fresh_iff_subscribed :
    (assignments ((machine [2]).replay requests).2).map Prod.fst = [1023, 1022, 1021] ∧
      ∀ x ∈ ((machine [2]).replay requests).2, FreshAt x :=
  ⟨by decide +kernel,
    (request_ids_fresh_iff ((machine [2]).run_replay requests)).1.mpr (by decide +kernel)⟩

/-- A control request of xApp 7 to the node passes every check but the map's. -/
structure Ready (s : Ric) : Prop where
  idle : s.deletes = []
  validXapp : validXappId s.iapp 7
  validNode : validGlobalE2Node s.iapp gnb
  found : findMapE2NodeSad s.ric.e2Nodes gnb = .ok gnbAddr

theorem exists_above (fds : List Fd) : ∃ n, ∀ fd ∈ fds, fd < n := by
  induction fds with
  | nil => exact ⟨0, nofun⟩
  | cons fd fds ih =>
      obtain ⟨n, above⟩ := ih
      refine ⟨max n (fd + 1), ?_⟩
      intro fd' mem
      rcases List.mem_cons.mp mem with rfl | mem
      · exact Nat.lt_of_lt_of_le (Nat.lt_succ_self _) (Nat.le_max_right _ _)
      · exact Nat.lt_of_lt_of_le (above fd' mem) (Nat.le_max_left _ _)

theorem exists_freshFd (s : Ric) : ∃ fd, s.FreshFd fd := by
  obtain ⟨n, above⟩ := exists_above s.ric.timers
  refine ⟨n + 1, Nat.succ_pos n, ?_⟩
  intro mem
  exact Nat.lt_irrefl _ (Nat.lt_trans (Nat.lt_succ_self n) (above _ mem))

theorem Ready.control (ready : Ready s) (run : (machine plugin).Run s h)
    (free : ¬Mapped s s.nextId) :
    ∃ s' x, (machine plugin).Run s' (x :: h) ∧ Ready s' ∧
      assigned x = some (s.nextId, ⟨localId, 7⟩) := by
  obtain ⟨fd, fresh⟩ := exists_freshFd s
  let req : E42Request := ⟨7, gnb, localId⟩
  cases added : addMapRicId s.iapp.mapRicId (s.mappedRequest .control req) ⟨localId, 7⟩ with
  | error e =>
      obtain ⟨-, p, mem, same⟩ := MapRicId.add_error.mp added
      exact absurd ⟨p, mem, same⟩ free
  | ok map =>
      have goes := @e42Request_ok s .control fd req _ _ ready.validXapp ready.validNode
        ready.found added
      have enabled : (machine plugin).enabled s (.e42Control fd req) := ⟨ready.idle, fresh⟩
      refine ⟨_, _, .next run enabled (step_e42Control goes), ⟨ready.idle, ready.validXapp,
        ready.validNode, ready.found⟩, ?_⟩
      simp [assigned, requestId, nodeRequest, sentId, storeLow16_toUInt16, req]

def ready : List RicEvent := setup gnb gnbAddr ++ [.e42Setup 1 xappAddr]

/-- Every length up to the full round is reached. -/
theorem run_of_length (k : Nat) (few : k ≤ 64515) :
    ∃ s h, (machine [2]).Run s h ∧ Ready s ∧ (assignments h).length = k := by
  induction k with
  | zero =>
      have fit : Ready ((machine [2]).replay ready).1 :=
        ⟨by decide +kernel, by decide +kernel, by decide +kernel, by decide +kernel⟩
      exact ⟨_, _, (machine [2]).run_replay ready, fit, by decide +kernel⟩
  | succ k ih =>
      obtain ⟨s, h, run, ready, length⟩ := ih (by omega)
      have free := (nextId_free run (by omega)).2
      obtain ⟨s', x, run', ready', given⟩ :=
        ready.control run (fun mapped => free (.inl mapped))
      refine ⟨s', x :: h, run', ready', ?_⟩
      rw [assignments_cons, given, Option.toList_some, List.length_append, length]
      exact Nat.add_comm 1 k

/-- Some run hands out the id zero. -/
theorem request_ids_not_fresh :
    ¬∀ (plugin : List UInt16) (s : Ric) (h : History), (machine plugin).Run s h →
      ∀ x ∈ h, FreshAt x := by
  intro fresh
  obtain ⟨s, h, run, ready, length⟩ := run_of_length 64515 (by omega)
  have zero : s.nextId = 0 := by
    rw [nextId_eq run, length]
    rfl
  have free : ¬Mapped s s.nextId := by
    intro mapped
    obtain ⟨x, mine⟩ := mapped_assigned run mapped
    obtain ⟨k, before, same⟩ := (mem_ids run).mp (List.mem_map.mpr ⟨_, mine, rfl⟩)
    rw [zero] at same
    exact idOf_ne_zero (by omega) same
  obtain ⟨s', x, run', -, given⟩ := ready.control run free
  exact (fresh [2] s' _ run' x List.mem_cons_self _ _ given).1 zero

end Ric

end FlexRic
