import FlexRic.Ric.InHand

/-! # What is still open at a node

Read off the history: the subscriptions and controls of a node that no delete
response and no acknowledge has closed, and the requests on their way to it that
no answer has reached. They are what the map of request ids and the pending
events have of the node, no more and no less.
-/

namespace FlexRic

namespace Ric

variable {plugin : List UInt16} {s s' : Ric} {h : History} {e : RicEvent} {out : List Sent}
  {id : GlobalE2NodeId} {n : UInt16} {fd : Fd}

/-- The request id of a subscription or a control that goes to this node. -/
def requestTo (id : GlobalE2NodeId) : Sent → Option UInt16
  | .toNode id' _ (.subscription ricId) | .toNode id' _ (.control ricId) =>
      if eqGlobalE2NodeId id' id then some ricId.ricReqId.toUInt16 else none
  | _ => none

/-- The request whose entry the event closes: the last section of a delete
    response's or an acknowledge's task takes out the entry that it finds. -/
def closed (x : Entry Ric RicEvent (List Sent)) : Option UInt32 :=
  match x.event with
  | .runTask i =>
      match x.before.tasks[i]? with
      | some (.remove xr) => (x.before.iapp.mapRicId.right.find xr).map (·.ricId.ricReqId)
      | _ => none
  | _ => none

/-- The subscriptions and controls of the node that have not been closed since. -/
def openRequests (id : GlobalE2NodeId) : History → List UInt16
  | [] => []
  | x :: h => (x.output.findSome? (requestTo id)).toList ++
      (openRequests id h).filter fun n => closed x ≠ some n.toUInt32

/-- The timer that the event arms, and the node that gets the request. -/
def arms (x : Entry Ric RicEvent (List Sent)) : Option (Fd × GlobalE2NodeId) :=
  match x.event with
  | .e42Subscription fd _ | .e42Control fd _ | .forwardDelete fd =>
      x.output.findSome? fun
        | .toNode id _ _ => some (fd, id)
        | _ => none
  | _ => none

/-- The timer that the event stops: the answer's section stops that of the
    pending event that it finds. -/
def answered (x : Entry Ric RicEvent (List Sent)) : Option Fd :=
  match x.event with
  | .runTask i =>
      match x.before.tasks[i]? with
      | some (.handle msg) => msg.stops.bind x.before.ric.pending.right.find
      | _ => none
  | _ => none

/-- The node that got the latest request under this timer. -/
def sentTo (h : History) (fd : Fd) : Option GlobalE2NodeId :=
  h.findSome? fun x => (arms x).bind fun p => if p.1 = fd then some p.2 else none

/-- The timers of the requests to the node that no answer has stopped since. -/
def awaited (id : GlobalE2NodeId) : History → List Fd
  | [] => []
  | x :: h => ((arms x).bind fun p => if eqGlobalE2NodeId p.2 id then some p.1 else none).toList ++
      (awaited id h).filter fun fd => answered x ≠ some fd

theorem mem_openRequests {x : Entry Ric RicEvent (List Sent)} :
    n ∈ openRequests id (x :: h) ↔ x.output.findSome? (requestTo id) = some n ∨
      n ∈ openRequests id h ∧ closed x ≠ some n.toUInt32 := by
  simp [openRequests]

theorem mem_awaited {x : Entry Ric RicEvent (List Sent)} :
    fd ∈ awaited id (x :: h) ↔
      (∃ id', arms x = some (fd, id') ∧ eqGlobalE2NodeId id' id) ∨
        fd ∈ awaited id h ∧ answered x ≠ some fd := by
  cases arming : arms x with
  | none => simp [awaited, arming]
  | some p =>
      obtain ⟨fd', id'⟩ := p
      simp only [awaited, arming, Option.bind_some, List.mem_append, Option.mem_toList,
        Option.ite_none_right_eq_some, Option.some.injEq, List.mem_filter, decide_eq_true_eq,
        Prod.mk.injEq]
      refine or_congr_left ?_
      constructor
      · rintro ⟨here, rfl⟩
        exact ⟨id', ⟨rfl, rfl⟩, here⟩
      · rintro ⟨_, ⟨rfl, rfl⟩, here⟩
        exact ⟨here, rfl⟩

theorem sentTo_cons {x : Entry Ric RicEvent (List Sent)} :
    sentTo (x :: h) fd =
      match arms x with
      | some (fd', id) => if fd' = fd then some id else sentTo h fd
      | none => sentTo h fd := by
  cases arming : arms x with
  | none => simp [sentTo, arming]
  | some p =>
      by_cases same : p.1 = fd
      · simp [sentTo, arming, same]
      · simp [sentTo, arming, same]

/-- What a step does to the map of request ids: it stores a request, closes one,
    or leaves the map alone. -/
theorem Step.open_cases (step : Step s e s' out) :
    (∃ type fd req, e = requestArrives type fd req ∧ Requested type s fd req s' out) ∨
    (∃ m xr, closed ⟨s, e, out, s'⟩ = some m.ricId.ricReqId ∧ out = [] ∧
      s.iapp.mapRicId.right.find xr = some m ∧
      rmMapRicId s.iapp.mapRicId xr = .ok s'.iapp.mapRicId) ∨
    (closed ⟨s, e, out, s'⟩ = none ∧ s'.iapp.mapRicId = s.iapp.mapRicId ∧
      ∀ id, out.findSome? (requestTo id) = none) := by
  cases step with
  | e42Subscription done => exact .inl ⟨.subscription, _, _, rfl, done⟩
  | e42Control done => exact .inl ⟨.control, _, _, rfl, done⟩
  | @remove i xr map task removed =>
      refine .inr (.inl ?_)
      cases got : s.iapp.mapRicId.extractRight xr with
      | error failed => simp [rmMapRicId, got] at removed
      | ok taken =>
          have found := BiMap.find_right_of_extractRight got
          exact ⟨taken.1, xr, by simp [closed, task, found], rfl, found, removed⟩
  | regSockAddr task | addE2Node task | connectE2Node task | lookUp task | forward task =>
      exact .inr (.inr ⟨by simp [closed, task], rfl, fun _ => rfl⟩)
  | handle task handled =>
      obtain ⟨_, _, rfl⟩ := e2apMsgHandleRic_frame handled
      exact .inr (.inr ⟨by simp [closed, task], rfl, fun _ => rfl⟩)
  | disconnect leaving removed =>
      obtain ⟨-, rfl⟩ := disconnectE2Node_ok removed
      exact .inr (.inr ⟨rfl, rfl, fun _ => rfl⟩)
  | forwardDelete next forwarded =>
      rcases fwdRicSubscriptionRequestDelete_ok forwarded with
        ⟨rfl, rfl, -⟩ | ⟨rfl, -, _, -, rfl⟩
      · exact .inr (.inr ⟨rfl, rfl, fun _ => rfl⟩)
      · exact .inr (.inr ⟨rfl, rfl, fun _ => rfl⟩)
  | _ => exact .inr (.inr ⟨rfl, rfl, fun _ => rfl⟩)

theorem requestTo_requested {type : RicReqType} {req : E42Request}
    (done : Requested type s fd req s' out) :
    out.findSome? (requestTo id) =
      if eqGlobalE2NodeId req.id id then some s.nextId else none := by
  cases done
  cases type <;> simp [requestTo, nodeRequest, sentId, storeLow16_toUInt16]

/-- The entry of a request to this node is in the map. -/
def HasEntry (s : Ric) (id : GlobalE2NodeId) (n : UInt16) : Prop :=
  ∃ p ∈ s.iapp.mapRicId.pairs, eqGlobalE2NodeId p.1.e2NodeId id ∧
    p.1.ricId.ricReqId = n.toUInt32

theorem hasEntry_requested {type : RicReqType} {req : E42Request}
    (done : Requested type s fd req s' out) :
    HasEntry s' id n ↔ (eqGlobalE2NodeId req.id id ∧ s.nextId = n) ∨ HasEntry s id n := by
  cases done with
  | mk _ _ _ added =>
      simp only [HasEntry, MapRicId.mem_add added, or_and_right, exists_or, exists_eq_left]
      refine or_congr_left (and_congr_right fun _ => ?_)
      exact ⟨toUInt32_inj, congrArg UInt16.toUInt32⟩

theorem hasEntry_removed {m : E2NodeRicId} {xr : XappRicId}
    (consistent : s.iapp.mapRicId.Consistent) (found : s.iapp.mapRicId.right.find xr = some m)
    (removed : rmMapRicId s.iapp.mapRicId xr = .ok s'.iapp.mapRicId) :
    HasEntry s' id n ↔ HasEntry s id n ∧ m.ricId.ricReqId ≠ n.toUInt32 := by
  obtain ⟨m', found', perm⟩ := consistent.rm_find removed
  cases Option.mem_unique found found'
  constructor
  · intro entry
    obtain ⟨p, mem, here, key⟩ := entry
    refine ⟨⟨p, perm.mem_iff.mpr (List.mem_cons_of_mem _ mem), here, key⟩, fun same => ?_⟩
    exact consistent.gone perm mem (key.trans same.symm)
  · rintro ⟨⟨p, mem, here, key⟩, other⟩
    rcases List.mem_cons.mp (perm.mem_iff.mp mem) with rfl | mem
    · exact absurd key other
    · exact ⟨p, mem, here, key⟩

/-- The map has the entries of the node's open requests. -/
theorem mem_openRequests_iff (run : (machine plugin).Run s h) :
    n ∈ openRequests id h ↔ HasEntry s id n := by
  induction run with
  | start => simp [openRequests, HasEntry, machine, initRic, initE42Iapp]
  | @next s h e s' out run enabled moved ih =>
      rw [mem_openRequests]
      rcases (step_cases enabled moved).open_cases with ⟨type, fd, req, rfl, done⟩ |
        ⟨m, xr, closes, rfl, found, removed⟩ | ⟨closes, same, sends⟩
      · have kept : closed ⟨s, requestArrives type fd req, out, s'⟩ = none := by cases type <;> rfl
        rw [requestTo_requested done, hasEntry_requested done, ih, kept]
        simp
      · rw [hasEntry_removed (routed_run run).consistent found removed, ih, closes]
        simp
      · rw [sends id, closes, HasEntry, same, ih]
        simp [HasEntry]

/-- The armed timers are those of the pending events; the events need not differ. -/
structure Watched (ric : NearRic) : Prop where
  inverse : ric.pending.Inverse
  distinct : ric.pending.left.Distinct
  watched : ric.timers.Perm (ric.pending.pairs.map Prod.fst)

theorem Watched.timer {ric : NearRic} (inv : Watched ric) {ev : PendingEventRic}
    (mem : (fd, ev) ∈ ric.pending.pairs) : fd ∈ ric.timers :=
  inv.watched.mem_iff.mpr (List.mem_map.mpr ⟨_, mem, rfl⟩)

theorem Watched.add {ric : NearRic} (inv : Watched ric) (unused : fd ∉ ric.timers)
    (ev : PendingEventRic) : Watched (addPending ric fd ev) where
  inverse := inv.inverse.insert fd ev
  distinct := by
    refine AssocRbTree.distinct_insert.mpr ⟨fun p mem ties => ?_, inv.distinct⟩
    cases cmpFd_ties.mp ties
    exact unused (inv.timer mem)
  watched := (inv.watched.cons fd).trans ((BiMap.pairs_insert ric.pending fd ev).map Prod.fst).symm

/-- What an answer that stops a timer takes out. -/
theorem Watched.stop {ric ric' : NearRic} (inv : Watched ric) {ev : PendingEventRic}
    (stopped : stopPendingEvent ric ev = .ok ric') :
    Watched ric' ∧ ∃ fd, ric.pending.right.find ev = some fd ∧
      ∀ fd', (∃ ev', (fd', ev') ∈ ric'.pending.pairs) ↔
        (∃ ev', (fd', ev') ∈ ric.pending.pairs) ∧ fd ≠ fd' := by
  obtain ⟨fd, pending, taken, -, watched, rfl⟩ := stopPendingEvent_ok stopped
  obtain ⟨b, -, perm, inverse⟩ := BiMap.extractRight_ok inv.inverse inv.distinct taken
  have apart := (AssocRbTree.distinct_of_perm perm).mp inv.distinct
  have rest : (ric.timers.erase fd).Perm (pending.pairs.map Prod.fst) :=
    ((List.perm_cons_erase watched).symm.trans
      (inv.watched.trans (perm.map Prod.fst))).cons_inv
  refine ⟨⟨inverse, (List.pairwise_cons.mp apart).2, rest⟩, fd,
    BiMap.find_right_of_extractRight taken, fun fd' => ?_⟩
  constructor
  · rintro ⟨ev', mem⟩
    refine ⟨⟨ev', perm.mem_iff.mpr (List.mem_cons_of_mem _ mem)⟩, ?_⟩
    rintro rfl
    exact (List.pairwise_cons.mp apart).1 _ mem (Comparator.Ties.refl _ _)
  · rintro ⟨⟨ev', mem⟩, other⟩
    rcases List.mem_cons.mp (perm.mem_iff.mp mem) with here | mem
    · exact absurd (congrArg Prod.fst here).symm other
    · exact ⟨ev', mem⟩

/-- What a step does to the pending events: it arms a timer for a request, stops
    the one of an answer, or leaves them alone. -/
theorem Step.wait_cases (enabled : s.Enabled e) (step : Step s e s' out) :
    (∃ fd id ev, arms ⟨s, e, out, s'⟩ = some (fd, id) ∧ answered ⟨s, e, out, s'⟩ = none ∧
      fd ∉ s.ric.timers ∧ s'.ric.pending = (addPending s.ric fd ev).pending ∧
      s'.ric.timers = (addPending s.ric fd ev).timers) ∨
    (∃ (msg : RicMsg) (ev : PendingEventRic), arms ⟨s, e, out, s'⟩ = none ∧ msg.stops = some ev ∧
      answered ⟨s, e, out, s'⟩ = s.ric.pending.right.find ev ∧
      stopPendingEvent s.ric ev = .ok s'.ric) ∨
    (arms ⟨s, e, out, s'⟩ = none ∧ answered ⟨s, e, out, s'⟩ = none ∧
      s'.ric.pending = s.ric.pending ∧ s'.ric.timers = s.ric.timers) := by
  cases step with
  | e42Subscription done | e42Control done =>
      cases done
      exact .inl ⟨_, _, _, rfl, rfl, enabled.2.2, rfl, rfl⟩
  | forwardDelete next forwarded =>
      rcases fwdRicSubscriptionRequestDelete_ok forwarded with
        ⟨rfl, rfl, -⟩ | ⟨rfl, -, _, -, rfl⟩
      · exact .inr (.inr ⟨rfl, rfl, rfl, rfl⟩)
      · exact .inl ⟨_, _, _, rfl, rfl, enabled.2.2, rfl, rfl⟩
  | @handle i msg _ task handled =>
      have stopped := e2apMsgHandleRic_ok handled
      cases stops : msg.stops with
      | none =>
          rw [stops] at stopped
          subst stopped
          exact .inr (.inr ⟨rfl, by simp [answered, task, stops], rfl, rfl⟩)
      | some ev =>
          rw [stops] at stopped
          exact .inr (.inl ⟨msg, ev, rfl, stops, by simp [answered, task, stops], stopped⟩)
  | regSockAddr task | addE2Node task | connectE2Node task | lookUp task | forward task
  | remove task => exact .inr (.inr ⟨rfl, by simp [answered, task], rfl, rfl⟩)
  | disconnect leaving removed =>
      obtain ⟨-, rfl⟩ := disconnectE2Node_ok removed
      exact .inr (.inr ⟨rfl, rfl, rfl, rfl⟩)
  | _ => exact .inr (.inr ⟨rfl, rfl, rfl, rfl⟩)

/-- The request of a pending event went to this node. -/
def Waits (s : Ric) (h : History) (id : GlobalE2NodeId) (fd : Fd) : Prop :=
  (∃ ev, (fd, ev) ∈ s.ric.pending.pairs) ∧
    ∃ id', sentTo h fd = some id' ∧ eqGlobalE2NodeId id' id

/-- The pending events of the node are those of the requests that it has not answered. -/
theorem mem_awaited_iff (run : (machine plugin).Run s h) :
    Watched s.ric ∧ ∀ fd, fd ∈ awaited id h ↔ Waits s h id fd := by
  induction run with
  | start =>
      refine ⟨⟨BiMap.inverse_init, BiMap.bijective_init.left, List.Perm.refl _⟩, fun fd => ?_⟩
      simp [awaited, Waits, sentTo]
  | @next s h e s' out run enabled moved ih =>
      obtain ⟨inv, ih⟩ := ih
      rcases (step_cases enabled moved).wait_cases enabled with
        ⟨fd, id', ev, arming, answers, unused, pending, timers⟩ |
        ⟨msg, ev, arming, -, answers, stopped⟩ | ⟨arming, answers, pending, timers⟩
      · have added := inv.add unused ev
        refine ⟨⟨?_, ?_, ?_⟩, fun fd' => ?_⟩
        · rw [pending]
          exact added.inverse
        · rw [pending]
          exact added.distinct
        · rw [pending, timers]
          exact added.watched
        · have stored (ev' : PendingEventRic) : (fd', ev') ∈ s'.ric.pending.pairs ↔
              (fd' = fd ∧ ev' = ev) ∨ (fd', ev') ∈ s.ric.pending.pairs := by
            rw [pending, addPending, (BiMap.pairs_insert _ _ _).mem_iff, List.mem_cons,
              Prod.mk.injEq]
          simp only [mem_awaited, Waits, sentTo_cons, arming, answers, ih, stored]
          by_cases same : fd = fd'
          · subst same
            have fresh (ev' : PendingEventRic) : (fd, ev') ∉ s.ric.pending.pairs :=
              fun mem => unused (inv.timer mem)
            simp [fresh]
          · simp [same, Ne.symm same]
      · obtain ⟨watched, fd, found, kept⟩ := inv.stop stopped
        refine ⟨watched, fun fd' => ?_⟩
        rw [mem_awaited, Waits, kept, sentTo_cons, arming, answers, ih, found]
        simp only [Waits, reduceCtorEq, false_and, exists_false, false_or, Option.some.injEq, ne_eq]
        tauto
      · refine ⟨⟨pending ▸ inv.inverse, pending ▸ inv.distinct, ?_⟩, fun fd => ?_⟩
        · rw [pending, timers]
          exact inv.watched
        · rw [mem_awaited, Waits, pending, sentTo_cons, arming, answers, ih]
          simp [Waits]

end Ric

end FlexRic
