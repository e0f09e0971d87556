import FlexRic.Ric.Steps

/-! # The timers of pending requests

A request arms a timer under its descriptor and its pending event, and the
answer stops it. As long as no two requests wait under one pending event the
map of the two is a bijection whose descriptors are the armed timers. A timer
that fires, though, is handed to the loop without its descriptor.
-/

namespace FlexRic

open Assertion

/-- The armed timers are the descriptors of the pending requests, one for each. -/
structure NearRic.Armed (ric : NearRic) : Prop where
  bijective : ric.pending.Bijective
  watched : ric.timers.Perm (ric.pending.pairs.map Prod.fst)
  positive : ∀ fd ∈ ric.timers, 0 < fd

namespace NearRic.Armed

variable {ric ric' : NearRic} {fd : Fd} {ev : PendingEventRic}

theorem pending_of_watched (armed : ric.Armed) (mem : fd ∈ ric.timers) :
    ∃ ev, (fd, ev) ∈ ric.pending.pairs := by
  obtain ⟨⟨_, ev⟩, stored, rfl⟩ := List.mem_map.mp (armed.watched.mem_iff.mp mem)
  exact ⟨ev, stored⟩

theorem watched_of_pending (armed : ric.Armed) (mem : (fd, ev) ∈ ric.pending.pairs) :
    fd ∈ ric.timers :=
  armed.watched.mem_iff.mpr (List.mem_map.mpr ⟨_, mem, rfl⟩)

theorem add (armed : ric.Armed) (pos : 0 < fd) (unused : fd ∉ ric.timers)
    (fresh : ∀ p ∈ ric.pending.pairs, p.2 ≠ ev) : (addPending ric fd ev).Armed where
  bijective := by
    apply armed.bijective.insert
    · intro p mem ties
      cases cmpFd_ties.mp ties
      exact unused (armed.watched_of_pending mem)
    · intro p mem ties
      exact fresh p mem (cmpPendingEventRic_ties.mp ties).symm
  watched := by
    have perm := (BiMap.pairs_insert ric.pending fd ev).map Prod.fst
    exact (armed.watched.cons fd).trans perm.symm
  positive := by
    intro fd' mem
    rcases List.mem_cons.mp mem with rfl | mem
    · exact pos
    · exact armed.positive fd' mem

/-- The answer to a pending request stops its timer and no other. -/
theorem stop (armed : ric.Armed) (mem : (fd, ev) ∈ ric.pending.pairs) :
    ∃ ric', stopPendingEvent ric ev = .ok ric' ∧
      ric.pending.pairs.Perm ((fd, ev) :: ric'.pending.pairs) ∧
      ric.timers.Perm (fd :: ric'.timers) ∧ ric'.Armed := by
  obtain ⟨pending, taken, perm, bijective⟩ :=
    armed.bijective.extractRight mem (cmpPendingEventRic_ties.mpr rfl)
  have watched := armed.watched_of_pending mem
  have positive := armed.positive fd watched
  have erased := List.perm_cons_erase watched
  have rest : (ric.timers.erase fd).Perm (pending.pairs.map Prod.fst) :=
    (erased.symm.trans (armed.watched.trans (perm.map Prod.fst))).cons_inv
  refine ⟨{ ric with pending := pending, timers := ric.timers.erase fd }, ?_, perm, erased,
    bijective, rest, fun fd' mem' => armed.positive fd' (List.mem_of_mem_erase mem')⟩
  simp only [stopPendingEvent, rmFdAsioRic, taken, ok_bind]
  rw [check_pass _ positive, check_pass _ watched]
  rfl

theorem of_stop (armed : ric.Armed) (stopped : stopPendingEvent ric ev = .ok ric') :
    ric'.Armed := by
  obtain ⟨fd, pending, taken, -, -, -⟩ := stopPendingEvent_ok stopped
  obtain ⟨b, ties, perm, -⟩ :=
    BiMap.extractRight_ok armed.bijective.inverse armed.bijective.left taken
  cases cmpPendingEventRic_ties.mp ties
  obtain ⟨_, stopped', -, -, armed'⟩ := armed.stop (perm.mem_iff.mpr List.mem_cons_self)
  cases stopped.symm.trans stopped'
  exact armed'

/-- The loop finds the pending event of the timer that fired, and makes an event
    of it that carries descriptor zero. -/
theorem fires (armed : ric.Armed) (mem : fd ∈ ric.timers) :
    ∃ ev, (fd, ev) ∈ ric.pending.pairs ∧ nextAsioEventRic ric fd = .ok ⟨0, ev⟩ ∧
      pendingEventRic ric fd = .error fdPositive := by
  obtain ⟨ev, stored⟩ := armed.pending_of_watched mem
  have found : pendEvent ric fd = .ok ev := by
    unfold pendEvent
    split
    · rename_i missed
      exact absurd (decide_eq_true rfl) (AssocRbTree.findIf_none.mp missed _ stored)
    · rename_i fd' ev' found
      obtain ⟨mem', same⟩ := AssocRbTree.findIf_some found
      have same : fd' = fd := by simpa using same
      cases armed.bijective.eq_of_left mem' stored (cmpFd_ties.mpr same)
      rfl
  refine ⟨ev, stored, ?_, ?_⟩
  · simp only [nextAsioEventRic, found, ok_bind]
    rfl
  · simp only [pendingEventRic, nextAsioEventRic, found, ok_bind]
    rfl

end NearRic.Armed

namespace Ric

variable {plugin : List UInt16} {s s' : Ric} {h : List (Entry Ric RicEvent (List Sent))}

/-- The request goes out under a pending event that no other request waits under. -/
def NotWaiting (s : Ric) (type : RicReqType) (req : E42Request) : Prop :=
  ∀ p ∈ s.ric.pending.pairs, p.2 ≠ ⟨requestEvent type, s.sentId req⟩

/-- The condition on the events of a run. -/
def DistinctRequests (s : Ric) : RicEvent → Prop
  | .e42Subscription _ req => s.NotWaiting .subscription req
  | .e42Control _ req => s.NotWaiting .control req
  | _ => True

instance (s : Ric) (type : RicReqType) (req : E42Request) : Decidable (s.NotWaiting type req) :=
  inferInstanceAs (Decidable (∀ p ∈ _, _))

instance (s : Ric) : (e : RicEvent) → Decidable (s.DistinctRequests e)
  | .e42Subscription _ req => inferInstanceAs (Decidable (s.NotWaiting .subscription req))
  | .e42Control _ req => inferInstanceAs (Decidable (s.NotWaiting .control req))
  | .setupRequest .. | .ricMsg .. | .runTask .. | .nodeShutdown .. | .resumeShutdown
  | .timerFires .. | .e42Setup .. | .e42Delete .. | .xappShutdown .. | .forwardDelete .. =>
      .isTrue trivial

theorem armed_init : (initNearRic plugin).Armed where
  bijective := BiMap.bijective_init
  watched := List.Perm.refl _
  positive := nofun

theorem armed_step {e : RicEvent} {out : List Sent} (armed : s.ric.Armed)
    (enabled : s.Enabled e) (distinct : s.DistinctRequests e)
    (moved : s.step e = .ok (s', out)) : s'.ric.Armed := by
  have step := step_cases enabled moved
  rcases step.pending_cases with ⟨type, fd, req, rfl, done⟩ |
    ⟨fd, d, rest, rfl, -, after, fresh, -⟩ | ⟨msg, ev, -, -, stopped⟩ | ⟨pending, timers⟩
  · have unused : s.FreshFd fd := by
      cases type <;> exact enabled.2
    have fresh : s.NotWaiting type req := by
      cases type <;> exact distinct
    cases done
    have counted : NearRic.Armed { s.ric with reqId := s.ric.reqId + 1 } :=
      ⟨armed.bijective, armed.watched, armed.positive⟩
    exact counted.add unused.1 unused.2 fresh
  · rw [after]
    refine armed.add enabled.2.1 enabled.2.2 (fun p mem same => ?_)
    exact fresh (p.2, p.1) (armed.bijective.inverse.mem_right.mpr mem) same
  · exact armed.of_stop stopped
  · exact ⟨pending ▸ armed.bijective, by rw [timers, pending]; exact armed.watched,
      timers ▸ armed.positive⟩

/-- What the timers are for. A timer that fires reaches the loop with its own
    descriptor and the pending event that it was armed for. The answer to a
    pending request stops the timer of that request and leaves the rest as it is. -/
def TimersServe (s : Ric) : RicEvent → Prop
  | .timerFires fd => ∃ ev, (fd, ev) ∈ s.ric.pending.pairs ∧
      pendingEventRic s.ric fd = .ok ⟨fd, ev⟩
  | .runTask i => ∀ msg ev fd, s.tasks[i]? = some (.handle msg) → msg.stops = some ev →
      (fd, ev) ∈ s.ric.pending.pairs → ∃ ric, stopPendingEvent s.ric ev = .ok ric ∧
        s.ric.pending.pairs.Perm ((fd, ev) :: ric.pending.pairs) ∧
        s.ric.timers.Perm (fd :: ric.timers)
  | _ => True

/-- Along every run in which no request goes out under a pending event that
    another one waits under, the map of descriptors and pending events is a
    bijection onto the armed timers, and an event finds the timers serving their
    purpose if and only if it is not a timer that fires. -/
theorem timers_serve_iff (run : (machine plugin).Run s h)
    (distinct : Machine.Meets DistinctRequests h) :
    s.ric.Armed ∧ ∀ e, s.Enabled e → (s.TimersServe e ↔ ∀ fd, e ≠ .timerFires fd) := by
  have armed : s.ric.Armed := run.invariant_of_meets (I := fun s => s.ric.Armed) armed_init
    (fun armed enabled distinct moved => armed_step armed enabled distinct moved) distinct
  refine ⟨armed, ?_⟩
  intro e enabled
  cases e with
  | timerFires fd =>
      obtain ⟨_, -, -, stops⟩ := armed.fires enabled.2
      constructor
      · rintro ⟨ev, -, served⟩
        cases stops.symm.trans served
      · exact fun never => absurd rfl (never fd)
  | runTask i =>
      refine iff_of_true (fun msg ev fd _ _ mem => ?_) (fun _ => nofun)
      obtain ⟨ric, stopped, pending, timers, -⟩ := armed.stop mem
      exact ⟨ric, stopped, pending, timers⟩
  | _ => exact iff_of_true trivial (fun _ => nofun)

/-- One subscription is on its way, and the node has not answered. -/
def unanswered : List RicEvent :=
  setup gnb gnbAddr ++ [.e42Setup 1 xappAddr, .e42Subscription 20 ⟨7, gnb, localId⟩]

/-- Two subscriptions and a control are on their way, and the node has answered the second. -/
def secondAnswered : List RicEvent :=
  unanswered ++ [.e42Subscription 21 ⟨7, gnb, ⟨2, 0, 2⟩⟩, .e42Control 22 ⟨7, gnb, ⟨3, 0, 2⟩⟩,
    .ricMsg (.subscriptionResponse ⟨⟨1022, 0, 2⟩, [0], 0⟩)]

theorem timers_serve_iff_answered :
    ((machine [2]).replay secondAnswered).1.ric.timers = [22, 21, 20] ∧
    ((machine [2]).replay secondAnswered).1.TimersServe (.runTask 0) := by
  refine ⟨by decide +kernel, ?_⟩
  exact ((timers_serve_iff ((machine [2]).run_replay secondAnswered) (by decide +kernel)).2 _
    (by decide +kernel)).mpr (fun _ => nofun)

/-- A timer that fires is not served: the loop stops at its descriptor. -/
theorem timers_not_serve :
    ¬∀ (plugin : List UInt16) (s : Ric) (h : List (Entry Ric RicEvent (List Sent))),
      (machine plugin).Run s h → ∀ e, s.Enabled e → s.TimersServe e := by
  intro serve
  obtain ⟨ev, -, served⟩ := serve [2] _ _ ((machine [2]).run_replay unanswered)
    (.timerFires 20) (by decide +kernel)
  have stops : pendingEventRic ((machine [2]).replay unanswered).1.ric 20 =
      .error fdPositive := by decide +kernel
  cases stops.symm.trans served

end Ric

end FlexRic
