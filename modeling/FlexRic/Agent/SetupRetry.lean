import FlexRic.Agent.Timers

/-! # Retrying a setup

A setup request stays pending, under a timer that fires every three seconds,
until a response stops it. The notification that the association was lost makes
another one pending, without a look at what is pending already.
-/

namespace FlexRic

open Assertion

namespace E2Agent

variable {plugin : List UInt16} {ge2nid : GlobalE2NodeId} {compConfAdd : List NodeCompId}
  {ag ag' : E2Agent} {e : AgentEvent} {out : List AgentMsg} {h : History}

/-- At most one setup request is pending. -/
structure Single (ag : E2Agent) : Prop where
  inverse : ag.pending.Inverse
  atMostOne : ag.pending.pairs.length ≤ 1

/-- The condition on the events of a run. -/
def SetupOrderly (ag : E2Agent) : AgentEvent → Prop
  | .ricShutdown _ => ag.pending.pairs = []
  | .setupResponse => ag.pending.pairs ≠ [] ∧ ag.transIdSetupReq ≠ 0
  | _ => True

instance (ag : E2Agent) : (e : AgentEvent) → Decidable (SetupOrderly ag e)
  | .ricShutdown _ => inferInstanceAs (Decidable (ag.pending.pairs = []))
  | .setupResponse => inferInstanceAs (Decidable (_ ∧ _))
  | .start .. | .subscriptionRequest .. | .subscriptionDelete _ | .timerFires .. | .asyncEvent ..
  | .produce .. | .wake | .report .. | .readPipe => .isTrue trivial

theorem pairwise_of_length_le_one {α : Type} {l : List α} (R : α → α → Prop)
    (atMostOne : l.length ≤ 1) : l.Pairwise R :=
  match l with
  | [] => List.Pairwise.nil
  | [a] => List.pairwise_singleton R a
  | _ :: _ :: _ => absurd atMostOne (by simp)

theorem Single.bijective (inv : Single ag) : ag.pending.Bijective where
  inverse := inv.inverse
  left := pairwise_of_length_le_one _ inv.atMostOne
  right := pairwise_of_length_le_one _ inv.atMostOne

theorem length_insert (ag : E2Agent) (fd : Fd) :
    (ag.pending.insert fd .setupRequest).pairs.length = ag.pending.pairs.length + 1 :=
  (BiMap.pairs_insert ag.pending fd .setupRequest).length_eq

theorem Single.pend {fd : Fd} (inv : Single ag) (none : ag.pending.pairs = [])
    (pending : ag'.pending = ag.pending.insert fd .setupRequest) : Single ag' where
  inverse := pending ▸ inv.inverse.insert fd .setupRequest
  atMostOne := by
    rw [pending, length_insert, none]
    exact Nat.le_refl 1

theorem single_step (inv : Single ag) (watched : Watched ag) (enabled : ag.Enabled e)
    (orderly : SetupOrderly ag e) (step : Step ag e ag' out) : Single ag' := by
  cases step with
  | start loaded => exact inv.pend (watched.unstarted enabled.1) rfl
  | ricShutdown => exact inv.pend orderly rfl
  | setupResponse removed pos watching sent =>
      obtain ⟨b, -, perm, inverse⟩ :=
        BiMap.extractRight_ok inv.inverse inv.bijective.left removed
      have fewer := perm.length_eq
      rw [List.length_cons] at fewer
      exact ⟨inverse, Nat.le_trans (Nat.le.intro fewer.symm) inv.atMostOne⟩
  | _ => exact ⟨inv.inverse, inv.atMostOne⟩

theorem single_run (run : (machine plugin ge2nid compConfAdd).Run ag h)
    (orderly : Machine.Meets SetupOrderly h) : Single ag := by
  induction run with
  | start => exact ⟨BiMap.inverse_init, Nat.zero_le 1⟩
  | next run enabled moved ih =>
      obtain ⟨here, earlier⟩ := Machine.meets_cons.mp orderly
      exact single_step (ih earlier) (watched_run run) enabled here (step_cases enabled moved)

/-- The events that read or change what is pending. -/
def SetupEvent : AgentEvent → Prop
  | .ricShutdown _ | .setupResponse | .timerFires _ _ => True
  | _ => False

theorem pendEventAgent_ok (inv : Single ag) {fd : Fd} {ev : PendingEvent}
    (mem : (fd, ev) ∈ ag.pending.pairs) : pendEventAgent ag fd = .ok ev := by
  have one : ag.pending.pairs.length = 1 :=
    Nat.le_antisymm inv.atMostOne (List.length_pos_of_mem mem)
  obtain ⟨p, only⟩ := List.length_eq_one_iff.mp one
  have same : p = (fd, ev) := by
    rw [only] at mem
    exact (List.mem_singleton.mp mem).symm
  have found : ag.pending.left.findIf (· = fd) = some (fd, ev) := by
    rw [AssocRbTree.findIf, show ag.pending.left.toList = [(fd, ev)] from same ▸ only]
    simp
  simp only [pendEventAgent, inv.inverse.size_ok, ok_bind, one, found]
  rfl

/-- A timer that fires is a subscription's, or that of the one pending request. -/
theorem timerFires_ok (inv : Single ag) (watched : Watched ag) {fd : Fd} {hasValue : Bool}
    (enabled : ag.Enabled (.timerFires fd hasValue)) :
    ∃ ag' out, ag.step (.timerFires fd hasValue) = .ok (ag', out) := by
  simp only [step, timerEventAgent]
  cases found : indEventOf ag fd with
  | some iEv => exact ⟨_, _, rfl⟩
  | none =>
      have pending : fd ∈ ag.pending.firsts := by
        rcases List.mem_append.mp (watched.covered.mem_iff.mp enabled.2) with mem | mem
        · obtain ⟨p, stored, rfl⟩ := List.mem_map.mp (List.mem_filter.mp mem).1
          have missed := AssocRbTree.findIf_none.mp (Option.map_eq_none_iff.mp found)
          exact absurd (by simp) (missed p stored)
        · exact mem
      obtain ⟨⟨fd, ev⟩, stored, rfl⟩ := List.mem_map.mp pending
      obtain rfl := watched.setups _ stored
      have loaded := watched.loaded enabled.1.1
      simp only [pendEventAgent_ok inv stored, genSetupRequest, ok_bind]
      rw [check_pass unforeseenPending trivial, check_pass noRanFunc loaded]
      exact ⟨_, _, rfl⟩

theorem setupResponse_iff (inv : Single ag) (watched : Watched ag)
    (enabled : ag.Enabled .setupResponse) :
    (∃ ag' out, ag.step .setupResponse = .ok (ag', out)) ↔ SetupOrderly ag .setupResponse := by
  constructor
  · rintro ⟨ag', out, moved⟩
    cases step_cases enabled moved with
    | setupResponse removed pos watching sent =>
        obtain ⟨a, b, -, -, perm⟩ := BiMap.extractRight_perm removed
        constructor
        · intro none
          rw [none] at perm
          cases perm.length_eq
        · intro zero
          rw [zero] at sent
          exact absurd sent (by decide)
  · rintro ⟨some, sent⟩
    obtain ⟨⟨fd, ev⟩, stored⟩ := List.exists_mem_of_ne_nil _ some
    obtain rfl := watched.setups _ stored
    obtain ⟨pending, removed, -⟩ := inv.bijective.extractRight stored (.refl _ _)
    have watching : fd ∈ ag.timers :=
      watched.covered.mem_iff.mpr (List.mem_append_right _ (List.mem_map.mpr ⟨_, stored, rfl⟩))
    have pos : 0 < fd := Nat.pos_of_ne_zero fun zero => watched.positive (zero ▸ watching)
    have positive : 0 < ag.transIdSetupReq := UInt32.pos_iff_ne_zero.mpr sent
    simp only [step, e2apHandleSetupResponseAgent, stopPendingEventAgent, rmFdAsioAgent,
      bind_eq_ok, check_eq_ok, pure_eq_ok, Prod.exists, Prod.mk.injEq]
    exact ⟨_, _, _, ⟨_, ⟨fd, pending, removed, (), pos, (), watching, rfl⟩, (), positive, rfl⟩,
      rfl, rfl⟩

theorem setup_event_iff (inv : Single ag) (watched : Watched ag) (enabled : ag.Enabled e)
    (setup : SetupEvent e) :
    (∃ ag' out, ag.step e = .ok (ag', out) ∧ ag'.pending.pairs.length ≤ 1) ↔
      SetupOrderly ag e := by
  have single {ag' : E2Agent} {out : List AgentMsg} (orderly : SetupOrderly ag e)
      (moved : ag.step e = .ok (ag', out)) : ag'.pending.pairs.length ≤ 1 :=
    (single_step inv watched enabled orderly (step_cases enabled moved)).atMostOne
  cases e with
  | ricShutdown fd =>
      constructor
      · intro goes
        obtain ⟨ag', out, moved, atMostOne⟩ := goes
        cases step_cases enabled moved
        rw [length_insert] at atMostOne
        exact List.eq_nil_of_length_eq_zero (by omega)
      · exact fun orderly => ⟨_, _, rfl, single orderly rfl⟩
  | setupResponse =>
      rw [← setupResponse_iff inv watched enabled]
      constructor
      · rintro ⟨ag', out, moved, -⟩
        exact ⟨ag', out, moved⟩
      · rintro ⟨ag', out, moved⟩
        have orderly := (setupResponse_iff inv watched enabled).mp ⟨ag', out, moved⟩
        exact ⟨ag', out, moved, single orderly moved⟩
  | timerFires fd hasValue =>
      obtain ⟨ag', out, moved⟩ := timerFires_ok inv watched enabled
      exact iff_of_true ⟨ag', out, moved, single trivial moved⟩ trivial
  | _ => exact setup.elim

/-- Along every run whose events meet the condition, at most one setup request
    is pending; and the next shutdown, response or timer goes through, and
    leaves at most one pending, if and only if it meets the condition too. -/
theorem setup_retry_iff (run : (machine plugin ge2nid compConfAdd).Run ag h)
    (orderly : Machine.Meets SetupOrderly h) :
    ag.pending.pairs.length ≤ 1 ∧ ∀ e, ag.Enabled e → SetupEvent e →
      ((∃ ag' out, ag.step e = .ok (ag', out) ∧ ag'.pending.pairs.length ≤ 1) ↔
        SetupOrderly ag e) := by
  have inv := single_run run orderly
  exact ⟨inv.atMostOne, fun e => setup_event_iff inv (watched_run run)⟩

/-- The agent has set up, lost the association, and sent its request again. -/
def reconnecting : List AgentEvent := [.start 5, .setupResponse, .ricShutdown 6, .timerFires 6 true]

theorem setup_retry_iff_reconnecting :
    ∃ ag' out, ((machine [2] node [.f1 5]).replay reconnecting).1.step .setupResponse =
        .ok (ag', out) ∧
      ag'.pending.pairs.length ≤ 1 :=
  ((setup_retry_iff ((machine [2] node [.f1 5]).run_replay reconnecting) (by decide +kernel)).2
    .setupResponse (by decide +kernel) trivial).mpr (by decide +kernel)

/-- The request was sent twice, and the first response has come. -/
def answeredOnce : List AgentEvent := [.start 5, .timerFires 5 true, .setupResponse]

/-- The second response finds nothing to stop. -/
theorem setup_not_retried :
    ¬∀ (plugin : List UInt16) (ge2nid : GlobalE2NodeId) (compConfAdd : List NodeCompId)
        (ag : E2Agent) (h : History),
      (machine plugin ge2nid compConfAdd).Run ag h → ag.pending.pairs.length ≤ 1 ∧
        ∀ e, ag.Enabled e → SetupEvent e → ∃ ag' out, ag.step e = .ok (ag', out) := by
  intro retried
  have fails : (machine [2] node [.f1 5]).failure ((machine [2] node [.f1 5]).replay answeredOnce).1
      .setupResponse = some keyNotInTree := by decide +kernel
  have run := (machine [2] node [.f1 5]).run_replay answeredOnce
  obtain ⟨_, _, goes⟩ := (retried [2] node [.f1 5] _ _ run).2 .setupResponse
    (by decide +kernel) trivial
  cases goes.symm.trans (Machine.failure_eq_some.mp fails)

end E2Agent

end FlexRic
