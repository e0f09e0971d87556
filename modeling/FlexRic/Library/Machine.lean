import FlexRic.Library.Checked

/-! # Machines that may fail

A machine takes events one at a time. An event that is enabled either moves it
to a new state with some output or stops it with a failure. A run is the history
of the events that went through, the newest first, each with the state it met
and the state it left; a failed event is not part of any run.
-/

namespace FlexRic

structure Machine (σ ε φ ω : Type) where
  init : σ
  /-- The events the environment can bring about in a state. -/
  enabled : σ → ε → Prop
  step : σ → ε → Except φ (σ × ω)

/-- One event of a run. -/
structure Entry (σ ε ω : Type) where
  before : σ
  event : ε
  output : ω
  after : σ

namespace Machine

variable {σ ε φ ω : Type} {m : Machine σ ε φ ω}

inductive Run (m : Machine σ ε φ ω) : σ → List (Entry σ ε ω) → Prop where
  | start : Run m m.init []
  | next {s h e s' out} : Run m s h → m.enabled s e → m.step s e = .ok (s', out) →
      Run m s' (⟨s, e, out, s'⟩ :: h)

/-- Every event of the history met the condition when it came. -/
def Meets (C : σ → ε → Prop) (h : List (Entry σ ε ω)) : Prop :=
  ∀ x ∈ h, C x.before x.event

instance {C : σ → ε → Prop} [∀ s e, Decidable (C s e)] (h : List (Entry σ ε ω)) :
    Decidable (Meets C h) :=
  inferInstanceAs (Decidable (∀ x ∈ h, C x.before x.event))

theorem meets_cons {C : σ → ε → Prop} {x : Entry σ ε ω} {h : List (Entry σ ε ω)} :
    Meets C (x :: h) ↔ C x.before x.event ∧ Meets C h := by
  simp [Meets]

/-- The same for a condition that also looks at the history before the event. -/
def MeetsAlong (C : List (Entry σ ε ω) → σ → ε → Prop) : List (Entry σ ε ω) → Prop
  | [] => True
  | x :: h => C h x.before x.event ∧ MeetsAlong C h

instance MeetsAlong.decidable {C : List (Entry σ ε ω) → σ → ε → Prop}
    [∀ h s e, Decidable (C h s e)] : (h : List (Entry σ ε ω)) → Decidable (MeetsAlong C h)
  | [] => .isTrue trivial
  | x :: h =>
      have := MeetsAlong.decidable (C := C) h
      inferInstanceAs (Decidable (C h x.before x.event ∧ MeetsAlong C h))

/-- What holds at the start and survives every event that meets the condition
    holds along every run whose events all meet it. -/
theorem Run.invariant_of_meets {I : σ → Prop} {C : σ → ε → Prop} (start : I m.init)
    (keep : ∀ {s e s' out}, I s → m.enabled s e → C s e → m.step s e = .ok (s', out) → I s')
    {s : σ} {h : List (Entry σ ε ω)} (run : m.Run s h) (meets : Meets C h) : I s := by
  induction run with
  | start => exact start
  | next _ enabled moved ih =>
      obtain ⟨here, earlier⟩ := meets_cons.mp meets
      exact keep (ih earlier) enabled here moved

theorem Run.invariant {I : σ → Prop} (start : I m.init)
    (keep : ∀ {s e s' out}, I s → m.enabled s e → m.step s e = .ok (s', out) → I s')
    {s : σ} {h : List (Entry σ ε ω)} (run : m.Run s h) : I s :=
  run.invariant_of_meets (C := fun _ _ => True) start
    (fun here enabled _ moved => keep here enabled moved) (fun _ _ => trivial)

/-- Cut a run at one of its events. -/
theorem Run.cut {s : σ} {x : Entry σ ε ω} {later earlier : List (Entry σ ε ω)}
    (run : m.Run s (later ++ x :: earlier)) :
    m.Run x.before earlier ∧ m.enabled x.before x.event ∧
      m.step x.before x.event = .ok (x.after, x.output) := by
  induction later generalizing s with
  | nil =>
      cases run with
      | next run enabled moved => exact ⟨run, enabled, moved⟩
  | cons y later ih =>
      cases run with
      | next run _ _ => exact ih run

/-- The run up to and including one of its events. -/
theorem Run.upto {s : σ} {x : Entry σ ε ω} {later earlier : List (Entry σ ε ω)}
    (run : m.Run s (later ++ x :: earlier)) : m.Run x.after (x :: earlier) := by
  obtain ⟨before, enabled, moved⟩ := run.cut
  exact .next before enabled moved

/-- The failure that an event ends in, if it does. -/
def failure (m : Machine σ ε φ ω) (s : σ) (e : ε) : Option φ :=
  match m.step s e with
  | .ok _ => none
  | .error f => some f

theorem failure_eq_some {s : σ} {e : ε} {f : φ} :
    m.failure s e = some f ↔ m.step s e = .error f := by
  unfold failure
  split <;> simp_all

section Replay

variable (m) [∀ s e, Decidable (m.enabled s e)]

/-- Take the events in turn, as long as each is enabled and goes through. -/
def replayFrom : σ × List (Entry σ ε ω) → List ε → Option (σ × List (Entry σ ε ω))
  | at_, [] => some at_
  | (s, h), e :: es =>
      if m.enabled s e then
        match m.step s e with
        | .ok (s', out) => replayFrom (s', ⟨s, e, out, s'⟩ :: h) es
        | .error _ => none
      else none

/-- The run that the events make, or the empty run if one of them does not go through. -/
def replay (es : List ε) : σ × List (Entry σ ε ω) :=
  (m.replayFrom (m.init, []) es).getD (m.init, [])

variable {m}

theorem run_of_replayFrom {s s' : σ} {h h' : List (Entry σ ε ω)} {es : List ε}
    (run : m.Run s h) (played : m.replayFrom (s, h) es = some (s', h')) : m.Run s' h' := by
  induction es generalizing s h with
  | nil =>
      cases played
      exact run
  | cons e es ih =>
      simp only [replayFrom] at played
      split at played
      · split at played
        · exact ih (.next run ‹_› ‹_›) played
        · cases played
      · cases played

theorem run_replay (es : List ε) : m.Run (m.replay es).1 (m.replay es).2 := by
  unfold replay
  cases played : m.replayFrom (m.init, []) es with
  | none => exact .start
  | some reached => exact run_of_replayFrom .start played

end Replay

end Machine

end FlexRic
