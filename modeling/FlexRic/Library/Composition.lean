import FlexRic.Library.Machine

/-! # Parts of a machine

A system is often one machine whose state holds the states of others. A part is such a
machine, with the way its state and its steps are read off those of the whole. It need not be
there from the start. What is proved of the runs of a part holds in the runs of the whole.
-/

namespace FlexRic

namespace Machine

variable {σ ε φ ω σ' ε' φ' ω' β : Type}

/-- The machine, started in another state. -/
def startedIn (m : Machine σ ε φ ω) (s : σ) : Machine σ ε φ ω := { m with init := s }

/-- What a state has gathered was brought by an event, and nothing that was brought is lost. -/
theorem Run.mem_gathered {m : Machine σ ε φ ω} {gathered : σ → List β}
    {brought : Entry σ ε ω → List β} (start : gathered m.init = [])
    (step : ∀ {s e s' out}, m.enabled s e → m.step s e = .ok (s', out) →
      gathered s' = brought ⟨s, e, out, s'⟩ ++ gathered s)
    {s : σ} {h : List (Entry σ ε ω)} (run : m.Run s h) {b : β} :
    b ∈ gathered s ↔ ∃ x ∈ h, b ∈ brought x := by
  induction run with
  | start =>
      rw [start]
      simp
  | next _ enabled moved ih =>
      rw [step enabled moved, List.mem_append, ih]
      simp

/-- A machine inside another. -/
structure Part (M : Machine σ ε φ ω) (m : Machine σ' ε' φ' ω') where
  /-- The state of the part, once it is there. -/
  state : σ → Option σ'
  /-- The event of the part that an event of the whole is. -/
  view : Entry σ ε ω → Option (Entry σ' ε' ω')
  /-- The states in which the part may begin. -/
  Initial : σ' → Prop

namespace Part

variable {M : Machine σ ε φ ω} {m : Machine σ' ε' φ' ω'} {p : Part M m} {s : σ}
  {h later earlier : List (Entry σ ε ω)} {x : Entry σ ε ω} {y : Entry σ' ε' ω'}

/-- The events of the part. -/
def history (p : Part M m) (h : List (Entry σ ε ω)) : List (Entry σ' ε' ω') := h.filterMap p.view

theorem history_cons : p.history (x :: h) = (p.view x).toList ++ p.history h := by
  cases seen : p.view x <;> simp [history, seen]

/-- An event of the part is one of the whole, with the same events of the part before it. -/
theorem history_cut (mem : y ∈ p.history h) :
    ∃ later x earlier, h = later ++ x :: earlier ∧ p.view x = some y := by
  obtain ⟨x, here, seen⟩ := List.mem_filterMap.mp mem
  obtain ⟨later, earlier, cut⟩ := List.append_of_mem here
  exact ⟨later, x, earlier, cut, seen⟩

theorem mem_history (seen : p.view x = some y) : y ∈ p.history (later ++ x :: earlier) :=
  List.mem_filterMap.mpr ⟨x, by simp, seen⟩

/-- What an event of the whole is to the part: an event of its own, its beginning, or nothing. -/
inductive Moves (p : Part M m) (x : Entry σ ε ω) : Prop where
  | own {y : Entry σ' ε' ω'} (seen : p.view x = some y) (before : p.state x.before = some y.before)
      (after : p.state x.after = some y.after) (enabled : m.enabled y.before y.event)
      (moved : m.step y.before y.event = .ok (y.after, y.output))
  | begins {s' : σ'} (unseen : p.view x = none) (before : p.state x.before = none)
      (after : p.state x.after = some s') (initial : p.Initial s')
  | rests (unseen : p.view x = none) (same : p.state x.after = p.state x.before)

/-- What a run of the whole is to the part: a run of its own, unless it is not there yet. -/
inductive Follows (p : Part M m) (s : σ) (h : List (Entry σ ε ω)) : Prop where
  | absent (missing : p.state s = none) (nothing : p.history h = [])
  | present {s₀ s' : σ'} (initial : p.Initial s₀) (here : p.state s = some s')
      (run : (m.startedIn s₀).Run s' (p.history h))

theorem Follows.step {e : ε} {out : ω} {t : σ} (follows : p.Follows s h)
    (moves : p.Moves ⟨s, e, out, t⟩) : p.Follows t (⟨s, e, out, t⟩ :: h) := by
  cases moves with
  | @own y seen before after enabled moved =>
      cases follows with
      | absent missing _ =>
          rw [missing] at before
          cases before
      | present initial here run =>
          cases here.symm.trans before
          refine .present initial after ?_
          rw [history_cons, seen]
          exact .next run enabled moved
  | begins unseen before after initial =>
      cases follows with
      | absent _ nothing =>
          refine .present initial after ?_
          rw [history_cons, unseen, nothing]
          exact .start
      | present _ here _ =>
          rw [before] at here
          cases here
  | rests unseen same =>
      cases follows with
      | absent missing nothing =>
          refine .absent (same.trans missing) ?_
          rw [history_cons, unseen, nothing]
          rfl
      | present initial here run =>
          refine .present initial (same.trans here) ?_
          rw [history_cons, unseen]
          exact run

/-- A run of the whole is one of each part. -/
theorem follows_run (start : p.Follows M.init [])
    (step : ∀ {s e s' out}, M.enabled s e → M.step s e = .ok (s', out) →
      p.Moves ⟨s, e, out, s'⟩) (run : M.Run s h) : p.Follows s h := by
  induction run with
  | start => exact start
  | next _ enabled moved ih => exact ih.step (step enabled moved)

/-- A part with a history is there. -/
theorem Follows.state_of_mem (follows : p.Follows s h) (mem : y ∈ p.history h) :
    ∃ s', p.state s = some s' := by
  cases follows with
  | absent _ nothing =>
      rw [nothing] at mem
      cases mem
  | present _ here _ => exact ⟨_, here⟩

/-- The run of a part that is there. -/
theorem Follows.run {s' : σ'} (follows : p.Follows s h) (here : p.state s = some s') :
    ∃ s₀, p.Initial s₀ ∧ (m.startedIn s₀).Run s' (p.history h) := by
  cases follows with
  | absent missing _ =>
      rw [missing] at here
      cases here
  | present initial there run =>
      cases there.symm.trans here
      exact ⟨_, initial, run⟩

end Part

end Machine

end FlexRic
