import Mathlib.Tactic.Common

/-! # Computations that check as they go

A C function that asserts either completes or aborts the process. It is an
`Except` computation whose error names the check that failed. The lemmas here
take such a computation apart at its binds, so that no proof unfolds the monad.
-/

namespace FlexRic

universe u

variable {ε : Type*} {α β : Type u}

/-- Go on when the condition holds, stop with `e` otherwise. -/
def check (c : Prop) [Decidable c] (e : ε) : Except ε Unit :=
  if c then .ok () else .error e

@[simp] theorem check_eq_ok {c : Prop} [Decidable c] {e : ε} {u : Unit} :
    check c e = .ok u ↔ c := by
  simp only [check]
  split <;> simp_all

@[simp] theorem check_eq_error {c : Prop} [Decidable c] {e e' : ε} :
    check c e = .error e' ↔ ¬c ∧ e = e' := by
  simp only [check]
  split <;> simp_all

theorem check_pass {c : Prop} [Decidable c] (e : ε) (h : c) : check c e = .ok () :=
  check_eq_ok.mpr h

theorem bind_eq_ok {x : Except ε α} {f : α → Except ε β} {b : β} :
    x >>= f = .ok b ↔ ∃ a, x = .ok a ∧ f a = .ok b := by
  cases x <;> simp [bind, Except.bind]

theorem bind_eq_error {x : Except ε α} {f : α → Except ε β} {e : ε} :
    x >>= f = .error e ↔ x = .error e ∨ ∃ a, x = .ok a ∧ f a = .error e := by
  cases x <;> simp [bind, Except.bind]

@[simp] theorem pure_eq_ok {a b : α} : (pure a : Except ε α) = .ok b ↔ a = b := by
  simp [pure, Except.pure]

@[simp] theorem pure_ne_error {a : α} {e : ε} : (pure a : Except ε α) ≠ .error e := by
  simp [pure, Except.pure]

@[simp] theorem ok_bind (a : α) (f : α → Except ε β) : Except.ok a >>= f = f a := rfl

@[simp] theorem error_bind (e : ε) (f : α → Except ε β) :
    (Except.error e : Except ε α) >>= f = .error e := rfl

theorem mapError_ok {ε' : Type*} (f : ε → ε') (a : α) :
    (Except.ok a : Except ε α).mapError f = .ok a := rfl

end FlexRic
