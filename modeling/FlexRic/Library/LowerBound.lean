import Mathlib.Tactic.Common

/-! # Lower bounds by bisection

A list on which a predicate first holds and then fails is cut at one place. The
bisection keeps a window around that place and halves it.
-/

namespace FlexRic

variable {α : Type}

/-- Look for the cut in the `len` places from `lower` on. -/
def lowerBound (p : α → Bool) (xs : List α) : Nat → Nat → Nat → Nat
  | 0, lower, _ => lower
  | _ + 1, lower, 0 => lower
  | fuel + 1, lower, len + 1 =>
      if (xs[lower + (len + 1) / 2]?).any p then
        lowerBound p xs fuel (lower + (len + 1) / 2 + 1) (len + 1 - (len + 1) / 2 - 1)
      else
        lowerBound p xs fuel lower ((len + 1) / 2)

/-- The window holds the cut. -/
structure Window (p : α → Bool) (xs : List α) (lower len : Nat) : Prop where
  below : ∀ i a, i < lower → xs[i]? = some a → p a
  above : ∀ i a, lower + len ≤ i → xs[i]? = some a → ¬p a
  inside : lower + len ≤ xs.length

variable {p : α → Bool} {xs : List α}

theorem holds_before (mono : xs.Pairwise fun a b => p b → p a) {i j : Nat} {a b : α}
    (earlier : i < j) (atI : xs[i]? = some a) (atJ : xs[j]? = some b) (holds : p b) : p a := by
  obtain ⟨boundI, rfl⟩ := List.getElem?_eq_some_iff.mp atI
  obtain ⟨boundJ, rfl⟩ := List.getElem?_eq_some_iff.mp atJ
  exact List.pairwise_iff_getElem.mp mono i j boundI boundJ earlier holds

theorem lowerBound_window (mono : xs.Pairwise fun a b => p b → p a) {fuel lower len : Nat}
    (enough : len ≤ fuel) (window : Window p xs lower len) :
    Window p xs (lowerBound p xs fuel lower len) 0 := by
  induction fuel generalizing lower len with
  | zero =>
      obtain rfl := Nat.le_zero.mp enough
      exact window
  | succ fuel ih =>
      cases len with
      | zero => exact window
      | succ len =>
          have inside := window.inside
          have bound : lower + (len + 1) / 2 < xs.length := by omega
          have middle := List.getElem?_eq_getElem bound
          simp only [lowerBound, middle, Option.any_some]
          split
          · rename_i holds
            refine ih (by omega) ⟨?_, ?_, by omega⟩
            · intro i a before at_
              rcases Nat.lt_or_eq_of_le (Nat.le_of_lt_succ before) with before | rfl
              · exact holds_before mono before at_ middle holds
              · cases middle.symm.trans at_
                exact holds
            · intro i a after at_
              exact window.above i a (by omega) at_
          · rename_i fails
            refine ih (by omega) ⟨window.below, fun i a after at_ => ?_, by omega⟩
            intro holds
            rcases Nat.lt_or_eq_of_le after with after | rfl
            · exact fails (holds_before mono after middle at_ holds)
            · cases middle.symm.trans at_
              exact fails holds

/-- The cut comes right after the elements for which the predicate holds. -/
theorem lowerBound_append {before after : List α} {b : α}
    (mono : (before ++ b :: after).Pairwise fun a b => p b → p a)
    (below : ∀ a ∈ before, p a) (above : ¬p b) :
    lowerBound p (before ++ b :: after) (before ++ b :: after).length 0
      (before ++ b :: after).length = before.length := by
  have window := lowerBound_window mono (Nat.le_refl _)
    ⟨fun i a none => absurd none (Nat.not_lt_zero i), fun i a outside at_ => ?_,
      Nat.le_of_eq (Nat.zero_add _)⟩
  · generalize lowerBound p (before ++ b :: after) _ 0 _ = cut at window ⊢
    rcases Nat.lt_trichotomy cut before.length with less | same | more
    · have here : (before ++ b :: after)[cut]? = some before[cut] := by
        rw [List.getElem?_append_left less, List.getElem?_eq_getElem less]
      exact absurd (below _ (List.getElem_mem less)) (window.above cut _ (Nat.le_refl _) here)
    · exact same
    · exact absurd (window.below _ b more (by simp)) above
  · rw [Nat.zero_add] at outside
    rw [List.getElem?_eq_none outside] at at_
    cases at_

end FlexRic
