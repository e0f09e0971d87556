import Mathlib.Order.Bounds.Basic
import Mathlib.Tactic.Common

/-! # Borders and good suffix shifts of a word

A word is moved to the right over what a suffix of it was found to match. The shift is good
when what it puts over the suffix agrees with it and the character in front of the suffix,
which did not match, is replaced by another.
-/

namespace FlexRic.Word

variable {α : Type*} (word : Nat → α) (len : Nat)

/-- The suffix from `p` on is a border of the suffix from `i` on. Behind the word there are
    empty suffixes. -/
structure Border (i p : Nat) : Prop where
  lt : i < p
  agree : ∀ k, p + k < len → word (i + k) = word (p + k)

/-- The widest border. -/
structure WidestBorder (i p : Nat) : Prop where
  border : Border word len i p
  least : ∀ q, Border word len i q → p ≤ q

/-- Moved by `t`, the word agrees with its suffix behind `j` and differs from itself at `j`. -/
structure GoodShift (j t : Nat) : Prop where
  positive : 0 < t
  fits : ∀ y, j < y → y < len → t ≤ y → word (y - t) = word y
  differs : t ≤ j → word (j - t) ≠ word j

/-- A border that is continued to the left by another character than the suffix. -/
structure Broken (i p : Nat) : Prop where
  positive : 0 < i
  border : Border word len i p
  differs : word (i - 1) ≠ word (p - 1)

variable {word len} {i p q j t : Nat}

theorem Border.trans (first : Border word len i p) (second : Border word len p q) :
    Border word len i q where
  lt := first.lt.trans second.lt
  agree k inside := by
    have offset : p + (q - p + k) = q + k := by
      have := second.lt
      omega
    have here := second.agree k inside
    rw [← here]
    exact first.agree k (by have := second.lt; omega)

/-- Of two borders the narrower one is a border of the wider one. -/
theorem Border.of_both (wide : Border word len i p) (narrow : Border word len i q) (lt : p < q) :
    Border word len p q where
  lt
  agree k inside := (wide.agree k (by omega)).symm.trans (narrow.agree k inside)

theorem border_behind (here : i < p) (behind : len ≤ p) : Border word len i p where
  lt := here
  agree k inside := absurd inside (by omega)

/-- A border that begins with the same character. -/
theorem border_iff_succ :
    Border word len i p ↔ Border word len (i + 1) (p + 1) ∧ (p < len → word i = word p) := by
  constructor
  · intro border
    refine ⟨⟨Nat.succ_lt_succ border.lt, fun k inside => ?_⟩, fun inside => border.agree 0 inside⟩
    have next := border.agree (k + 1) (by omega)
    rwa [← Nat.add_assoc, Nat.add_right_comm, ← Nat.add_assoc, Nat.add_right_comm p] at next
  · rintro ⟨border, first⟩
    refine ⟨Nat.lt_of_succ_lt_succ border.lt, fun k inside => ?_⟩
    cases k with
    | zero => exact first inside
    | succ k =>
        have next := border.agree k (by omega)
        rwa [Nat.add_right_comm, Nat.add_assoc, Nat.add_right_comm p, Nat.add_assoc] at next

/-- A short shift puts the border in the place of the suffix. -/
theorem goodShift_iff_broken {d : Nat} (positive : 0 < t) :
    GoodShift word len (d + t) t ↔ Broken word len (d + 1) (d + t + 1) := by
  constructor
  · intro good
    refine ⟨Nat.succ_pos d, ⟨by omega, fun k inside => ?_⟩, ?_⟩
    · have moved := good.fits (d + t + 1 + k) (by omega) inside (by omega)
      rwa [show d + t + 1 + k - t = d + 1 + k by omega] at moved
    · have other := good.differs (Nat.le_add_left t d)
      rwa [Nat.add_sub_cancel] at other
  · intro broken
    refine ⟨positive, fun y behind inside _ => ?_, fun _ => ?_⟩
    · obtain ⟨k, rfl⟩ := Nat.exists_eq_add_of_lt behind
      have moved := broken.border.agree k (by omega)
      rw [show d + t + k + 1 - t = d + 1 + k by omega, moved]
      congr 1
      omega
    · rw [Nat.add_sub_cancel]
      exact broken.differs

/-- A long shift puts a border of the whole word under the end of the suffix. -/
theorem goodShift_iff_border (outside : j < t) :
    GoodShift word len j t ↔ Border word len 0 t := by
  constructor
  · intro good
    refine ⟨good.positive, fun k inside => ?_⟩
    rw [Nat.zero_add]
    have moved := good.fits (t + k) (by omega) inside (by omega)
    rwa [Nat.add_sub_cancel_left] at moved
  · intro border
    refine ⟨border.lt, fun y _ inside le => ?_, fun le => absurd le (by omega)⟩
    have moved := border.agree (y - t) (by omega)
    rwa [Nat.zero_add, Nat.add_sub_cancel' le] at moved

/-- The good shift that skips nothing. -/
structure LeastGoodShift (word : Nat → α) (len j t : Nat) : Prop where
  good : GoodShift word len j t
  least : ∀ t', GoodShift word len j t' → t ≤ t'

/-- The narrowest move puts the last broken border in the place of the suffix. -/
theorem leastGoodShift_of_broken {x : Nat} (broken : Broken word len x (j + 1))
    (last : ∀ x', Broken word len x' (j + 1) → x' ≤ x) :
    LeastGoodShift word len j (j + 1 - x) := by
  have moves := broken.border.lt
  have inner := broken.positive
  obtain ⟨d, rfl⟩ : ∃ d, x = d + 1 := ⟨x - 1, by omega⟩
  obtain ⟨t, rfl⟩ : ∃ t, j = d + t := ⟨j - d, by omega⟩
  have width : d + t + 1 - (d + 1) = t := by omega
  rw [width]
  refine ⟨(goodShift_iff_broken (by omega)).mpr broken, fun t' good => ?_⟩
  by_cases short : t' ≤ d + t
  · obtain ⟨d', same⟩ : ∃ d', d + t = d' + t' := ⟨d + t - t', by omega⟩
    rw [same] at good last
    have before := last _ ((goodShift_iff_broken good.positive).mp good)
    omega
  · omega

/-- Without one, a border of the whole word has to reach behind the suffix. -/
theorem leastGoodShift_of_border (none : ∀ x, ¬Broken word len x (j + 1))
    (border : Border word len 0 t) (behind : j + 1 ≤ t)
    (least : ∀ q, Border word len 0 q → j + 1 ≤ q → t ≤ q) : LeastGoodShift word len j t := by
  refine ⟨(goodShift_iff_border behind).mpr border, fun t' good => ?_⟩
  by_cases short : t' ≤ j
  · obtain ⟨d, rfl⟩ : ∃ d, j = d + t' := ⟨j - t', by omega⟩
    exact absurd ((goodShift_iff_broken good.positive).mp good) (none _)
  · have long : j < t' := by omega
    exact least t' ((goodShift_iff_border long).mp good) long

end FlexRic.Word
