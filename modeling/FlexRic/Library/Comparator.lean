import Mathlib.Data.List.Pairwise
import Mathlib.Order.Basic
import Mathlib.Tactic.Common

/-! # Three-way comparators

A C container orders its keys with a function that returns `1` when the first
key comes first, `-1` when it comes last and `0` when the two tie. Such a
function is a total preorder, never more: two different keys may tie, and a
container built over it cannot tell them apart.
-/

namespace FlexRic

/-- A three-way comparison together with the laws that make it a total preorder. -/
structure Comparator (κ : Type*) where
  cmp : κ → κ → Int
  range : ∀ a b, cmp a b = 1 ∨ cmp a b = 0 ∨ cmp a b = -1
  antisymm : ∀ a b, cmp a b = -cmp b a
  trans : ∀ {a b c}, 0 ≤ cmp a b → 0 ≤ cmp b c → 0 ≤ cmp a c

namespace Comparator

variable {κ κ' : Type*}

/-- Two keys tie when the comparison cannot tell them apart. -/
def Ties (o : Comparator κ) (a b : κ) : Prop := o.cmp a b = 0

instance (o : Comparator κ) (a b : κ) : Decidable (o.Ties a b) :=
  inferInstanceAs (Decidable (o.cmp a b = 0))

@[simp] theorem cmp_self (o : Comparator κ) (a : κ) : o.cmp a a = 0 := by
  have flipped := o.antisymm a a
  omega

theorem Ties.refl (o : Comparator κ) (a : κ) : o.Ties a a := o.cmp_self a

theorem Ties.symm {o : Comparator κ} {a b : κ} (h : o.Ties a b) : o.Ties b a := by
  have flipped := o.antisymm a b
  simp only [Ties] at h ⊢
  omega

theorem Ties.le {o : Comparator κ} {a b : κ} (h : o.Ties a b) : 0 ≤ o.cmp a b :=
  Int.le_of_eq (Eq.symm h)

theorem Ties.trans {o : Comparator κ} {a b c : κ} (h₁ : o.Ties a b) (h₂ : o.Ties b c) :
    o.Ties a c := by
  have forward : 0 ≤ o.cmp a c := o.trans h₁.le h₂.le
  have backward : 0 ≤ o.cmp c a := o.trans h₂.symm.le h₁.symm.le
  have flipped := o.antisymm a c
  simp only [Ties]
  omega

/-- Comparing with tied keys gives the same answer. -/
theorem Ties.cmp_left {o : Comparator κ} {a b : κ} (h : o.Ties a b) (c : κ) :
    o.cmp a c = o.cmp b c := by
  have weaken : ∀ {x y}, o.Ties x y → 0 ≤ o.cmp x c → 0 ≤ o.cmp y c :=
    fun t le => o.trans t.symm.le le
  have strengthen : ∀ {x y}, o.Ties x y → 0 ≤ o.cmp c x → 0 ≤ o.cmp c y :=
    fun t le => o.trans le t.le
  have up := weaken h
  have down := weaken h.symm
  have up' := strengthen h
  have down' := strengthen h.symm
  have flipA := o.antisymm a c
  have flipB := o.antisymm b c
  rcases o.range a c with ha | ha | ha <;> rcases o.range b c with hb | hb | hb <;> omega

/-- A strictly preceding key stays strictly before everything that follows. -/
theorem strict_trans (o : Comparator κ) {a b c : κ} (h₁ : o.cmp a b = 1) (h₂ : 0 ≤ o.cmp b c) :
    o.cmp a c = 1 := by
  rcases o.range a c with h | h | h
  · exact h
  all_goals
    have back : 0 ≤ o.cmp c a := by have := o.antisymm a c; omega
    have := o.trans h₂ back
    have := o.antisymm a b
    omega

/-- The comparison tells any two different keys apart: it is a strict total order. -/
def Strict (o : Comparator κ) : Prop := ∀ a b, o.Ties a b → a = b

/-- Two items whose keys the comparison tells apart. -/
def Apart {α : Type*} (o : Comparator κ) (key : α → κ) (a b : α) : Prop :=
  ¬o.Ties (key a) (key b)

theorem Apart.symm {α : Type*} {o : Comparator κ} {key : α → κ} {a b : α}
    (h : o.Apart key a b) : o.Apart key b a :=
  fun ties => h ties.symm

/-- Among items that are pairwise apart, a tie decides the item. -/
theorem eq_of_ties {α : Type*} {o : Comparator κ} {key : α → κ} {items : List α}
    (apart : items.Pairwise (o.Apart key)) {a b : α} (memA : a ∈ items) (memB : b ∈ items)
    (ties : o.Ties (key a) (key b)) : a = b := by
  by_contra differ
  have : Std.Symm (o.Apart key) := ⟨fun _ _ => Apart.symm⟩
  exact apart.forall memA memB differ ties

/-- Keys in increasing order of a measure. -/
def ascending (f : κ → Nat) : Comparator κ where
  cmp a b := if f a < f b then 1 else if f b < f a then -1 else 0
  range a b := by split <;> [skip; split] <;> simp
  antisymm a b := by split <;> split <;> omega
  trans := by
    intro a b c h₁ h₂
    split at h₁ <;> [skip; split at h₁] <;> split at h₂ <;> (try split at h₂) <;>
      split <;> (try split) <;> omega

/-- Keys in decreasing order of a measure. -/
def descending (f : κ → Nat) : Comparator κ where
  cmp a b := if f a < f b then -1 else if f b < f a then 1 else 0
  range a b := by split <;> [skip; split] <;> simp
  antisymm a b := by split <;> split <;> omega
  trans := by
    intro a b c h₁ h₂
    split at h₁ <;> [skip; split at h₁] <;> split at h₂ <;> (try split at h₂) <;>
      split <;> (try split) <;> omega

/-- Compare by `first`, and by `second` when `first` ties. -/
def lex (first second : Comparator κ) : Comparator κ where
  cmp a b := if first.cmp a b ≠ 0 then first.cmp a b else second.cmp a b
  range a b := by
    split
    · exact first.range a b
    · exact second.range a b
  antisymm a b := by
    have flip₁ := first.antisymm a b
    have flip₂ := second.antisymm a b
    split <;> split <;> omega
  trans := by
    intro a b c h₁ h₂
    by_cases tieAB : first.Ties a b
    · rw [tieAB.cmp_left c]
      rw [if_neg (by simpa [Ties] using tieAB)] at h₁
      split at h₂
      · rwa [if_pos ‹_›]
      · rw [if_neg ‹_›]
        exact second.trans h₁ h₂
    · have differ : first.cmp a b ≠ 0 := tieAB
      have before : first.cmp a b = 1 := by
        rw [if_pos differ] at h₁
        have := first.range a b
        omega
      have after : 0 ≤ first.cmp b c := by
        split at h₂ <;> omega
      rw [first.strict_trans before after]
      simp

/-- Compare keys by what `f` reads of them. -/
def on (o : Comparator κ) (f : κ' → κ) : Comparator κ' where
  cmp a b := o.cmp (f a) (f b)
  range a b := o.range (f a) (f b)
  antisymm a b := o.antisymm (f a) (f b)
  trans h₁ h₂ := o.trans h₁ h₂

/-- Optional keys, the missing one first. -/
def missingFirst (o : Comparator κ) : Comparator (Option κ) where
  cmp
    | none, none => 0
    | none, some _ => 1
    | some _, none => -1
    | some a, some b => o.cmp a b
  range
    | none, none => .inr (.inl rfl)
    | none, some _ => .inl rfl
    | some _, none => .inr (.inr rfl)
    | some a, some b => o.range a b
  antisymm
    | none, none => rfl
    | none, some _ => rfl
    | some _, none => rfl
    | some a, some b => o.antisymm a b
  trans := by
    intro a b c h₁ h₂
    cases a with
    | none => cases c <;> simp
    | some a =>
        cases b with
        | none => simp at h₁
        | some b =>
            cases c with
            | none => simp at h₂
            | some c => exact o.trans h₁ h₂

@[simp] theorem ascending_ties {f : κ → Nat} {a b : κ} : (ascending f).Ties a b ↔ f a = f b := by
  simp only [Ties, ascending]
  split <;> [skip; split] <;> omega

@[simp] theorem descending_ties {f : κ → Nat} {a b : κ} : (descending f).Ties a b ↔ f a = f b := by
  simp only [Ties, descending]
  split <;> [skip; split] <;> omega

@[simp] theorem lex_ties {first second : Comparator κ} {a b : κ} :
    (lex first second).Ties a b ↔ first.Ties a b ∧ second.Ties a b := by
  simp only [Ties, lex]
  split <;> simp_all

@[simp] theorem on_ties {o : Comparator κ} {f : κ' → κ} {a b : κ'} :
    (o.on f).Ties a b ↔ o.Ties (f a) (f b) := Iff.rfl

/-- A criterion that a comparison tries first, as C spells it. -/
theorem ascending_lex_cmp {f : κ → Nat} {o : Comparator κ} {a b : κ} :
    (lex (ascending f) o).cmp a b =
      if f a < f b then 1 else if f a > f b then -1 else o.cmp a b := by
  simp only [lex, ascending]
  grind

theorem descending_lex_cmp {f : κ → Nat} {o : Comparator κ} {a b : κ} :
    (lex (descending f) o).cmp a b =
      if f a < f b then -1 else if f a > f b then 1 else o.cmp a b := by
  simp only [lex, descending]
  grind

theorem ascending_le {f : κ → Nat} {a b : κ} : 0 ≤ (ascending f).cmp a b ↔ f a ≤ f b := by
  simp only [ascending]
  split <;> [skip; split] <;> omega

/-- The first criterion alone already orders the keys weakly. -/
theorem lex_le {first second : Comparator κ} {a b : κ} (h : 0 ≤ (lex first second).cmp a b) :
    0 ≤ first.cmp a b := by
  simp only [lex] at h
  split at h <;> omega

end Comparator

/-- What a container asks of the comparison of its keys: it orders them, and ties
    just those that stand for the same thing. -/
structure Orders {κ : Type*} (cmp : κ → κ → Int) (same : κ → κ → Bool) : Prop where
  range : ∀ a b, cmp a b = 1 ∨ cmp a b = 0 ∨ cmp a b = -1
  antisymm : ∀ a b, cmp a b = -cmp b a
  trans : ∀ a b c, 0 ≤ cmp a b → 0 ≤ cmp b c → 0 ≤ cmp a c
  zero_iff : ∀ a b, cmp a b = 0 ↔ same a b

namespace Orders

variable {κ : Type*} {cmp : κ → κ → Int} {same : κ → κ → Bool}

/-- The comparison with the laws that containers use. -/
def comparator (orders : Orders cmp same) : Comparator κ where
  cmp := cmp
  range := orders.range
  antisymm := orders.antisymm
  trans := orders.trans _ _ _

theorem of_comparator (o : Comparator κ) (agrees : ∀ a b, cmp a b = o.cmp a b)
    (ties : ∀ a b, o.Ties a b ↔ same a b) : Orders cmp same where
  range a b := by rw [agrees]; exact o.range a b
  antisymm a b := by rw [agrees, agrees]; exact o.antisymm a b
  trans a b c h₁ h₂ := by
    rw [agrees] at h₁ h₂ ⊢
    exact o.trans h₁ h₂
  zero_iff a b := by rw [agrees]; exact ties a b

theorem ties_iff (orders : Orders cmp same) {a b : κ} : orders.comparator.Ties a b ↔ same a b :=
  orders.zero_iff a b

end Orders

end FlexRic
