import FlexRic.Library.Machine
import FlexRic.Util.BiMap

/-! # Runs of a two-way map

Users insert pairs whose keys are both free, and extract by a key, from either
side, what is there. Under two strict total orders the trees are then finite
maps, each the inverse of the other.
-/

namespace FlexRic

inductive BiMapEvent (κ₁ κ₂ : Type) where
  | insert (key1 : κ₁) (key2 : κ₂)
  | extractLeft (key1 : κ₁)
  | extractRight (key2 : κ₂)

namespace BiMap

variable {κ₁ κ₂ : Type} {l : Comparator κ₁} {r : Comparator κ₂}

def Enabled (m : BiMap l r) : BiMapEvent κ₁ κ₂ → Prop
  | .insert key1 key2 => m.left.find key1 = none ∧ m.right.find key2 = none
  | .extractLeft key1 => m.left.find key1 ≠ none
  | .extractRight key2 => m.right.find key2 ≠ none

instance [DecidableEq κ₁] [DecidableEq κ₂] (m : BiMap l r) :
    (e : BiMapEvent κ₁ κ₂) → Decidable (m.Enabled e)
  | .insert .. => inferInstanceAs (Decidable (_ ∧ _))
  | .extractLeft _ | .extractRight _ => inferInstanceAs (Decidable (_ ≠ _))

/-- An operation, with the other key of the pair that it takes out. -/
def step (m : BiMap l r) : BiMapEvent κ₁ κ₂ → Checked (BiMap l r × Option (κ₁ ⊕ κ₂))
  | .insert key1 key2 => pure (m.insert key1 key2, none)
  | .extractLeft key1 => do
      let (key2, m) ← m.extractLeft key1
      pure (m, some (.inr key2))
  | .extractRight key2 => do
      let (key1, m) ← m.extractRight key2
      pure (m, some (.inl key1))

def machine (l : Comparator κ₁) (r : Comparator κ₂) :
    Machine (BiMap l r) (BiMapEvent κ₁ κ₂) Assertion (Option (κ₁ ⊕ κ₂)) where
  init := .init
  enabled := Enabled
  step := step

instance [DecidableEq κ₁] [DecidableEq κ₂] (m : BiMap l r) (e : BiMapEvent κ₁ κ₂) :
    Decidable ((machine l r).enabled m e) :=
  inferInstanceAs (Decidable (m.Enabled e))

/-- Two finite maps, each the inverse of the other, with as many entries as each
    other. -/
structure TwoWay (m : BiMap l r) : Prop where
  left : Represents m.left.toList m.left.find
  right : Represents m.right.toList m.right.find
  inverse : ∀ a b, m.left.find a = some b ↔ m.right.find b = some a
  sizes : m.left.size = m.right.size

/-- What an operation does to the two maps, and what it returns. -/
def Effect [DecidableEq κ₁] [DecidableEq κ₂] (m m' : BiMap l r) (out : Option (κ₁ ⊕ κ₂)) :
    BiMapEvent κ₁ κ₂ → Prop
  | .insert a b =>
      m'.left.find = Function.update m.left.find a (some b) ∧
      m'.right.find = Function.update m.right.find b (some a)
  | .extractLeft a => ∃ b, m.left.find a = some b ∧ out = some (.inr b) ∧
      m'.left.find = Function.update m.left.find a none ∧
      m'.right.find = Function.update m.right.find b none
  | .extractRight b => ∃ a, m.right.find b = some a ∧ out = some (.inl a) ∧
      m'.left.find = Function.update m.left.find a none ∧
      m'.right.find = Function.update m.right.find b none

/-- The map with its sides exchanged. -/
def swap (m : BiMap l r) : BiMap r l := ⟨m.right, m.left⟩

theorem extractLeft_eq (m : BiMap l r) (key1 : κ₁) :
    m.extractLeft key1 =
      m.swap.extractRight key1 >>= fun taken => pure (taken.1, taken.2.swap) := by
  simp only [extractLeft, extractRight, swap, bind_assoc, pure_bind, eq_comm]

variable {m m' : BiMap l r} {a : κ₁} {b : κ₂}

theorem Bijective.swap (h : m.Bijective) : m.swap.Bijective where
  inverse := by
    have perm := h.inverse.map Prod.swap
    rw [List.map_map, Prod.swap_swap_eq, List.map_id] at perm
    exact perm.symm
  left := (AssocRbTree.distinct_of_perm h.inverse).mpr (List.pairwise_map.mpr h.right)
  right := by
    have apart := (h.inverse.pairwise_iff (R := l.Apart Prod.snd) Comparator.Apart.symm).mpr
      (List.pairwise_map.mpr h.left)
    exact apart

/-- Extraction from the left, as from the right. -/
theorem Bijective.extractLeft (h : m.Bijective) (mem : (a, b) ∈ m.pairs) :
    ∃ m', m.extractLeft a = .ok (b, m') ∧ m.pairs.Perm ((a, b) :: m'.pairs) ∧ m'.Bijective := by
  have mem' : (b, a) ∈ m.swap.pairs := h.inverse.mem_right.mpr mem
  obtain ⟨m', taken, perm, bijective⟩ := h.swap.extractRight mem' (.refl l a)
  refine ⟨m'.swap, ?_, ?_, bijective.swap⟩
  · rw [extractLeft_eq, taken]
    rfl
  · have swapped := perm.map Prod.swap
    exact h.swap.inverse.trans (swapped.trans (bijective.inverse.symm.cons (a, b)))

theorem Bijective.represents_left (strict : l.Strict) (h : m.Bijective) :
    Represents m.pairs m.left.find :=
  AssocRbTree.represents_find strict h.left

theorem Bijective.represents_right (strict : r.Strict) (h : m.Bijective) :
    Represents m.right.toList m.right.find :=
  AssocRbTree.represents_find strict h.swap.left

theorem Bijective.twoWay (strictL : l.Strict) (strictR : r.Strict) (h : m.Bijective) :
    m.TwoWay where
  left := h.represents_left strictL
  right := h.represents_right strictR
  inverse a b := by
    rw [← (h.represents_left strictL).mem_iff, ← (h.represents_right strictR).mem_iff,
      h.inverse.mem_right]
  sizes := h.inverse.size_eq

variable [DecidableEq κ₁] [DecidableEq κ₂]

/-- A pair that goes is gone from both maps, and nothing else is. -/
theorem Bijective.removed (strictL : l.Strict) (strictR : r.Strict) (h : m.Bijective)
    (h' : m'.Bijective) (perm : m.pairs.Perm ((a, b) :: m'.pairs)) :
    m.left.find a = some b ∧ m.right.find b = some a ∧
      m'.left.find = Function.update m.left.find a none ∧
      m'.right.find = Function.update m.right.find b none := by
  have left := ((h.represents_left strictL).perm perm).of_cons
  have perm' : m.right.toList.Perm ((b, a) :: m'.right.toList) :=
    h.inverse.trans ((perm.map Prod.swap).trans (h'.inverse.symm.cons (b, a)))
  have right := ((h.represents_right strictR).perm perm').of_cons
  exact ⟨left.1, right.1, (h'.represents_left strictL).map_unique left.2,
    (h'.represents_right strictR).map_unique right.2⟩

theorem Bijective.inserted (strictL : l.Strict) (strictR : r.Strict) (h : m.Bijective)
    (free1 : m.left.find a = none) (free2 : m.right.find b = none) :
    (m.insert a b).Bijective ∧
      (m.insert a b).left.find = Function.update m.left.find a (some b) ∧
      (m.insert a b).right.find = Function.update m.right.find b (some a) := by
  have fresh2 : ∀ e ∈ m.pairs, ¬r.Ties b e.2 := fun e mem =>
    AssocRbTree.find_none free2 (e.2, e.1) (h.inverse.mem_right.mpr mem)
  have bijective := h.insert (AssocRbTree.find_none free1) fresh2
  have left := ((h.represents_left strictL).cons free1 b).perm (m.pairs_insert a b).symm
  have right := ((h.represents_right strictR).cons free2 a).perm (m.right.insert_perm b a).symm
  exact ⟨bijective, (bijective.represents_left strictL).map_unique left,
    (bijective.represents_right strictR).map_unique right⟩

/-- In a bijective map every operation that its users may call goes through, with
    its effect, and leaves the map bijective. -/
theorem bijective_step (strictL : l.Strict) (strictR : r.Strict) (h : m.Bijective)
    {e : BiMapEvent κ₁ κ₂} (enabled : m.Enabled e) :
    ∃ m' out, m.step e = .ok (m', out) ∧ m'.Bijective ∧ Effect m m' out e := by
  cases e with
  | insert a b =>
      obtain ⟨bijective, left, right⟩ := h.inserted strictL strictR enabled.1 enabled.2
      exact ⟨_, _, rfl, bijective, left, right⟩
  | extractLeft a =>
      obtain ⟨b, found⟩ := Option.ne_none_iff_exists'.mp enabled
      have mem := ((h.represents_left strictL).mem_iff a b).mpr found
      obtain ⟨m', taken, perm, bijective⟩ := h.extractLeft mem
      obtain ⟨-, -, left, right⟩ := h.removed strictL strictR bijective perm
      refine ⟨m', some (.inr b), ?_, bijective, b, found, rfl, left, right⟩
      rw [step, taken]
      rfl
  | extractRight b =>
      obtain ⟨a, found⟩ := Option.ne_none_iff_exists'.mp enabled
      have mem := h.inverse.mem_right.mp (((h.represents_right strictR).mem_iff b a).mpr found)
      obtain ⟨m', taken, perm, bijective⟩ := h.extractRight mem (.refl r b)
      obtain ⟨-, -, left, right⟩ := h.removed strictL strictR bijective perm
      refine ⟨m', some (.inl a), ?_, bijective, a, found, rfl, left, right⟩
      rw [step, taken]
      rfl

theorem bijective_run (strictL : l.Strict) (strictR : r.Strict) {h : List (Entry _ _ _)}
    (run : (machine l r).Run m h) : m.Bijective := by
  apply run.invariant bijective_init
  intro m e m' out bijective enabled moved
  obtain ⟨_, _, goes, kept, -⟩ := bijective_step strictL strictR bijective enabled
  cases goes.symm.trans moved
  exact kept

/-- Along every run the trees are inverse finite maps of one size, and every
    operation that is allowed goes through and changes just its own pair. -/
theorem two_way (strictL : l.Strict) (strictR : r.Strict) {h : List (Entry _ _ _)}
    (run : (machine l r).Run m h) :
    m.TwoWay ∧ ∀ e, m.Enabled e → ∃ m' out, m.step e = .ok (m', out) ∧ Effect m m' out e := by
  have bijective := bijective_run strictL strictR run
  refine ⟨bijective.twoWay strictL strictR, fun e enabled => ?_⟩
  obtain ⟨m', out, goes, -, effect⟩ := bijective_step strictL strictR bijective enabled
  exact ⟨m', out, goes, effect⟩

/-- Numbers in increasing order. -/
def byNumber : Comparator Nat := .ascending id

theorem byNumber_strict : byNumber.Strict := by
  intro a b ties
  simpa [byNumber] using ties

def threePairs : List (BiMapEvent Nat Nat) :=
  [.insert 1 30, .insert 2 20, .insert 3 10, .extractRight 30, .insert 1 40]

theorem two_way_threePairs :
    ((machine byNumber byNumber).replay threePairs).1.TwoWay ∧
      ∃ m' out, ((machine byNumber byNumber).replay threePairs).1.step (.extractLeft 2) =
        .ok (m', out) ∧
        Effect ((machine byNumber byNumber).replay threePairs).1 m' out (.extractLeft 2) := by
  have along := two_way byNumber_strict byNumber_strict
    ((machine byNumber byNumber).run_replay threePairs)
  exact ⟨along.1, along.2 (.extractLeft 2) (by decide +kernel)⟩

end BiMap

end FlexRic
