import FlexRic.Util.AssocRbTree

/-! # The two-way map

`bi_map_t` keeps every pair twice: in the left tree under its first key and in
the right tree under its second. Nothing but the discipline of its users makes
the trees inverse to each other, since insertion never looks for either key
first, and an extraction finds the second copy by whatever ties with it.
-/

namespace FlexRic

structure BiMap {κ₁ κ₂ : Type} (l : Comparator κ₁) (r : Comparator κ₂) where
  left : AssocRbTree l κ₂
  right : AssocRbTree r κ₁

open Assertion

namespace BiMap

variable {κ₁ κ₂ : Type} {l : Comparator κ₁} {r : Comparator κ₂}

def init : BiMap l r := ⟨.init, .init⟩

/-- `bi_map_insert`. Its two assertions compare a key with its own copy. -/
def insert (m : BiMap l r) (key1 : κ₁) (key2 : κ₂) : BiMap l r :=
  ⟨m.left.insert key1 key2, m.right.insert key2 key1⟩

/-- `bi_map_extract_left`: the second key of the pair stored under `key1`. -/
def extractLeft (m : BiMap l r) (key1 : κ₁) : Checked (κ₂ × BiMap l r) := do
  let (key2, left) ← m.left.extract key1
  let (key3, right) ← m.right.extract key2
  check (l.cmp key1 key3 = 0) bimapOtherKey
  check (left.size = right.size) bimapSizes
  pure (key2, ⟨left, right⟩)

/-- `bi_map_extract_right`: the first key of the pair stored under `key2`. -/
def extractRight (m : BiMap l r) (key2 : κ₂) : Checked (κ₁ × BiMap l r) := do
  let (key1, right) ← m.right.extract key2
  let (key3, left) ← m.left.extract key1
  check (r.cmp key2 key3 = 0) bimapOtherKey
  check (left.size = right.size) bimapSizes
  pure (key1, ⟨left, right⟩)

/-- `bi_map_size`. -/
def size (m : BiMap l r) : Checked Nat := do
  check (m.left.size = m.right.size) bimapSizes
  pure m.left.size

/-- The pairs, in the order of their first keys. -/
def pairs (m : BiMap l r) : List (κ₁ × κ₂) := m.left.toList

/-- The first keys, each as often as it is there. -/
def firsts (m : BiMap l r) : List κ₁ := m.pairs.map Prod.fst

/-- Each tree is the other one turned around. -/
def Inverse (m : BiMap l r) : Prop := m.right.toList.Perm (m.pairs.map Prod.swap)

@[simp] theorem pairs_init : (init : BiMap l r).pairs = [] := rfl

theorem inverse_init : (init : BiMap l r).Inverse := List.Perm.refl _

theorem pairs_insert (m : BiMap l r) (key1 : κ₁) (key2 : κ₂) :
    (m.insert key1 key2).pairs.Perm ((key1, key2) :: m.pairs) :=
  m.left.insert_perm key1 key2

theorem firsts_insert (m : BiMap l r) (key1 : κ₁) (key2 : κ₂) :
    (m.insert key1 key2).firsts.Perm (key1 :: m.firsts) :=
  (m.pairs_insert key1 key2).map Prod.fst

theorem Inverse.insert {m : BiMap l r} (inv : m.Inverse) (key1 : κ₁) (key2 : κ₂) :
    (m.insert key1 key2).Inverse := by
  have right := m.right.insert_perm key2 key1
  have left := (m.pairs_insert key1 key2).map Prod.swap
  exact right.trans ((inv.cons (key2, key1)).trans left.symm)

theorem Inverse.mem_right {m : BiMap l r} (inv : m.Inverse) {key1 : κ₁} {key2 : κ₂} :
    (key2, key1) ∈ m.right.toList ↔ (key1, key2) ∈ m.pairs := by
  rw [inv.mem_iff]
  simp

theorem Inverse.size_eq {m : BiMap l r} (inv : m.Inverse) : m.left.size = m.right.size := by
  rw [m.left.size_eq, m.right.size_eq, inv.length_eq, List.length_map, pairs]

theorem Inverse.size_ok {m : BiMap l r} (inv : m.Inverse) : m.size = .ok m.pairs.length := by
  rw [size, check_pass _ inv.size_eq, ok_bind, m.left.size_eq]
  rfl

/-- The second half of an extraction, from either side: the first tree has given
    up the pair `(a, b)`, and in the second exactly the copy of that pair ties. -/
theorem second_extract {κ ν : Type} {o : Comparator κ} {t : AssocRbTree o ν} {a : κ} {b : ν}
    (mem : (a, b) ∈ t.toList) (only : ∀ e ∈ t.toList, o.Ties a e.1 → e = (a, b)) :
    ∃ t', t.extract a = .ok (b, t') ∧ t.toList.Perm ((a, b) :: t'.toList) :=
  AssocRbTree.extract_unique mem (.refl o a) only

/-- Whatever the map is like, an extraction takes out one pair, both of whose
    keys tie with what it was after. -/
theorem extractRight_perm {m m' : BiMap l r} {key2 : κ₂} {a : κ₁}
    (h : m.extractRight key2 = .ok (a, m')) :
    ∃ a' b', l.Ties a a' ∧ r.Ties key2 b' ∧ m.pairs.Perm ((a', b') :: m'.pairs) := by
  simp only [extractRight, bind_eq_ok, Prod.exists, check_eq_ok, pure_eq_ok, Prod.mk.injEq] at h
  obtain ⟨a, right, -, key3, left, gotL, _, same, _, _, rfl, rfl⟩ := h
  obtain ⟨a', ties, perm⟩ := AssocRbTree.extract_ok gotL
  exact ⟨a', key3, ties, same, perm⟩

theorem extractRight_subset {m m' : BiMap l r} {key2 : κ₂} {a : κ₁}
    (h : m.extractRight key2 = .ok (a, m')) {p : κ₁ × κ₂} (mem : p ∈ m'.pairs) : p ∈ m.pairs := by
  obtain ⟨_, _, -, -, perm⟩ := extractRight_perm h
  exact perm.mem_iff.mpr (List.mem_cons_of_mem _ mem)

theorem firsts_extractRight {m m' : BiMap l r} {key2 : κ₂} {a : κ₁}
    (exact_ : ∀ a b, l.Ties a b → a = b) (h : m.extractRight key2 = .ok (a, m')) :
    m.firsts.Perm (a :: m'.firsts) := by
  obtain ⟨a', b', ties, -, perm⟩ := extractRight_perm h
  cases exact_ a a' ties
  exact perm.map Prod.fst

/-- With distinct first keys an extraction by the second key takes out one pair
    whose second key ties; which one, among several, the shape of the tree decides. -/
theorem extractRight_ok {m m' : BiMap l r} (inv : m.Inverse) (distinct : m.left.Distinct)
    {key2 : κ₂} {a : κ₁} (h : m.extractRight key2 = .ok (a, m')) :
    ∃ b, r.Ties key2 b ∧ m.pairs.Perm ((a, b) :: m'.pairs) ∧ m'.Inverse := by
  simp only [extractRight, bind_eq_ok, Prod.exists, check_eq_ok, pure_eq_ok, Prod.mk.injEq] at h
  obtain ⟨a, right, gotR, key3, left, gotL, _, _, _, _, rfl, rfl⟩ := h
  obtain ⟨b, ties, permR⟩ := AssocRbTree.extract_ok gotR
  obtain ⟨a', tiesA, permL⟩ := AssocRbTree.extract_ok gotL
  have stored : (a, b) ∈ m.pairs := inv.mem_right.mp (permR.mem_iff.mpr (by simp))
  have taken : (a', key3) ∈ m.pairs := permL.mem_iff.mpr (by simp)
  cases Comparator.eq_of_ties distinct stored taken tiesA
  have both := permR.symm.trans (inv.trans (permL.map Prod.swap))
  have inverse : right.toList.Perm (left.toList.map Prod.swap) := by simpa using both
  exact ⟨key3, ties, permL, inverse⟩

/-- It is the first key of the pair that the search of the right tree meets. -/
theorem find_right_of_extractRight {m m' : BiMap l r} {key2 : κ₂} {a : κ₁}
    (h : m.extractRight key2 = .ok (a, m')) : m.right.find key2 = some a := by
  simp only [extractRight, bind_eq_ok, Prod.exists, check_eq_ok, pure_eq_ok, Prod.mk.injEq] at h
  obtain ⟨a, right, gotR, _, _, _, _, _, _, _, rfl, -⟩ := h
  exact AssocRbTree.find_of_extract gotR

/-- Only a second key that is not stored stops an extraction. -/
theorem extractRight_error {m : BiMap l r} (inv : m.Inverse) (distinct : m.left.Distinct)
    {key2 : κ₂} {e : Assertion} :
    m.extractRight key2 = .error e ↔ e = .keyNotInTree ∧ ∀ p ∈ m.pairs, ¬r.Ties key2 p.2 := by
  cases gotR : m.right.extract key2 with
  | error e' =>
      obtain ⟨rfl, missing⟩ := AssocRbTree.extract_error.mp gotR
      simp only [extractRight, gotR, error_bind, Except.error.injEq]
      constructor
      · rintro rfl
        exact ⟨rfl, fun p mem => missing (p.2, p.1) (inv.mem_right.mpr mem)⟩
      · rintro ⟨rfl, -⟩
        rfl
  | ok got =>
      obtain ⟨a, right⟩ := got
      obtain ⟨b, ties, permR⟩ := AssocRbTree.extract_ok gotR
      have stored : (a, b) ∈ m.pairs := inv.mem_right.mp (permR.mem_iff.mpr (by simp))
      obtain ⟨left, gotL, permL⟩ := second_extract (o := l) stored
        (fun p mem tied => (Comparator.eq_of_ties distinct stored mem tied).symm)
      have both := permR.symm.trans (inv.trans (permL.map Prod.swap))
      have sizes : left.size = right.size := by
        have lengths := both.length_eq
        simp only [List.length_cons, List.length_map] at lengths
        rw [left.size_eq, right.size_eq]
        omega
      simp only [extractRight, gotR, gotL, ok_bind]
      rw [check_pass _ (show r.cmp key2 b = 0 from ties), check_pass _ sizes]
      simp only [ok_bind, pure_ne_error, false_iff, not_and, not_forall, not_not]
      exact fun _ => ⟨(a, b), stored, ties⟩

section SharedLeft

/-! Second keys are apart, but pairs may share a first key: an extraction then
depends on which of them the search of the left tree meets. -/

variable {m : BiMap l r} {key2 : κ₂} {a : κ₁} {b : κ₂}

theorem extract_right_tree (inv : m.Inverse) (right : m.pairs.Pairwise (r.Apart Prod.snd))
    (mem : (a, b) ∈ m.pairs) (ties : r.Ties key2 b) :
    ∃ t, m.right.extract key2 = .ok (a, t) ∧ m.right.toList.Perm ((b, a) :: t.toList) := by
  apply AssocRbTree.extract_unique (inv.mem_right.mpr mem) ties
  intro e stored tied
  have same := Comparator.eq_of_ties right mem (inv.mem_right.mp stored) (ties.symm.trans tied)
  exact congrArg Prod.swap same.symm

theorem extractRight_of_find (inv : m.Inverse) (right : m.pairs.Pairwise (r.Apart Prod.snd))
    (mem : (a, b) ∈ m.pairs) (ties : r.Ties key2 b) (first : m.left.find a = some b) :
    ∃ m', m.extractRight key2 = .ok (a, m') ∧ m.pairs.Perm ((a, b) :: m'.pairs) ∧ m'.Inverse := by
  obtain ⟨tree, gotR, permR⟩ := extract_right_tree inv right mem ties
  obtain ⟨left, gotL⟩ := AssocRbTree.extract_of_find first
  obtain ⟨a', tiesA, permL⟩ := AssocRbTree.extract_ok gotL
  have taken : (a', b) ∈ m.pairs := permL.mem_iff.mpr (by simp)
  cases Comparator.eq_of_ties right mem taken (.refl r b)
  have both := permR.symm.trans (inv.trans (permL.map Prod.swap))
  have inverse : tree.toList.Perm (left.toList.map Prod.swap) := by simpa using both
  have sizes : left.size = tree.size := by
    rw [left.size_eq, tree.size_eq, inverse.length_eq, List.length_map]
  refine ⟨⟨left, tree⟩, ?_, permL, inverse⟩
  simp only [extractRight, gotR, gotL, ok_bind]
  rw [check_pass _ (show r.cmp key2 b = 0 from ties), check_pass _ sizes]
  rfl

theorem find_of_extractRight {m' : BiMap l r} {a' : κ₁} (inv : m.Inverse)
    (right : m.pairs.Pairwise (r.Apart Prod.snd)) (mem : (a, b) ∈ m.pairs)
    (ties : r.Ties key2 b) (h : m.extractRight key2 = .ok (a', m')) :
    a' = a ∧ m.left.find a = some b := by
  obtain ⟨tree, gotR, -⟩ := extract_right_tree inv right mem ties
  simp only [extractRight, gotR, ok_bind, bind_eq_ok, Prod.exists, check_eq_ok, pure_eq_ok,
    Prod.mk.injEq] at h
  obtain ⟨key3, left, gotL, _, same, _, -, rfl, -⟩ := h
  obtain ⟨a'', tiesA, permL⟩ := AssocRbTree.extract_ok gotL
  have taken : (a'', key3) ∈ m.pairs := permL.mem_iff.mpr (by simp)
  have both : (a, b) = (a'', key3) :=
    Comparator.eq_of_ties right mem taken (ties.symm.trans same)
  cases both
  exact ⟨rfl, AssocRbTree.find_of_extract gotL⟩

end SharedLeft

/-- Both trees inverse to each other, and neither key stored twice. -/
structure Bijective (m : BiMap l r) : Prop where
  inverse : m.Inverse
  left : m.left.Distinct
  right : m.pairs.Pairwise (r.Apart Prod.snd)

theorem bijective_init : (init : BiMap l r).Bijective where
  inverse := inverse_init
  left := by simp [AssocRbTree.Distinct, init]
  right := by simp

theorem Bijective.insert {m : BiMap l r} (h : m.Bijective) {key1 : κ₁} {key2 : κ₂}
    (fresh1 : ∀ e ∈ m.pairs, ¬l.Ties key1 e.1) (fresh2 : ∀ e ∈ m.pairs, ¬r.Ties key2 e.2) :
    (m.insert key1 key2).Bijective where
  inverse := h.inverse.insert key1 key2
  left := AssocRbTree.distinct_insert.mpr ⟨fresh1, h.left⟩
  right := by
    rw [(m.pairs_insert key1 key2).pairwise_iff fun {_ _} => Comparator.Apart.symm,
      List.pairwise_cons]
    exact ⟨fresh2, h.right⟩

theorem Bijective.eq_of_left {m : BiMap l r} (h : m.Bijective) {a b : κ₁ × κ₂}
    (memA : a ∈ m.pairs) (memB : b ∈ m.pairs) (ties : l.Ties a.1 b.1) : a = b :=
  Comparator.eq_of_ties h.left memA memB ties

theorem Bijective.eq_of_right {m : BiMap l r} (h : m.Bijective) {a b : κ₁ × κ₂}
    (memA : a ∈ m.pairs) (memB : b ∈ m.pairs) (ties : r.Ties a.2 b.2) : a = b :=
  Comparator.eq_of_ties h.right memA memB ties

/-- In a bijective map an extraction by a stored second key takes out its pair. -/
theorem Bijective.extractRight {m : BiMap l r} (h : m.Bijective) {key2 : κ₂} {a : κ₁} {b : κ₂}
    (mem : (a, b) ∈ m.pairs) (ties : r.Ties key2 b) :
    ∃ m', m.extractRight key2 = .ok (a, m') ∧ m.pairs.Perm ((a, b) :: m'.pairs) ∧
      m'.Bijective := by
  cases got : m.extractRight key2 with
  | error e => exact absurd ties (((extractRight_error h.inverse h.left).mp got).2 _ mem)
  | ok taken =>
      obtain ⟨a', m'⟩ := taken
      obtain ⟨b', ties', perm, inverse⟩ := extractRight_ok h.inverse h.left got
      have taken : (a', b') ∈ m.pairs := perm.mem_iff.mpr (by simp)
      cases h.eq_of_right mem taken (ties.symm.trans ties')
      have apartL := (AssocRbTree.distinct_of_perm perm).mp h.left
      have apartR := (perm.pairwise_iff fun {_ _} => Comparator.Apart.symm).mp h.right
      exact ⟨m', rfl, perm, inverse, (List.pairwise_cons.mp apartL).2,
        (List.pairwise_cons.mp apartR).2⟩

end BiMap

end FlexRic
