import FlexRic.Util.AssocRbStore

/-! # Searching a two-way map by a predicate

The predicate of a search takes an untyped pointer. On the left it is given the key of
a node, on the right the node itself, so there it judges other bytes than it is for.
-/

namespace FlexRic

open RbLinks (null dummy)
open RbMemory (LocatedTree IterAt)
open AssocNode (Place)

/-- What an untyped pointer points to. -/
inductive Pointee (κ : Type) where
  | key (key : κ)
  | node (it : Ptr)

/-- `bi_map_t` and its memory. -/
structure BiMapMemory (κ₁ κ₂ : Type) where
  left : RbMemory κ₁ κ₂
  right : RbMemory κ₂ κ₁

section Loop

variable {κ ν : Type}

/-- The loop of a search, where `arg` is what the predicate is called with. -/
def RbMemory.findIf (tree : RbMemory κ ν) (arg : Ptr → RbResult (Pointee κ))
    (f : Pointee κ → Bool) (endIt : Ptr) : Nat → Ptr → RbResult Ptr
  | 0, _ => .error .endless
  | rounds + 1, startIt =>
      if startIt ≠ endIt then do
        let value ← arg startIt
        if f value then pure startIt
        else tree.findIf arg f endIt rounds (← tree.next startIt)
      else pure startIt

/-- The key of a node. -/
def RbMemory.keyAt (tree : RbMemory κ ν) (it : Ptr) : RbResult (Pointee κ) := do
  let key ← tree.key it
  pure (.key key)

def findIfRbTree (tree : RbMemory κ ν) (startIt endIt : Ptr) (f : Pointee κ → Bool) :
    RbResult Ptr :=
  tree.findIf tree.keyAt f endIt tree.rounds startIt

end Loop

section

variable {κ₁ κ₂ : Type}

/-- `find_if_bi_map_left`, for a predicate that was given its value. -/
def findIfBiMapLeft (map : BiMapMemory κ₁ κ₂) (startIt endIt : Ptr) (f : Pointee κ₁ → Bool) :
    RbResult Ptr := do
  check (startIt ≠ null) .badPointer
  map.left.findIf map.left.keyAt f endIt map.left.rounds startIt

/-- `find_if_bi_map_right`. The predicate is called with the iterator. -/
def findIfBiMapRight (map : BiMapMemory κ₁ κ₂) (startIt endIt : Ptr) (f : Pointee κ₂ → Bool) :
    RbResult Ptr := do
  check (startIt ≠ null) .badPointer
  map.right.findIf (fun it => pure (.node it)) f endIt map.right.rounds startIt

end

namespace RbMemory

variable {κ ν : Type} {o : Comparator κ} {tree : RbMemory κ ν} {t : LocatedTree o ν}
  {visited rest : List ((Ptr × κ) × ν)} {e : (Ptr × κ) × ν} {p startIt endIt : Ptr}
  {f : Pointee κ → Bool}

/-- From one iterator to another these entries are visited. -/
def Range (t : LocatedTree o ν) (visited : List ((Ptr × κ) × ν)) (startIt endIt : Ptr) : Prop :=
  ∃ rest, IterAt t.root (visited ++ rest) startIt ∧ IterAt t.root rest endIt

/-- The first position whose entry is as asked, or the end. -/
def firstPosition (p : (Ptr × κ) × ν → Bool) (visited : List ((Ptr × κ) × ν)) (endIt : Ptr) : Ptr :=
  match visited.find? p with
  | some e => e.1.1
  | none => endIt

/-- The predicate of an entry's key. -/
def onKey (f : Pointee κ → Bool) (e : (Ptr × κ) × ν) : Bool := f (.key e.1.2)

/-- The predicate of an entry's node. -/
def onNode (f : Pointee κ → Bool) (e : (Ptr × κ) × ν) : Bool := f (.node e.1.1)

theorem iterAt_cons (iter : IterAt t.root (e :: rest) p) :
    ∃ z : Place (Ptr × κ) ν, z.whole = t.root ∧ (z.key, z.value) = e ∧
      z.right.toList ++ AssocNode.after z.up = rest ∧ z.key.1 = p := by
  generalize listed : e :: rest = l at iter
  cases iter with
  | stop => cases listed
  | node z inside =>
      obtain ⟨here, there⟩ := List.cons.inj listed
      exact ⟨z, inside, here.symm, there.symm, rfl⟩

/-- An iterator is at the first entry that is left, or at the end. -/
theorem iterAt_address (iter : IterAt t.root rest p) :
    p = (rest.head?.map fun e => e.1.1).getD dummy := by
  cases iter with
  | stop => rfl
  | node z inside => rfl

/-- What is left to be visited are the last entries of the tree. -/
theorem iterAt_suffix (iter : IterAt t.root rest p) : rest <:+ t.toList := by
  cases iter with
  | stop => exact List.nil_suffix
  | node z inside =>
      refine ⟨AssocNode.before z.up ++ z.left.toList, ?_⟩
      rw [AssocRbTree.toList, ← inside, Place.whole, AssocNode.toList_plug, AssocNode.toList]
      simp

/-- Nodes have addresses of their own. -/
theorem Laid.apart (laid : tree.Laid t) : (dummy :: t.toList.map fun e => e.1.1).Nodup := by
  have apart := laid.holds.apart
  rw [RbLinks.upAddrs, List.append_nil, List.nodup_cons] at apart
  have perm := addrs_toList t.root
  rw [perm.mem_iff, perm.nodup_iff] at apart
  exact List.nodup_cons.mpr apart

/-- No entry of a range is where the range ends. -/
theorem Range.end_apart (laid : tree.Laid t) (range : Range t visited startIt endIt) :
    ∀ e ∈ visited, e.1.1 ≠ endIt := by
  obtain ⟨rest, start, finish⟩ := range
  intro e mem same
  have apart := laid.apart
  rw [List.nodup_cons] at apart
  obtain ⟨noDummy, distinct⟩ := apart
  obtain ⟨pre, whole⟩ := iterAt_suffix start
  rw [← whole] at noDummy distinct
  rw [iterAt_address finish] at same
  cases rest with
  | nil =>
      apply noDummy
      have inside : e ∈ pre ++ (visited ++ []) := by simp [mem]
      exact List.mem_map.mpr ⟨e, inside, same⟩
  | cons first rest =>
      rw [List.map_append, List.map_append, List.map_cons] at distinct
      have later := (List.nodup_append.mp distinct).2.1
      exact (List.nodup_append.mp later).2.2 _ (List.mem_map_of_mem mem) _ List.mem_cons_self same

theorem Range.next (laid : tree.Laid t) (range : Range t (e :: visited) startIt endIt) :
    startIt = e.1.1 ∧ ∃ p, tree.next startIt = .ok p ∧ Range t visited p endIt := by
  obtain ⟨rest, start, finish⟩ := range
  obtain ⟨z, inside, rfl, later, rfl⟩ := iterAt_cons start
  obtain ⟨p, goes, iter⟩ := next_ok laid inside
  rw [later] at iter
  exact ⟨rfl, p, goes, rest, iter, finish⟩

theorem Range.empty (range : Range t [] startIt endIt) : startIt = endIt := by
  obtain ⟨rest, start, finish⟩ := range
  exact (iterAt_address start).trans (iterAt_address finish).symm

theorem Range.length_le (range : Range t visited startIt endIt) :
    visited.length ≤ t.root.toList.length := by
  obtain ⟨rest, start, -⟩ := range
  have all := (iterAt_suffix start).length_le
  rw [List.length_append] at all
  exact Nat.le_trans (Nat.le_add_right _ _) all

/-- The loop stops at the first entry whose argument the predicate accepts. -/
theorem findIf_ok {arg : Ptr → RbResult (Pointee κ)} {taken : (Ptr × κ) × ν → Pointee κ}
    {rounds : Nat} (laid : tree.Laid t) (range : Range t visited startIt endIt)
    (args : ∀ e ∈ visited, arg e.1.1 = .ok (taken e)) (enough : visited.length < rounds) :
    tree.findIf arg f endIt rounds startIt =
      .ok (firstPosition (fun e => f (taken e)) visited endIt) := by
  induction visited generalizing startIt rounds with
  | nil =>
      obtain ⟨rounds, rfl⟩ := Nat.exists_eq_succ_of_ne_zero (Nat.ne_zero_of_lt enough)
      have same := range.empty
      rw [findIf, if_neg (not_not.mpr same), same]
      rfl
  | cons e visited ih =>
      obtain ⟨rounds, rfl⟩ := Nat.exists_eq_succ_of_ne_zero (Nat.ne_zero_of_lt enough)
      have proper := range.end_apart laid e List.mem_cons_self
      obtain ⟨rfl, p, goes, range⟩ := range.next laid
      rw [findIf, if_pos proper, args e List.mem_cons_self, ok_bind, firstPosition, List.find?_cons]
      cases accepted : f (taken e) with
      | true => rfl
      | false =>
          rw [goes, ok_bind]
          exact ih range (fun e mem => args e (List.mem_cons_of_mem _ mem))
            (Nat.lt_of_succ_lt_succ enough)

theorem Range.keyAt (laid : tree.Laid t) (range : Range t visited startIt endIt) :
    ∀ e ∈ visited, tree.keyAt e.1.1 = .ok (.key e.1.2) := by
  intro e mem
  obtain ⟨rest, start, -⟩ := range
  have inside := (iterAt_suffix start).subset (List.mem_append_left rest mem)
  have noDummy := (List.nodup_cons.mp laid.apart).1
  have proper : e.1.1 ≠ dummy := by
    intro same
    exact noDummy (List.mem_map.mpr ⟨e, inside, same⟩)
  rw [RbMemory.keyAt, RbMemory.key, check_pass _ proper, ok_bind, entry_ok (laid.keeps e inside)]
  rfl

/-- A search of one tree finds the first accepted key. -/
theorem Laid.findIfRbTree_ok (laid : tree.Laid t) (range : Range t visited startIt endIt)
    (f : Pointee κ → Bool) :
    findIfRbTree tree startIt endIt f = .ok (firstPosition (onKey f) visited endIt) :=
  findIf_ok laid range (range.keyAt laid) (Nat.lt_of_le_of_lt range.length_le laid.enough)

/-- Up to the first entry with an accepted key or node, the predicate judges the nodes as
    it does their keys. -/
def Agree (f : Pointee κ → Bool) : List ((Ptr × κ) × ν) → Prop
  | [] => True
  | e :: es => f (.key e.1.2) = f (.node e.1.1) ∧ (f (.key e.1.2) = false → Agree f es)

/-- An entry before the others is not the first position of these. -/
theorem firstPosition_ne {p : (Ptr × κ) × ν → Bool} (end_ : e.1.1 ≠ endIt)
    (others : ∀ e' ∈ visited, e.1.1 ≠ e'.1.1) : e.1.1 ≠ firstPosition p visited endIt := by
  rw [firstPosition]
  cases found : visited.find? p with
  | none => exact end_
  | some e' => exact others e' (List.mem_of_find?_eq_some found)

/-- Nodes lead to the same position as keys where the two agree. -/
theorem agree_iff (apart : (visited.map fun e => e.1.1).Nodup)
    (ends : ∀ e ∈ visited, e.1.1 ≠ endIt) :
    firstPosition (onNode f) visited endIt = firstPosition (onKey f) visited endIt ↔
      Agree f visited := by
  induction visited with
  | nil => exact iff_of_true rfl trivial
  | cons e visited ih =>
      rw [List.map_cons, List.nodup_cons] at apart
      rw [List.forall_mem_cons] at ends
      have others : ∀ e' ∈ visited, e.1.1 ≠ e'.1.1 := by
        intro e' mem same
        exact apart.1 (List.mem_map.mpr ⟨e', mem, same.symm⟩)
      rw [firstPosition, firstPosition, List.find?_cons, List.find?_cons, Agree]
      cases key : f (.key e.1.2) <;> cases node : f (.node e.1.1) <;>
        simp only [onKey, onNode, key, node, true_and, reduceCtorEq, false_and, false_implies,
          iff_false, true_implies]
      · exact ih apart.2 ends.2
      · exact firstPosition_ne ends.1 others
      · exact fun same => firstPosition_ne ends.1 others same.symm

end RbMemory

namespace BiMapMemory

open RbMemory

variable {κ₁ κ₂ : Type} {o₁ : Comparator κ₁} {o₂ : Comparator κ₂} {map : BiMapMemory κ₁ κ₂}
  {l : LocatedTree o₁ κ₂} {r : LocatedTree o₂ κ₁} {startIt endIt : Ptr}

/-- Both trees are in memory, where nothing is at `NULL`. -/
structure Laid (map : BiMapMemory κ₁ κ₂) (l : LocatedTree o₁ κ₂) (r : LocatedTree o₂ κ₁) :
    Prop where
  left : map.left.Laid l
  right : map.right.Laid r
  leftNull : ∀ e ∈ l.toList, e.1.1 ≠ null
  rightNull : ∀ e ∈ r.toList, e.1.1 ≠ null

theorem iterator_ne_null {κ ν : Type} {o : Comparator κ} {t : LocatedTree o ν}
    {visited : List ((Ptr × κ) × ν)} (proper : ∀ e ∈ t.toList, e.1.1 ≠ null)
    (range : Range t visited startIt endIt) : startIt ≠ null := by
  obtain ⟨rest, start, -⟩ := range
  rw [iterAt_address start]
  cases listed : visited ++ rest with
  | nil => exact nofun
  | cons e others =>
      apply proper
      apply (iterAt_suffix start).subset
      rw [listed]
      exact List.mem_cons_self

theorem Laid.findIfBiMapLeft_ok {visited : List ((Ptr × κ₁) × κ₂)} (laid : map.Laid l r)
    (range : Range l visited startIt endIt) (f : Pointee κ₁ → Bool) :
    findIfBiMapLeft map startIt endIt f = .ok (firstPosition (onKey f) visited endIt) := by
  rw [findIfBiMapLeft, check_pass _ (iterator_ne_null laid.leftNull range), ok_bind]
  exact laid.left.findIfRbTree_ok range f

theorem Laid.findIfBiMapRight_ok {visited : List ((Ptr × κ₂) × κ₁)} (laid : map.Laid l r)
    (range : Range r visited startIt endIt) (f : Pointee κ₂ → Bool) :
    findIfBiMapRight map startIt endIt f = .ok (firstPosition (onNode f) visited endIt) := by
  have enough := Nat.lt_of_le_of_lt range.length_le laid.right.enough
  rw [findIfBiMapRight, check_pass _ (iterator_ne_null laid.rightNull range), ok_bind]
  exact findIf_ok laid.right range (fun _ _ => rfl) enough

theorem Laid.right_iff {visited : List ((Ptr × κ₂) × κ₁)} (laid : map.Laid l r)
    (range : Range r visited startIt endIt) (f : Pointee κ₂ → Bool) :
    findIfBiMapRight map startIt endIt f = .ok (firstPosition (onKey f) visited endIt) ↔
      Agree f visited := by
  rw [laid.findIfBiMapRight_ok range, Except.ok.injEq]
  refine agree_iff ?_ (range.end_apart laid.right)
  obtain ⟨rest, start, -⟩ := range
  obtain ⟨pre, whole⟩ := iterAt_suffix start
  have distinct := (List.nodup_cons.mp laid.right.apart).2
  rw [← whole, List.map_append, List.map_append] at distinct
  exact (List.nodup_append.mp (List.nodup_append.mp distinct).2.1).1

end BiMapMemory

end FlexRic
