import FlexRic.Util.AssocRbStore

/-! # What the properties of the tree say about memory

The five properties, the order and the links between parents and children are
stated here for pointers alone, as the source's header has them. A container that
stores a tree has them all.
-/

namespace FlexRic

open RbLinks (Holds Below Sentinel ptr upPtr dummy addrs upAddrs)
open AssocNode (Place RedBlack before after)

/-- The nodes at or below a node, the sentinel aside. -/
inductive Reaches (h : Heap NodeLinks) : Ptr → Ptr → Prop where
  | here {p : Ptr} (proper : p ≠ dummy) : Reaches h p p
  | child {p q : Ptr} {n : NodeLinks} (d : Side) (proper : p ≠ dummy) (there : h p = some n)
      (below : Reaches h (n.child d) q) : Reaches h p q

/-- A simple path from a node down to a leaf, with the number of black nodes on it. -/
inductive LeafPath (h : Heap NodeLinks) : Ptr → Nat → Prop where
  | leaf : LeafPath h dummy 0
  | node {p : Ptr} {n : NodeLinks} {count : Nat} (d : Side) (proper : p ≠ dummy)
      (there : h p = some n) (below : LeafPath h (n.child d) count) :
      LeafPath h p (if n.color = .black then count + 1 else count)

namespace RbMemory

variable {κ ν : Type} {o : Comparator κ} {tree : RbMemory κ ν}

/-- What holds of every node. -/
structure NodeOk (o : Comparator κ) (tree : RbMemory κ ν) (p : Ptr) (n : NodeLinks) (e : κ × ν) :
    Prop where
  /-- Both children are there, proper ones link back, and those of a red node are black. -/
  children : ∀ d, ∃ m, tree.links.nodes (n.child d) = some m ∧
    (n.child d ≠ dummy → m.parent = p) ∧ (n.color = .red → m.color = .black)
  left : ∀ q f, Reaches tree.links.nodes n.left q → tree.entries q = some f → o.cmp f.1 e.1 = 1
  right : ∀ q f, Reaches tree.links.nodes n.right q → tree.entries q = some f → o.cmp e.1 f.1 = 1
  level : ∀ i j, LeafPath tree.links.nodes p i → LeafPath tree.links.nodes p j → i = j

/-- The properties of a red-black tree. -/
structure RedBlackTree (o : Comparator κ) (tree : RbMemory κ ν) : Prop where
  root : ∃ n, tree.links.nodes tree.links.root = some n ∧ n.color = .black ∧
    (tree.links.root ≠ dummy → n.parent = dummy)
  sentinel : ∃ n, tree.links.nodes dummy = some n ∧ n.color = .black
  nodes : ∀ p, Reaches tree.links.nodes tree.links.root p →
    ∃ n e, tree.links.nodes p = some n ∧ tree.entries p = some e ∧ tree.NodeOk o p n e
  size : ∃ all : List Ptr, all.Nodup ∧
    (∀ p, p ∈ all ↔ Reaches tree.links.nodes tree.links.root p) ∧ tree.size = all.length

end RbMemory

namespace RbLinks

variable {κ ν : Type} {t : RbLinks} {h : Heap NodeLinks} {x : AssocNode (Ptr × κ) ν} {p q : Ptr}
  {up : List (AssocFrame (Ptr × κ) ν)} {n count : Nat}

/-- What is reached from a subtree is the subtree. -/
theorem Below.reaches_iff (below : Below h q x) (apart : dummy ∉ addrs x) :
    Reaches h (ptr x) p ↔ p ∈ addrs x := by
  induction x generalizing q with
  | dummy =>
      constructor
      · intro reached
        cases reached with
        | here proper => exact absurd rfl proper
        | child d proper => exact absurd rfl proper
      · intro mem
        cases mem
  | node c l k v r ihl ihr =>
      obtain ⟨here, left, right⟩ := below
      simp only [addrs, List.mem_cons, List.mem_append, not_or] at apart
      obtain ⟨noK, noL, noR⟩ := apart
      have fromL := ihl left noL
      have fromR := ihr right noR
      rw [addrs, List.mem_cons, List.mem_append, ← fromL, ← fromR]
      constructor
      · intro reached
        cases reached with
        | here => exact .inl rfl
        | child d proper there below =>
            cases here.symm.trans there
            cases d with
            | left => exact .inr (.inl below)
            | right => exact .inr (.inr below)
      · intro cases
        have proper : k.1 ≠ dummy := Ne.symm noK
        rcases cases with rfl | below | below
        · exact .here proper
        · exact .child .left proper here below
        · exact .child .right proper here below

/-- All paths of a subtree count its black height. -/
theorem Below.height (below : Below h q x) (apart : dummy ∉ addrs x) (rb : RedBlack x n)
    (path : LeafPath h (ptr x) count) : count = n := by
  induction x generalizing q n count with
  | dummy =>
      cases path with
      | leaf => exact rb.symm
      | node d proper => exact absurd rfl proper
  | node c l k v r ihl ihr =>
      obtain ⟨here, left, right⟩ := below
      simp only [addrs, List.mem_cons, List.mem_append, not_or] at apart
      obtain ⟨noK, noL, noR⟩ := apart
      obtain ⟨-, m, rfl, rbL, rbR⟩ := rb
      generalize start : ptr (.node c l k v r) = p at path
      cases path with
      | leaf => exact absurd start.symm noK
      | node d proper there below =>
          subst start
          cases here.symm.trans there
          cases d with
          | left => rw [ihl left noL rbL below]
          | right => rw [ihr right noR rbR below]

/-- A subtree's own node, or the sentinel. -/
theorem Holds.top (holds : Holds t x up) :
    ∃ m, t.nodes (ptr x) = some m ∧ m.color = x.color ∧ (ptr x ≠ dummy → m.parent = upPtr up) := by
  cases x with
  | dummy =>
      obtain ⟨parent, there⟩ := holds.sentinel
      exact ⟨_, there, rfl, fun proper => absurd rfl proper⟩
  | node c l k v r => exact ⟨_, holds.below.1, rfl, fun _ => rfl⟩

end RbLinks

namespace RbMemory

variable {κ ν : Type} {o : Comparator κ} {tree : RbMemory κ ν} {t : LocatedTree o ν}
  {z : Place (Ptr × κ) ν}

/-- The keys come in strictly increasing order. -/
theorem Stores.increasing (stores : tree.Stores t) :
    t.toList.Pairwise fun a b => o.cmp a.1.2 b.1.2 = 1 := by
  have sorted : t.toList.Pairwise fun a b => 0 ≤ o.cmp a.1.2 b.1.2 := t.sorted
  refine (sorted.and stores.distinct).imp fun {a b} both => ?_
  have range := o.range a.1.2 b.1.2
  have differ : o.cmp a.1.2 b.1.2 ≠ 0 := both.2
  have le := both.1
  omega

theorem toList_inside (inside : z.whole = t.root) :
    t.toList = before z.up ++
      (z.left.toList ++ (z.key, z.value) :: z.right.toList ++ after z.up) := by
  rw [AssocRbTree.toList, ← inside, Place.whole, AssocNode.toList_plug, AssocNode.toList,
    List.append_assoc]

/-- What is reached from a subtree of the tree has an entry of it. -/
theorem Stores.reached {x : AssocNode (Ptr × κ) ν} {p q : Ptr} {f : κ × ν} (stores : tree.Stores t)
    (below : Below tree.links.nodes p x) (part : x.toList ⊆ t.toList)
    (reach : Reaches tree.links.nodes (ptr x) q) (there : tree.entries q = some f) :
    ∃ e ∈ x.toList, e.1 = (q, f.1) := by
  have proper : dummy ∉ addrs x := by
    intro mem
    obtain ⟨e, inX, same⟩ := mem_addrs.mp mem
    have listed : dummy ∈ addrs t.root := mem_addrs.mpr ⟨e, part inX, same⟩
    exact (List.nodup_cons.mp stores.holds.apart).1 (List.mem_append_left _ listed)
  obtain ⟨e, inX, rfl⟩ := mem_addrs.mp ((below.reaches_iff proper).mp reach)
  cases there.symm.trans (stores.keeps e (part inX))
  exact ⟨e, inX, rfl⟩

theorem Stores.nodeOk (stores : tree.Stores t) (inside : z.whole = t.root) :
    tree.NodeOk o z.key.1 ⟨upPtr z.up, ptr z.left, ptr z.right, z.color⟩ (z.key.2, z.value) := by
  have holds := (stores.at_ inside).holds
  obtain ⟨-, belowL, belowR⟩ := holds.below
  have listed := toList_inside inside
  have rising := stores.increasing
  obtain ⟨black, m, rb⟩ := stores.colored
  rw [← inside] at rb black
  obtain ⟨n, rbZ, -⟩ := rb.unplug black
  have proper : dummy ∉ addrs (.node z.color z.left z.key z.value z.right) := fun mem =>
    (List.nodup_cons.mp holds.apart).1 (List.mem_append_left _ mem)
  have partL : z.left.toList ⊆ t.toList := by
    rw [listed]
    intro e mem
    simp [mem]
  have partR : z.right.toList ⊆ t.toList := by
    rw [listed]
    intro e mem
    simp [mem]
  rw [listed] at rising
  simp only [List.pairwise_append, List.pairwise_cons] at rising
  obtain ⟨-, ⟨⟨-, ⟨later, -⟩, earlier⟩, -⟩, -⟩ := rising
  constructor
  · intro d
    cases d with
    | left =>
        obtain ⟨n', there, color, parent⟩ := holds.left_child.top
        exact ⟨n', there, parent, fun red => color.trans (rbZ.1 red).1⟩
    | right =>
        obtain ⟨n', there, color, parent⟩ := holds.right_child.top
        exact ⟨n', there, parent, fun red => color.trans (rbZ.1 red).2⟩
  · intro q f reach there
    obtain ⟨e, mem, same⟩ := stores.reached belowL partL reach there
    have less := earlier e mem _ List.mem_cons_self
    rwa [same] at less
  · intro q f reach there
    obtain ⟨e, mem, same⟩ := stores.reached belowR partR reach there
    have less := later e mem
    rwa [same] at less
  · intro i j pathI pathJ
    exact (holds.below.height proper rbZ pathI).trans (holds.below.height proper rbZ pathJ).symm

/-- A container that stores a tree has all its properties. -/
theorem Stores.redBlackTree (stores : tree.Stores t) : tree.RedBlackTree o := by
  have root : tree.links.root = ptr t.root := stores.holds.above
  obtain ⟨proper, distinct⟩ := List.nodup_cons.mp stores.holds.apart
  rw [upAddrs, List.append_nil] at proper distinct
  have reaches (p : Ptr) : Reaches tree.links.nodes tree.links.root p ↔ p ∈ addrs t.root := by
    rw [root]
    exact stores.holds.below.reaches_iff proper
  refine ⟨?_, ?_, fun p reach => ?_, addrs t.root, distinct, fun p => (reaches p).symm, ?_⟩
  · obtain ⟨n, there, color, parent⟩ := stores.holds.top
    rw [root]
    exact ⟨n, there, color.trans stores.colored.1, parent⟩
  · obtain ⟨parent, there⟩ := stores.holds.sentinel
    exact ⟨_, there, rfl⟩
  · obtain ⟨e, mem, rfl⟩ := mem_addrs.mp ((reaches p).mp reach)
    obtain ⟨z, inside, rfl⟩ := AssocNode.exists_place mem []
    have here := stores.at_ inside
    exact ⟨_, _, here.holds.below.1, here.stored, stores.nodeOk inside⟩
  · rw [stores.size, t.counted, (addrs_toList t.root).length_eq, List.length_map]

end RbMemory

end FlexRic
