import FlexRic.Util.AssocRbColors

/-! # The tree that the links make

A subtree with its ancestors is in memory when every node of it links to its
parent and its children, all at different addresses. Going up or down from a node
changes what is the subtree and what the ancestors, and not the memory. The
operations on single nodes are shown here for the node that the subtree starts at.
-/

namespace FlexRic

variable {κ ν : Type}

/-- The links of a node as seen from one side. -/
def NodeLinks.seen (d : Side) (parent near far : Ptr) (c : AssocColor) : NodeLinks :=
  match d with
  | .left => ⟨parent, near, far, c⟩
  | .right => ⟨parent, far, near, c⟩

namespace NodeLinks

variable {d : Side} {parent near far p : Ptr} {c c' : AssocColor}

@[simp] theorem seen_parent : (seen d parent near far c).parent = parent := by
  cases d <;> rfl

@[simp] theorem seen_color : (seen d parent near far c).color = c := by
  cases d <;> rfl

@[simp] theorem seen_child : (seen d parent near far c).child d = near := by
  cases d <;> rfl

@[simp] theorem seen_child_other : (seen d parent near far c).child d.other = far := by
  cases d <;> rfl

@[simp] theorem seen_setChild :
    (seen d parent near far c).setChild d p = seen d parent p far c := by
  cases d <;> rfl

@[simp] theorem seen_setChild_other :
    (seen d parent near far c).setChild d.other p = seen d parent near p c := by
  cases d <;> rfl

@[simp] theorem seen_setParent :
    (seen d parent near far c).setParent p = seen d p near far c := by
  cases d <;> rfl

@[simp] theorem seen_setColor :
    (seen d parent near far c).setColor c' = seen d parent near far c' := by
  cases d <;> rfl

end NodeLinks

namespace RbLinks

open AssocNode (seen)

/-- The address of a subtree. -/
def ptr : AssocNode (Ptr × κ) ν → Ptr
  | .dummy => dummy
  | .node _ _ k _ _ => k.1

/-- The address of the parent. -/
def upPtr : List (AssocFrame (Ptr × κ) ν) → Ptr
  | [] => dummy
  | .left _ k _ _ :: _ => k.1
  | .right _ _ k _ :: _ => k.1

/-- The nodes of a subtree below this parent are as they should be. -/
def Below (h : Heap NodeLinks) : Ptr → AssocNode (Ptr × κ) ν → Prop
  | _, .dummy => True
  | parent, .node c l k _ r =>
      h k.1 = some ⟨parent, ptr l, ptr r, c⟩ ∧ Below h k.1 l ∧ Below h k.1 r

/-- The ancestors of the node at an address are, and what else is below them. -/
def Above (t : RbLinks) : Ptr → List (AssocFrame (Ptr × κ) ν) → Prop
  | p, [] => t.root = p
  | p, .left c k _ r :: up =>
      t.nodes k.1 = some ⟨upPtr up, p, ptr r, c⟩ ∧ Below t.nodes k.1 r ∧ Above t k.1 up
  | p, .right c l k _ :: up =>
      t.nodes k.1 = some ⟨upPtr up, ptr l, p, c⟩ ∧ Below t.nodes k.1 l ∧ Above t k.1 up

def addrs : AssocNode (Ptr × κ) ν → List Ptr
  | .dummy => []
  | .node _ l k _ r => k.1 :: (addrs l ++ addrs r)

def upAddrs : List (AssocFrame (Ptr × κ) ν) → List Ptr
  | [] => []
  | .left _ k _ s :: up | .right _ s k _ :: up => k.1 :: (addrs s ++ upAddrs up)

/-- The sentinel is black, whatever its parent. -/
def Sentinel (t : RbLinks) : Prop :=
  ∃ parent, t.nodes dummy = some ⟨parent, null, null, .black⟩

/-- The parent that is written at an address, be it the sentinel's. -/
def ParentIs (t : RbLinks) (p parent : Ptr) : Prop :=
  ∃ n, t.nodes p = some n ∧ n.parent = parent

/-- A subtree and its ancestors are in memory. -/
structure Holds (t : RbLinks) (x : AssocNode (Ptr × κ) ν) (up : List (AssocFrame (Ptr × κ) ν)) :
    Prop where
  below : Below t.nodes (upPtr up) x
  above : Above t (ptr x) up
  apart : (dummy :: (addrs x ++ upAddrs up)).Nodup
  sentinel : Sentinel t

variable {t t' : RbLinks} {h h' : Heap NodeLinks} {d : Side} {c c' : AssocColor}
  {near far x s : AssocNode (Ptr × κ) ν} {k : Ptr × κ} {v : ν} {p q : Ptr} {rest : List Ptr}
  {up : List (AssocFrame (Ptr × κ) ν)}

@[simp] theorem ptr_dummy : ptr (.dummy : AssocNode (Ptr × κ) ν) = dummy := rfl

@[simp] theorem ptr_seen : ptr (seen d c near k v far) = k.1 := by
  cases d <;> rfl

@[simp] theorem upPtr_seen : upPtr (.seen d c k v s :: up) = k.1 := by
  cases d <;> rfl

theorem below_seen : Below h p (seen d c near k v far) ↔
    h k.1 = some (.seen d p (ptr near) (ptr far) c) ∧ Below h k.1 near ∧ Below h k.1 far := by
  cases d with
  | left => rfl
  | right => exact and_congr_right' and_comm

theorem above_seen : Above t p (.seen d c k v s :: up) ↔
    t.nodes k.1 = some (.seen d (upPtr up) p (ptr s) c) ∧ Below t.nodes k.1 s ∧
      Above t k.1 up := by
  cases d <;> rfl

theorem addrs_seen : (addrs (seen d c near k v far)).Perm (k.1 :: (addrs near ++ addrs far)) := by
  cases d with
  | left => exact .rfl
  | right => exact List.perm_append_comm.cons _

@[simp] theorem mem_addrs_seen :
    p ∈ addrs (seen d c near k v far) ↔ p = k.1 ∨ p ∈ addrs near ∨ p ∈ addrs far := by
  rw [addrs_seen.mem_iff, List.mem_cons, List.mem_append]

@[simp] theorem upAddrs_seen :
    upAddrs (.seen d c k v s :: up) = k.1 :: (addrs s ++ upAddrs up) := by
  cases d <;> rfl

theorem ptr_mem (full : x ≠ .dummy) : ptr x ∈ addrs x := by
  cases x with
  | dummy => exact absurd rfl full
  | node c l k v r => exact List.mem_cons_self

theorem ptr_ne_dummy (full : x ≠ .dummy) (proper : dummy ∉ addrs x) : ptr x ≠ dummy :=
  fun same => proper (same ▸ ptr_mem full)

/-- An address that is neither in a subtree nor the sentinel's is not the subtree's. -/
theorem ne_ptr (proper : p ≠ dummy) (free : p ∉ addrs x) : p ≠ ptr x := by
  rintro rfl
  by_cases full : x = .dummy
  · subst full
    exact proper rfl
  · exact free (ptr_mem full)

theorem Below.frame (below : Below h p x) (same : ∀ a ∈ addrs x, h' a = h a) : Below h' p x := by
  induction x generalizing p with
  | dummy => trivial
  | node c l k v r ihl ihr =>
      obtain ⟨here, left, right⟩ := below
      refine ⟨(same k.1 List.mem_cons_self).trans here, ihl left fun a mem => ?_,
        ihr right fun a mem => ?_⟩
      · exact same a (List.mem_cons_of_mem _ (List.mem_append_left _ mem))
      · exact same a (List.mem_cons_of_mem _ (List.mem_append_right _ mem))

theorem Above.frame (above : Above t p up) (same : ∀ a ∈ upAddrs up, t'.nodes a = t.nodes a)
    (root : t'.root = t.root) : Above t' p up := by
  induction up generalizing p with
  | nil => exact root.trans above
  | cons f up ih =>
      obtain ⟨d, c, k, v, s, rfl⟩ := f.exists_seen
      rw [above_seen] at above ⊢
      rw [upAddrs_seen] at same
      obtain ⟨here, sibling, more⟩ := above
      refine ⟨(same k.1 List.mem_cons_self).trans here, sibling.frame fun a mem => ?_,
        ih more fun a mem => ?_⟩
      · exact same a (List.mem_cons_of_mem _ (List.mem_append_left _ mem))
      · exact same a (List.mem_cons_of_mem _ (List.mem_append_right _ mem))

theorem Sentinel.frame (sentinel : Sentinel t) (same : t'.nodes dummy = t.nodes dummy) :
    Sentinel t' := by
  rw [Sentinel, same]
  exact sentinel

/-- Nothing changes for a subtree where its own addresses keep what they have. -/
theorem Holds.frame (holds : Holds t x up)
    (same : ∀ a ∈ dummy :: (addrs x ++ upAddrs up), t'.nodes a = t.nodes a)
    (root : t'.root = t.root) : Holds t' x up where
  below := holds.below.frame fun a mem =>
    same a (List.mem_cons_of_mem _ (List.mem_append_left _ mem))
  above := holds.above.frame (fun a mem =>
    same a (List.mem_cons_of_mem _ (List.mem_append_right _ mem))) root
  apart := holds.apart
  sentinel := holds.sentinel.frame (same dummy List.mem_cons_self)

/-- All addresses of a subtree are allocated. -/
theorem Below.allocated (below : Below h q x) (mem : p ∈ addrs x) : ∃ n, h p = some n := by
  induction x generalizing q with
  | dummy => cases mem
  | node c l k v r ihl ihr =>
      obtain ⟨here, left, right⟩ := below
      rcases List.mem_cons.mp mem with rfl | mem
      · exact ⟨_, here⟩
      · rcases List.mem_append.mp mem with inL | inR
        · exact ihl left inL
        · exact ihr right inR

theorem addrs_up : (addrs x ++ upAddrs (.seen d c k v s :: up)).Perm
    (addrs (seen d c x k v s) ++ upAddrs up) := by
  rw [upAddrs_seen]
  refine List.perm_middle.trans (.trans ?_ (addrs_seen.append_right _).symm)
  rw [List.cons_append, List.append_assoc]

theorem addrs_plug : (addrs x ++ upAddrs up).Perm (addrs (AssocNode.plug x up)) := by
  induction up generalizing x with
  | nil => simp [upAddrs, AssocNode.plug]
  | cons f up ih =>
      obtain ⟨d, c, k, v, s, rfl⟩ := f.exists_seen
      rw [AssocNode.plug_seen]
      exact addrs_up.trans ih

theorem upAddrs_append (inner outer : List (AssocFrame (Ptr × κ) ν)) :
    upAddrs (inner ++ outer) = upAddrs inner ++ upAddrs outer := by
  induction inner with
  | nil => rfl
  | cons f inner ih =>
      obtain ⟨d, c, k, v, s, rfl⟩ := f.exists_seen
      rw [List.cons_append, upAddrs_seen, upAddrs_seen, ih, List.cons_append, List.append_assoc]

theorem holds_seen : Holds t x (.seen d c k v s :: up) ↔ Holds t (seen d c x k v s) up := by
  constructor
  · intro holds
    obtain ⟨here, sibling, above⟩ := above_seen.mp holds.above
    have below := holds.below
    rw [upPtr_seen] at below
    refine ⟨below_seen.mpr ⟨here, below, sibling⟩, ?_, (addrs_up.cons _).nodup_iff.mp holds.apart,
      holds.sentinel⟩
    rw [ptr_seen]
    exact above
  · intro holds
    obtain ⟨here, below, sibling⟩ := below_seen.mp holds.below
    have above := holds.above
    rw [ptr_seen] at above
    refine ⟨?_, above_seen.mpr ⟨here, sibling, above⟩, (addrs_up.cons _).nodup_iff.mpr holds.apart,
      holds.sentinel⟩
    rw [upPtr_seen]
    exact below

theorem Holds.left_child {l r : AssocNode (Ptr × κ) ν} (holds : Holds t (.node c l k v r) up) :
    Holds t l (.left c k v r :: up) :=
  (holds_seen (d := .left)).mpr holds

theorem Holds.right_child {l r : AssocNode (Ptr × κ) ν} (holds : Holds t (.node c l k v r) up) :
    Holds t r (.right c l k v :: up) :=
  (holds_seen (d := .right)).mpr holds

theorem holds_plug : Holds t x up ↔ Holds t (AssocNode.plug x up) [] := by
  induction up generalizing x with
  | nil => rfl
  | cons f up ih =>
      obtain ⟨d, c, k, v, s, rfl⟩ := f.exists_seen
      rw [holds_seen, ih, AssocNode.plug_seen]

/-- The same tree from another of its nodes. -/
theorem Holds.refocus {y : AssocNode (Ptr × κ) ν} {up' : List (AssocFrame (Ptr × κ) ν)}
    (holds : Holds t x up) (same : AssocNode.plug x up = AssocNode.plug y up') : Holds t y up' := by
  rw [holds_plug, ← same, ← holds_plug]
  exact holds

theorem Holds.ptr_ne_dummy (holds : Holds t x up) (full : x ≠ .dummy) : ptr x ≠ dummy :=
  RbLinks.ptr_ne_dummy full fun mem =>
    (List.nodup_cons.mp holds.apart).1 (List.mem_append_left _ mem)

theorem load_ok {n : NodeLinks} (there : t.nodes p = some n) : t.load p = .ok n :=
  Heap.load_ok there

/-- A write changes what is at its address and nothing else. -/
theorem modify_ok {n n' : NodeLinks} (f : NodeLinks → NodeLinks) (there : t.nodes p = some n)
    (made : f n = n') :
    ∃ t', t.modify p f = .ok t' ∧ t'.nodes p = some n' ∧
      (∀ a, a ≠ p → t'.nodes a = t.nodes a) ∧ t'.root = t.root := by
  refine ⟨{ t with nodes := Function.update t.nodes p (some n') }, ?_, ?_, ?_, rfl⟩
  · rw [modify, Heap.modify_ok there, made]
    rfl
  · exact Function.update_self ..
  · intro a other
    exact Function.update_of_ne other ..

theorem Holds.load (holds : Holds t (seen d c near k v far) up) :
    t.load k.1 = .ok (.seen d (upPtr up) (ptr near) (ptr far) c) :=
  load_ok (below_seen.mp holds.below).1

/-- The colour at an address, be it the sentinel's. -/
theorem Holds.load_color (holds : Holds t x up) :
    ∃ n, t.load (ptr x) = .ok n ∧ n.color = x.color := by
  cases x with
  | dummy =>
      obtain ⟨parent, there⟩ := holds.sentinel
      exact ⟨_, load_ok there, rfl⟩
  | node c l k v r => exact ⟨_, load_ok holds.below.1, rfl⟩

/-- What is known of the addresses around a node. -/
theorem apart_seen : (dummy :: (addrs (seen d c near k v far) ++ rest)).Nodup ↔
    (dummy :: k.1 :: (addrs near ++ (addrs far ++ rest))).Nodup := by
  rw [((addrs_seen.append_right rest).cons dummy).nodup_iff, List.cons_append, List.append_assoc]

theorem Holds.paint (holds : Holds t (seen d c near k v far) up) (c' : AssocColor) :
    ∃ t', t.modify k.1 (·.setColor c') = .ok t' ∧ Holds t' (seen d c' near k v far) up ∧
      t'.nodes dummy = t.nodes dummy := by
  obtain ⟨here, below, other⟩ := below_seen.mp holds.below
  have apart := apart_seen.mp holds.apart
  have above := holds.above
  rw [ptr_seen] at above
  simp only [List.nodup_cons, List.mem_cons, List.mem_append, not_or] at apart
  obtain ⟨⟨noDummy, -⟩, ⟨noNear, noFar, noUp⟩, -⟩ := apart
  obtain ⟨t', painted, here', others, root⟩ :=
    modify_ok (·.setColor c') here NodeLinks.seen_setColor
  refine ⟨t', painted, ⟨below_seen.mpr ⟨here', ?_, ?_⟩, ?_, ?_, ?_⟩, others _ noDummy⟩
  · exact below.frame fun a mem => others a fun same => noNear (same ▸ mem)
  · exact other.frame fun a mem => others a fun same => noFar (same ▸ mem)
  · rw [ptr_seen]
    exact above.frame (fun a mem => others a fun same => noUp (same ▸ mem)) root
  · exact apart_seen.mpr (apart_seen.mp holds.apart)
  · exact holds.sentinel.frame (others _ noDummy)

/-- `v` takes the place of `u` below the ancestors of `u`. -/
theorem relink_ok {u w : Ptr} {n : NodeLinks} (there : t.nodes u = some n)
    (parent : n.parent = upPtr up) (above : Above t u up) (proper : u ≠ dummy)
    (apart : (dummy :: u :: upAddrs up).Nodup) :
    ∃ t', t.relink u w = .ok t' ∧ Above t' w up ∧ ∀ a, a ∉ upAddrs up → t'.nodes a = t.nodes a := by
  cases up with
  | nil =>
      refine ⟨{ t with root := w }, ?_, rfl, fun a _ => rfl⟩
      simp only [relink, load_ok there, ok_bind, parent, upPtr, if_true]
      rfl
  | cons f up =>
      obtain ⟨d, c, k, v, s, rfl⟩ := f.exists_seen
      obtain ⟨here, sibling, more⟩ := above_seen.mp above
      simp only [upAddrs_seen, List.nodup_cons, List.mem_cons, List.mem_append, not_or] at apart
      obtain ⟨⟨-, noDummy, -⟩, ⟨noK, noS, noUp⟩, ⟨kS, kUp⟩, -⟩ := apart
      obtain ⟨t', linked, here', others, root⟩ :=
        modify_ok (·.setChild d w) here NodeLinks.seen_setChild
      refine ⟨t', ?_, above_seen.mpr ⟨here', ?_, ?_⟩, fun a free => ?_⟩
      · rw [upPtr_seen] at parent
        simp only [relink, load_ok there, ok_bind, parent, load_ok here]
        rw [if_neg (Ne.symm noDummy)]
        cases d with
        | left => exact (if_pos rfl).trans linked
        | right =>
            exact (if_neg (ne_ptr proper noS)).trans linked
      · exact sibling.frame fun a mem => others a fun same => kS (same ▸ mem)
      · exact more.frame (fun a mem => others a fun same => kUp (same ▸ mem)) root
      · rw [upAddrs_seen] at free
        exact others a fun same => free (same ▸ List.mem_cons_self)

/-- A subtree gets another parent. -/
theorem Below.reparent (below : Below t.nodes q x) (full : x ≠ .dummy) (apart : (addrs x).Nodup)
    (p : Ptr) :
    ∃ t', t.modify (ptr x) (·.setParent p) = .ok t' ∧ Below t'.nodes p x ∧
      ParentIs t' (ptr x) p ∧ (∀ a, a ≠ ptr x → t'.nodes a = t.nodes a) ∧ t'.root = t.root := by
  cases x with
  | dummy => exact absurd rfl full
  | node c l k v r =>
      obtain ⟨here, left, right⟩ := below
      obtain ⟨noAddrs, -⟩ := List.nodup_cons.mp apart
      rw [List.mem_append, not_or] at noAddrs
      obtain ⟨t', goes, new, others, root⟩ := modify_ok (·.setParent p) here rfl
      refine ⟨t', goes, ⟨new, left.frame fun a mem => ?_, right.frame fun a mem => ?_⟩,
        ⟨_, new, rfl⟩, others, root⟩
      · exact others a fun same => noAddrs.1 (same ▸ mem)
      · exact others a fun same => noAddrs.2 (same ▸ mem)

theorem Below.adopt (below : Below t.nodes q x) (apart : (dummy :: addrs x).Nodup) (p : Ptr) :
    ∃ t', t.adopt (ptr x) p = .ok t' ∧ Below t'.nodes p x ∧
      (∀ a, a ∉ addrs x → t'.nodes a = t.nodes a) ∧ t'.root = t.root := by
  obtain ⟨noDummy, distinct⟩ := List.nodup_cons.mp apart
  by_cases full : x = .dummy
  · subst full
    exact ⟨t, if_neg (fun proper => proper rfl), trivial, fun a _ => rfl, rfl⟩
  · obtain ⟨t', goes, new, -, others, root⟩ := below.reparent full distinct p
    refine ⟨t', (if_pos (ptr_ne_dummy full noDummy)).trans goes, new, fun a free => ?_, root⟩
    exact others a fun same => free (same ▸ ptr_mem full)

/-- The sentinel gets another parent as well. -/
theorem Below.setParent (below : Below t.nodes q x) (apart : (dummy :: addrs x).Nodup)
    (sentinel : Sentinel t) (p : Ptr) :
    ∃ t', t.modify (ptr x) (·.setParent p) = .ok t' ∧ Below t'.nodes p x ∧ ParentIs t' (ptr x) p ∧
      (∀ a, a ≠ ptr x → t'.nodes a = t.nodes a) ∧ t'.root = t.root ∧ Sentinel t' := by
  obtain ⟨noDummy, distinct⟩ := List.nodup_cons.mp apart
  by_cases full : x = .dummy
  · subst full
    obtain ⟨parent, there⟩ := sentinel
    obtain ⟨t', goes, new, others, root⟩ := modify_ok (·.setParent p) there rfl
    exact ⟨t', goes, trivial, ⟨_, new, rfl⟩, others, root, p, new⟩
  · obtain ⟨t', goes, new, parent, others, root⟩ := below.reparent full distinct p
    have proper := ptr_ne_dummy full noDummy
    exact ⟨t', goes, new, parent, others, root, sentinel.frame (others dummy proper.symm)⟩

section Rotation

variable {xc yc : AssocColor} {xk yk : Ptr × κ} {xv yv : ν} {a b g : AssocNode (Ptr × κ) ν}

theorem nodup_addrs_seen : (addrs (seen d c near k v far)).Nodup ↔
    (k.1 :: (addrs near ++ addrs far)).Nodup :=
  addrs_seen.nodup_iff

theorem addrs_rotated : (addrs (seen d yc (seen d xc a xk xv b) yk yv g)).Perm
    (addrs (seen d xc a xk xv (seen d yc b yk yv g))) := by
  apply List.perm_iff_count.mpr
  intro p
  simp only [addrs_seen.count_eq, List.count_cons, List.count_append]
  omega

theorem Holds.rotate (holds : Holds t (seen d xc a xk xv (seen d yc b yk yv g)) up) :
    ∃ t', t.rotate d xk.1 = .ok t' ∧
      Holds t' (seen d yc (seen d xc a xk xv b) yk yv g) up ∧ t'.nodes dummy = t.nodes dummy := by
  obtain ⟨hereX, belowA, below⟩ := below_seen.mp holds.below
  obtain ⟨hereY, belowB, belowG⟩ := below_seen.mp below
  have above := holds.above
  have apart := apart_seen.mp holds.apart
  rw [ptr_seen] at above hereX
  simp only [List.nodup_cons, List.nodup_append, List.mem_cons, List.mem_append, mem_addrs_seen,
    nodup_addrs_seen, not_or] at apart
  obtain ⟨⟨noX, noA, ⟨noY, noB, noG⟩, noUp⟩, ⟨xA, ⟨xY, xB, xG⟩, xUp⟩, -,
    ⟨⟨⟨yB, yG⟩, distinctB, -, bG⟩, distinctUp, yUp⟩, aAll⟩ := apart
  obtain ⟨t1, go1, x1, others1, root1⟩ :=
    modify_ok (·.setChild d.other (ptr b)) hereX NodeLinks.seen_setChild_other
  have belowB1 : Below t1.nodes yk.1 b :=
    belowB.frame fun z mem => others1 z (ne_of_mem_of_not_mem mem xB)
  obtain ⟨t2, go2, belowB2, others2, root2⟩ :=
    belowB1.adopt (List.nodup_cons.mpr ⟨noB, distinctB⟩) xk.1
  have x2 := (others2 xk.1 xB).trans x1
  have y2 := (others2 yk.1 yB).trans ((others1 yk.1 (Ne.symm xY)).trans hereY)
  obtain ⟨t3, go3, y3, others3, root3⟩ :=
    modify_ok (·.setParent (upPtr up)) y2 NodeLinks.seen_setParent
  have x3 := (others3 xk.1 xY).trans x2
  have freeB {z : Ptr} (mem : z ∈ upAddrs up) : z ∉ addrs b :=
    fun mem' => yUp z (.inr (.inl mem')) z mem rfl
  have freeY : yk.1 ∉ upAddrs up := fun mem => yUp yk.1 (.inl rfl) yk.1 mem rfl
  have above3 : Above t3 xk.1 up := by
    refine above.frame (fun z mem => ?_) (by rw [root3, root2, root1])
    rw [others3 z (ne_of_mem_of_not_mem mem freeY), others2 z (freeB mem),
      others1 z (ne_of_mem_of_not_mem mem xUp)]
  obtain ⟨t4, go4, above4, others4⟩ := relink_ok (w := yk.1) x3 NodeLinks.seen_parent above3
    (Ne.symm noX) (by simp [noX, noUp, xUp, distinctUp])
  have y4 := (others4 yk.1 freeY).trans y3
  obtain ⟨t5, go5, y5, others5, root5⟩ :=
    modify_ok (·.setChild d xk.1) y4 NodeLinks.seen_setChild
  have x5 := (others5 xk.1 xY).trans ((others4 xk.1 xUp).trans x3)
  obtain ⟨t6, go6, x6, others6, root6⟩ :=
    modify_ok (·.setParent yk.1) x5 NodeLinks.seen_setParent
  have y6 := (others6 yk.1 (Ne.symm xY)).trans y5
  -- off the two nodes and their ancestors nothing changes after the inner subtree is adopted
  have later {z : Ptr} (neX : z ≠ xk.1) (neY : z ≠ yk.1) (free : z ∉ upAddrs up) :
      t6.nodes z = t2.nodes z := by
    rw [others6 z neX, others5 z neY, others4 z free, others3 z neY]
  have outer {z : Ptr} (neX : z ≠ xk.1) (neY : z ≠ yk.1) (free : z ∉ addrs b)
      (free' : z ∉ upAddrs up) : t6.nodes z = t.nodes z := by
    rw [later neX neY free', others2 z free, others1 z neX]
  refine ⟨t6, ?_, ⟨below_seen.mpr ⟨?_, below_seen.mpr ⟨?_, ?_, ?_⟩, ?_⟩, ?_, ?_, ?_⟩, ?_⟩
  · simp only [RbLinks.rotate, load_ok hereX, ok_bind, NodeLinks.seen_child_other,
      check_pass _ (Ne.symm noY), load_ok hereY, NodeLinks.seen_child, go1, go2, load_ok x2,
      NodeLinks.seen_parent, go3, go4, go5, go6]
  · rw [ptr_seen]
    exact y6
  · exact x6
  · refine belowA.frame fun z mem => outer (ne_of_mem_of_not_mem mem xA) ?_ ?_ ?_
    · exact aAll z mem yk.1 (.inl (.inl rfl))
    · exact fun mem' => aAll z mem z (.inl (.inr (.inl mem'))) rfl
    · exact fun mem' => aAll z mem z (.inr mem') rfl
  · refine belowB2.frame fun z mem => later (ne_of_mem_of_not_mem mem xB)
      (ne_of_mem_of_not_mem mem yB) fun mem' => freeB mem' mem
  · refine belowG.frame fun z mem => outer (ne_of_mem_of_not_mem mem xG)
      (ne_of_mem_of_not_mem mem yG) ?_ ?_
    · exact fun mem' => bG z mem' z mem rfl
    · exact fun mem' => yUp z (.inr (.inr mem)) z mem' rfl
  · rw [ptr_seen]
    refine above4.frame (fun z mem => ?_) (root6.trans root5)
    rw [others6 z (ne_of_mem_of_not_mem mem xUp), others5 z (ne_of_mem_of_not_mem mem freeY)]
  · exact ((addrs_rotated.append_right _).cons _).nodup_iff.mpr holds.apart
  · exact holds.sentinel.frame (outer noX noY noB noUp)
  · exact outer noX noY noB noUp

end Rotation

end RbLinks

end FlexRic
