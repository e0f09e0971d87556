import FlexRic.Util.AssocRbExtract

/-! # The container in memory

What the memory holds is a tree whose keys come with the addresses of their
nodes. Every operation on the memory goes through and does to that tree what the
operation on trees does.
-/

namespace FlexRic

namespace RbMemory

open RbLinks (Holds Below Above Sentinel ptr upPtr dummy null addrs upAddrs)
open AssocNode (Place before after)

variable {κ ν : Type} {o : Comparator κ} {tree tree' : RbMemory κ ν} {key : κ} {value : ν}
  {addr : Ptr} {t : RbLinks} {x : AssocNode (Ptr × κ) ν} {up : List (AssocFrame (Ptr × κ) ν)}

/-- Keys at addresses, in the order of the keys. -/
abbrev located (o : Comparator κ) : Comparator (Ptr × κ) := o.on Prod.snd

abbrev LocatedTree (o : Comparator κ) (ν : Type) := AssocRbTree (located o) ν

/-- The keys and values of these nodes are in memory. -/
def Keeps (h : Heap (κ × ν)) (entries : List ((Ptr × κ) × ν)) : Prop :=
  ∀ e ∈ entries, h e.1.1 = some (e.1.2, e.2)

theorem Keeps.sub {h : Heap (κ × ν)} {entries part : List ((Ptr × κ) × ν)} (keeps : Keeps h entries)
    (sub : part ⊆ entries) : Keeps h part :=
  fun e mem => keeps e (sub mem)

theorem Keeps.later {h : Heap (κ × ν)} {e : (Ptr × κ) × ν} {l r : List ((Ptr × κ) × ν)}
    (keeps : Keeps h (l ++ e :: r)) : Keeps h r :=
  (keeps.sub (List.subset_append_right ..)).sub (List.subset_cons_self ..)

/-- The container is this tree in memory. -/
structure Stores (tree : RbMemory κ ν) (t : LocatedTree o ν) : Prop where
  holds : Holds tree.links t.root []
  colored : t.root.Colored
  keeps : Keeps tree.entries t.toList
  size : tree.size = t.size
  distinct : t.Distinct

/-- The tree is in memory, whatever keys of it tie. -/
structure Laid (tree : RbMemory κ ν) (t : LocatedTree o ν) : Prop where
  holds : Holds tree.links t.root []
  keeps : Keeps tree.entries t.toList
  size : tree.size = t.size

theorem Stores.laid {t : LocatedTree o ν} (stores : tree.Stores t) : tree.Laid t :=
  ⟨stores.holds, stores.keeps, stores.size⟩

theorem entry_ok {p : Ptr} {e : κ × ν} (there : tree.entries p = some e) : tree.entry p = .ok e :=
  Heap.load_ok there

theorem addrs_toList (x : AssocNode (Ptr × κ) ν) :
    (addrs x).Perm (x.toList.map fun e => e.1.1) := by
  induction x with
  | dummy => rfl
  | node c l k v r ihl ihr =>
      rw [addrs, AssocNode.toList, List.map_append, List.map_cons]
      exact ((ihl.append ihr).cons k.1).trans List.perm_middle.symm

theorem mem_addrs {p : Ptr} : p ∈ addrs x ↔ ∃ e ∈ x.toList, e.1.1 = p := by
  rw [(addrs_toList x).mem_iff, List.mem_map]

/-- The descent to the leaf where a key goes. -/
theorem descend_ok {rounds : Nat} (holds : Holds tree.links x up)
    (keeps : Keeps tree.entries x.toList) (enough : x.toList.length < rounds) (addr : Ptr) :
    tree.descend o key rounds (ptr x) (upPtr up) =
      .ok (upPtr (AssocNode.insertPath (located o) (addr, key) x up)) := by
  induction x generalizing rounds up with
  | dummy =>
      obtain ⟨rounds, rfl⟩ := Nat.exists_eq_succ_of_ne_zero (Nat.ne_zero_of_lt enough)
      exact if_neg fun proper => proper rfl
  | node c l k v r ihl ihr =>
      obtain ⟨rounds, rfl⟩ := Nat.exists_eq_succ_of_ne_zero (Nat.ne_zero_of_lt enough)
      have proper := holds.ptr_ne_dummy (by intro here; cases here)
      have here : tree.entries (ptr (.node c l k v r)) = some (k.2, v) :=
        keeps (k, v) (List.mem_append_right _ List.mem_cons_self)
      have loaded : tree.links.load (ptr (.node c l k v r)) =
          .ok ⟨upPtr up, ptr l, ptr r, c⟩ := RbLinks.load_ok holds.below.1
      simp only [AssocNode.toList, List.length_append, List.length_cons] at enough
      simp only [descend, if_pos proper, entry_ok here, ok_bind, loaded,
        AssocNode.insertPath, Comparator.on]
      split
      · exact ihl holds.left_child
          (keeps.sub (List.subset_append_left ..)) (by omega)
      · exact ihr holds.right_child
          keeps.later (by omega)

/-- The iterator at a node that a search found, or the end. -/
def iterator : Option (Place (Ptr × κ) ν) → Ptr
  | none => dummy
  | some z => z.key.1

theorem findRbTree_ok {rounds : Nat} (holds : Holds tree.links x up)
    (keeps : Keeps tree.entries x.toList) (enough : x.toList.length < rounds) (addr : Ptr) :
    tree.findRbTree o key rounds (ptr x) =
      .ok (iterator (AssocNode.findRbTree (located o) (addr, key) x up)) := by
  induction x generalizing rounds up with
  | dummy =>
      obtain ⟨rounds, rfl⟩ := Nat.exists_eq_succ_of_ne_zero (Nat.ne_zero_of_lt enough)
      exact if_neg fun proper => proper rfl
  | node c l k v r ihl ihr =>
      obtain ⟨rounds, rfl⟩ := Nat.exists_eq_succ_of_ne_zero (Nat.ne_zero_of_lt enough)
      have proper := holds.ptr_ne_dummy (by intro here; cases here)
      have here : tree.entries (ptr (.node c l k v r)) = some (k.2, v) :=
        keeps (k, v) (List.mem_append_right _ List.mem_cons_self)
      have loaded : tree.links.load (ptr (.node c l k v r)) =
          .ok ⟨upPtr up, ptr l, ptr r, c⟩ := RbLinks.load_ok holds.below.1
      simp only [AssocNode.toList, List.length_append, List.length_cons] at enough
      simp only [findRbTree, if_pos proper, entry_ok here, ok_bind, loaded,
        AssocNode.findRbTree, Comparator.on]
      split
      · exact ihl holds.left_child
          (keeps.sub (List.subset_append_left ..)) (by omega)
      · rename_i notLeft
        split
        · exact ihr holds.right_child
            keeps.later (by omega)
        · rename_i notRight
          have tie : o.cmp key k.2 = 0 := by
            have range := o.range key k.2
            omega
          rw [check_pass _ tie]
          rfl

theorem insertPath_side {d : Side} {c : AssocColor} {k : Ptr × κ} {v : ν}
    {s : AssocNode (Ptr × κ) ν} {up' : List (AssocFrame (Ptr × κ) ν)} (full : x ≠ .dummy)
    (path : AssocNode.insertPath (located o) (addr, key) x up = .seen d c k v s :: up') :
    d = .left ↔ o.cmp key k.2 = 1 := by
  induction x generalizing up with
  | dummy => exact absurd rfl full
  | node xc l xk xv r ihl ihr =>
      simp only [AssocNode.insertPath, Comparator.on] at path
      split at path
      · rename_i less
        by_cases fullL : l = .dummy
        · subst fullL
          cases d <;> cases path
          exact iff_of_true rfl less
        · exact ihl fullL path
      · rename_i notLess
        by_cases fullR : r = .dummy
        · subst fullR
          cases d <;> cases path
          exact iff_of_false (by intro here; cases here) notLess
        · exact ihr fullR path

theorem insertPath_root_side {d : Side} {c : AssocColor} {k : Ptr × κ} {v : ν}
    {s : AssocNode (Ptr × κ) ν} {up' : List (AssocFrame (Ptr × κ) ν)}
    (path : AssocNode.insertPath (located o) (addr, key) x [] = .seen d c k v s :: up') :
    d = .left ↔ o.cmp key k.2 = 1 := by
  apply insertPath_side _ path
  rintro rfl
  cases path

/-- A new node gets its place below the leaf's ancestors. -/
theorem link_ok (here : tree.links.nodes addr = some ⟨upPtr up, dummy, dummy, .red⟩)
    (above : Above tree.links dummy up) (sentinel : Sentinel tree.links)
    (apart : (dummy :: addr :: upAddrs up).Nodup)
    (keeps : Keeps tree.entries (before up ++ after up))
    (side : ∀ {d c k v s up'}, up = .seen d c k v s :: up' → (d = .left ↔ o.cmp key k.2 = 1)) :
    ∃ t', tree.link o addr (upPtr up) key = .ok t' ∧
      Holds t' (.node .red .dummy (addr, key) value .dummy) up := by
  have whole : (dummy :: (addrs (.node .red .dummy (addr, key) value .dummy) ++
      upAddrs up)).Nodup := apart
  cases up with
  | nil =>
      have root : Holds { tree.links with root := addr }
          (.node .red .dummy (addr, key) value .dummy) [] :=
        ⟨⟨here, trivial, trivial⟩, rfl, whole, sentinel⟩
      exact ⟨_, if_pos rfl, root⟩
  | cons f up =>
      obtain ⟨d, c, k, v, s, rfl⟩ := f.exists_seen
      obtain ⟨hereK, sibling, more⟩ := RbLinks.above_seen.mp above
      simp only [RbLinks.upAddrs_seen, List.nodup_cons, List.mem_cons, List.mem_append, not_or]
        at apart
      obtain ⟨⟨noAddr, noK, -⟩, ⟨addrK, addrS, addrUp⟩, ⟨kS, kUp⟩, -⟩ := apart
      have stored : tree.entries k.1 = some (k.2, v) := by
        refine keeps (k, v) ?_
        cases d with
        | left => exact List.mem_append_right _ List.mem_cons_self
        | right => exact List.mem_append_left _ (List.mem_append_right _ List.mem_cons_self)
      obtain ⟨t', linked, here', others, root⟩ :=
        RbLinks.modify_ok (·.setChild d addr) hereK NodeLinks.seen_setChild
      refine ⟨t', ?_, ⟨?_, trivial, trivial⟩, RbLinks.above_seen.mpr ⟨here', ?_, ?_⟩, whole, ?_⟩
      · have proper : k.1 ≠ dummy := Ne.symm noK
        rw [RbLinks.upPtr_seen]
        simp only [link, if_neg proper, entry_ok stored, ok_bind]
        cases d with
        | left =>
            rw [if_pos ((side rfl).mp rfl)]
            exact linked
        | right =>
            rw [if_neg fun less => nomatch (side rfl).mpr less]
            exact linked
      · exact (others addr addrK).trans here
      · exact sibling.frame fun a mem => others a (ne_of_mem_of_not_mem mem kS)
      · exact more.frame (fun a mem => others a (ne_of_mem_of_not_mem mem kUp)) root
      · exact sentinel.frame (others dummy noK)

/-- The new node is red, and is linked to its parent and from it. -/
theorem attach_ok (holds : Holds tree.links .dummy up)
    (there : tree.links.nodes addr = some ⟨dummy, dummy, dummy, .red⟩) (proper : addr ≠ dummy)
    (free : addr ∉ upAddrs up) (keeps : Keeps tree.entries (before up ++ after up))
    (side : ∀ {d c k v s up'}, up = .seen d c k v s :: up' → (d = .left ↔ o.cmp key k.2 = 1))
    (value : ν) :
    ∃ t1 t2, tree.links.modify addr (·.setParent (upPtr up)) = .ok t1 ∧
      link o { tree with links := t1 } addr (upPtr up) key = .ok t2 ∧
      Holds t2 (.node .red .dummy (addr, key) value .dummy) up := by
  obtain ⟨noDummy, distinct⟩ := List.nodup_cons.mp holds.apart
  obtain ⟨t1, goes, here, others, root⟩ := RbLinks.modify_ok (·.setParent (upPtr up)) there rfl
  have above : Above t1 dummy up :=
    holds.above.frame (fun a mem => others a (ne_of_mem_of_not_mem mem free)) root
  have apart : (dummy :: addr :: upAddrs up).Nodup :=
    List.nodup_cons.mpr ⟨fun mem => (List.mem_cons.mp mem).elim (proper ·.symm) noDummy,
      List.nodup_cons.mpr ⟨free, distinct⟩⟩
  have linked : ∃ t2, link o { tree with links := t1 } addr (upPtr up) key = .ok t2 ∧
      Holds t2 (.node .red .dummy (addr, key) value .dummy) up :=
    link_ok here above (holds.sentinel.frame (others dummy proper.symm)) apart keeps side
  obtain ⟨t2, linked, holds2⟩ := linked
  exact ⟨t1, t2, goes, linked, holds2⟩

/-- The address of a node that is to come. -/
def Fresh (tree : RbMemory κ ν) (addr : Ptr) : Prop :=
  addr ≠ null ∧ tree.links.nodes addr = none

theorem Laid.enough {t : LocatedTree o ν} (laid : tree.Laid t) :
    t.root.toList.length < tree.rounds := by
  rw [← t.counted, ← laid.size, rounds]
  omega

theorem Stores.enough {t : LocatedTree o ν} (stores : tree.Stores t) :
    t.root.toList.length < tree.rounds :=
  stores.laid.enough

/-- A leaf has no more ancestors than the tree has nodes. -/
theorem Stores.length_up {t : LocatedTree o ν} (stores : tree.Stores t)
    (around : AssocNode.plug x up = t.root) : up.length + 1 ≤ tree.rounds := by
  have enough := stores.enough
  have few := RbLinks.length_up up
  rw [← around, AssocNode.toList_plug, List.length_append, List.length_append] at enough
  omega

/-- A red node fits where a leaf is. -/
theorem Stores.hole {t : LocatedTree o ν} (stores : tree.Stores t)
    (around : AssocNode.plug .dummy up = t.root) :
    ∃ n, AssocNode.RedBlack (.node .red .dummy (addr, key) value .dummy) n ∧
      AssocNode.Hole up n := by
  obtain ⟨black, m, rb⟩ := stores.colored
  rw [← around] at rb black
  obtain ⟨n, leaf, hole, -⟩ := rb.unplug black
  exact ⟨n, (AssocNode.redBlack_red (d := .left)).mpr ⟨⟨rfl, rfl⟩, leaf, leaf⟩, hole⟩

theorem Fresh.proper (fresh : tree.Fresh addr) (sentinel : Sentinel tree.links) :
    addr ≠ dummy := by
  rintro rfl
  obtain ⟨parent, there⟩ := sentinel
  cases fresh.2.symm.trans there

theorem Fresh.free {p : Ptr} (fresh : tree.Fresh addr) (below : Below tree.links.nodes p x) :
    addr ∉ addrs x := by
  intro mem
  obtain ⟨n, there⟩ := below.allocated mem
  cases fresh.2.symm.trans there

/-- A node that is created beside the tree leaves the tree as it is. -/
theorem Stores.create {t : LocatedTree o ν} (stores : tree.Stores t) (fresh : tree.Fresh addr)
    (key : κ) (value : ν) :
    Holds (tree.createNode addr key value).links t.root [] ∧
      Keeps (tree.createNode addr key value).entries (((addr, key), value) :: t.toList) := by
  have proper := fresh.proper stores.holds.sentinel
  have free := fresh.free stores.holds.below
  constructor
  · refine stores.holds.frame (fun a mem => Function.update_of_ne ?_ ..) rfl
    rintro rfl
    simp [upAddrs, proper, free] at mem
  · intro e mem
    rcases List.mem_cons.mp mem with rfl | old
    · exact Function.update_self ..
    · refine (Function.update_of_ne ?_ ..).trans (stores.keeps e old)
      rintro rfl
      exact free (mem_addrs.mpr ⟨e, old, rfl⟩)

theorem Stores.insert {t : LocatedTree o ν} (stores : tree.Stores t)
    (fresh : tree.Fresh addr) (new : ∀ e ∈ t.toList, ¬o.Ties key e.1.2) (value : ν) :
    ∃ tree', tree.insert o addr key value = .ok tree' ∧
      tree'.Stores (t.insert (addr, key) value) := by
  have proper := fresh.proper stores.holds.sentinel
  have free := fresh.free stores.holds.below
  obtain ⟨holds0, keeps0⟩ := stores.create fresh key value
  have around : AssocNode.plug .dummy (AssocNode.insertPath (located o) (addr, key) t.root []) =
      t.root := AssocNode.plug_insertPath (located o) (addr, key) t.root []
  have side {d c k v s up'} (path : AssocNode.insertPath (located o) (addr, key) t.root [] =
      .seen d c k v s :: up') : d = .left ↔ o.cmp key k.2 = 1 := insertPath_root_side path
  have descended : (tree.createNode addr key value).descend o key tree.rounds tree.links.root
      dummy = .ok (upPtr (AssocNode.insertPath (located o) (addr, key) t.root [])) := by
    have root : tree.links.root = ptr t.root := stores.holds.above
    rw [root]
    exact descend_ok holds0 (keeps0.sub (List.subset_cons_self ..)) stores.enough addr
  generalize path : AssocNode.insertPath (located o) (addr, key) t.root [] = up
    at around descended side
  have listed := congrArg AssocNode.toList around
  rw [AssocNode.toList_plug, AssocNode.toList, List.append_nil] at listed
  have freeUp : addr ∉ upAddrs up := by
    intro mem
    apply free
    rw [← around]
    exact RbLinks.addrs_plug.mem_iff.mp (List.mem_append_right _ mem)
  have keepsUp : Keeps (tree.createNode addr key value).entries (before up ++ after up) := by
    rw [listed]
    exact keeps0.sub (List.subset_cons_self ..)
  obtain ⟨t1, t2, written, linked, holds2⟩ := attach_ok (holds0.refocus around.symm)
    (Function.update_self ..) proper freeUp keepsUp side value
  obtain ⟨n, rb, hole⟩ := stores.hole around
  obtain ⟨t3, fixed, holds3⟩ := RbLinks.insertFixup_ok holds2 rfl rb hole (stores.length_up around)
  have result : (t.insert (addr, key) value).root =
      AssocNode.insertFixup (.node .red .dummy (addr, key) value .dummy) up := by
    rw [← path]
    rfl
  refine ⟨{ tree.createNode addr key value with links := t3, size := tree.size + 1 }, ?_,
    ⟨?_, ?_, ?_, ?_, ?_⟩⟩
  · have descended' : (tree.createNode addr key value).descend o key
        (tree.createNode addr key value).rounds (tree.createNode addr key value).links.root dummy =
        .ok (upPtr up) := descended
    have fixed' : t2.insertFixup (tree.createNode addr key value).rounds addr = .ok t3 := fixed
    simp only [RbMemory.insert, check_pass _ proper, ok_bind, descended', written, linked, fixed']
    rfl
  · rw [result]
    exact holds3
  · rw [result]
    exact AssocNode.colored_insertFixup rfl rb hole
  · exact keeps0.sub (t.insert_perm (addr, key) value).subset
  · exact congrArg (· + 1) stores.size
  · exact AssocRbTree.distinct_insert.mpr ⟨new, stores.distinct⟩

/-- A place in the tree is a node in memory. -/
structure Stores.At (tree : RbMemory κ ν) (z : Place (Ptr × κ) ν) : Prop where
  holds : Holds tree.links (.node z.color z.left z.key z.value z.right) z.up
  stored : tree.entries z.key.1 = some (z.key.2, z.value)

theorem Laid.at_ {t : LocatedTree o ν} {z : Place (Ptr × κ) ν} (laid : tree.Laid t)
    (inside : z.whole = t.root) : Stores.At tree z where
  holds := laid.holds.refocus inside.symm
  stored := by
    refine laid.keeps (z.key, z.value) ?_
    rw [AssocRbTree.toList, ← inside, Place.whole, AssocNode.toList_plug, AssocNode.toList]
    simp

theorem Stores.at_ {t : LocatedTree o ν} {z : Place (Ptr × κ) ν} (stores : tree.Stores t)
    (inside : z.whole = t.root) : Stores.At tree z :=
  stores.laid.at_ inside

theorem Stores.find {t : LocatedTree o ν} (stores : tree.Stores t) (key : κ) :
    tree.findRbTree o key tree.rounds tree.links.root =
      .ok (iterator (AssocNode.findRbTree (located o) (dummy, key) t.root [])) := by
  have root : tree.links.root = ptr t.root := stores.holds.above
  rw [root]
  exact findRbTree_ok stores.holds stores.keeps stores.enough dummy

/-- A search returns what the search in the tree finds. -/
theorem Stores.find_value {t : LocatedTree o ν} (stores : tree.Stores t) (key : κ) :
    tree.find o key = .ok (t.find (dummy, key)) := by
  rw [RbMemory.find, stores.find key, ok_bind, AssocRbTree.find]
  cases found : AssocNode.findRbTree (located o) (dummy, key) t.root [] with
  | none => exact if_pos rfl
  | some z =>
      have here := stores.at_ (AssocNode.whole_findRbTree found)
      have proper : z.key.1 ≠ dummy := here.holds.ptr_ne_dummy (by intro here; cases here)
      have read : tree.value z.key.1 = .ok z.value := by
        simp only [RbMemory.value, check_pass _ proper, ok_bind, entry_ok here.stored]
        rfl
      exact (if_neg proper).trans (bind_eq_ok.mpr ⟨_, read, rfl⟩)

theorem Stores.extract {t : LocatedTree o ν} {z : Place (Ptr × κ) ν}
    (stores : tree.Stores t)
    (found : AssocNode.findRbTree (located o) (dummy, key) t.root [] = some z) :
    ∃ (tree' : RbMemory κ ν) (t' : LocatedTree o ν), tree.extract o key = .ok (z.value, tree') ∧
      tree'.Stores t' ∧ t.toList.Perm ((z.key, z.value) :: t'.toList) := by
  have inside : z.whole = t.root := AssocNode.whole_findRbTree found
  have here := stores.at_ inside
  have enough := stores.enough
  have colored := stores.colored
  rw [← inside] at enough colored
  obtain ⟨t1, taken, holds1⟩ := RbLinks.extractNode_ok here.holds colored enough
  obtain ⟨t', -, root, perm⟩ := AssocRbTree.extract_at found
  have proper : z.key.1 ≠ dummy := here.holds.ptr_ne_dummy (by intro here; cases here)
  have gone : z.key.1 ∉ t'.toList.map fun e => e.1.1 := by
    have distinct := stores.holds.apart.of_cons.of_append_left
    rw [(addrs_toList t.root).nodup_iff] at distinct
    have listed := (perm.map fun e => e.1.1).nodup_iff.mp distinct
    exact (List.nodup_cons.mp listed).1
  have size : tree.size = t'.size + 1 := by
    rw [stores.size, t.size_eq, t'.size_eq, perm.length_eq, List.length_cons]
  refine ⟨{
      links := { t1 with nodes := Function.update t1.nodes z.key.1 none }
      entries := Function.update tree.entries z.key.1 none
      size := tree.size - 1 }, t', ?_, ⟨?_, ?_, ?_, ?_, ?_⟩, perm⟩
  · have at_ : tree.findRbTree o key tree.rounds tree.links.root = .ok z.key.1 := by
      rw [stores.find key, found]
      rfl
    have some : tree.size ≠ 0 := by omega
    simp only [RbMemory.extract, at_, ok_bind, check_pass _ proper, taken, entry_ok here.stored,
      check_pass _ some]
    rfl
  · rw [root]
    refine holds1.frame (fun a mem => Function.update_of_ne ?_ ..) rfl
    rintro rfl
    rw [← root, upAddrs, List.append_nil] at mem
    rcases List.mem_cons.mp mem with same | inside
    · exact proper same
    · exact gone ((addrs_toList t'.root).mem_iff.mp inside)
  · rw [root]
    exact AssocNode.colored_extractNode colored
  · intro e mem
    refine (Function.update_of_ne ?_ ..).trans (stores.keeps e ?_)
    · intro same
      exact gone (same ▸ List.mem_map_of_mem mem)
    · exact perm.mem_iff.mpr (List.mem_cons_of_mem _ mem)
  · exact (congrArg (· - 1) size).trans (Nat.add_sub_cancel t'.size 1)
  · exact (List.pairwise_cons.mp ((AssocRbTree.distinct_of_perm perm).mp stores.distinct)).2

/-- The iterator from which on these entries of a tree are left to be visited. -/
inductive IterAt (root : AssocNode (Ptr × κ) ν) : List ((Ptr × κ) × ν) → Ptr → Prop where
  | stop : IterAt root [] dummy
  | node (z : Place (Ptr × κ) ν) (inside : z.whole = root) :
      IterAt root ((z.key, z.value) :: (z.right.toList ++ after z.up)) z.key.1

theorem minimum_iter {rounds : Nat} {c : AssocColor} {l r : AssocNode (Ptr × κ) ν} {k : Ptr × κ}
    {v : ν} (holds : Holds t (.node c l k v r) up) (enough : l.toList.length < rounds) :
    ∃ p, t.minimum rounds k.1 = .ok p ∧
      IterAt (.plug (.node c l k v r) up) (l.toList ++ (k, v) :: r.toList ++ after up) p := by
  obtain ⟨-, whole⟩ := AssocNode.whole_minimum c l k v r up
  obtain ⟨-, listed⟩ := AssocNode.minimum_spec c l k v r up
  refine ⟨_, RbLinks.minimum_ok holds enough, ?_⟩
  rw [← listed]
  exact .node _ whole

/-- The climb ends at the first ancestor that the node is left of. -/
theorem climb_ok {rounds : Nat} (holds : Holds tree.links x up) (full : x ≠ .dummy)
    (enough : up.length < rounds) :
    ∃ p, tree.climb rounds (ptr x) (upPtr up) = .ok p ∧ IterAt (.plug x up) (after up) p := by
  induction up generalizing x rounds with
  | nil =>
      obtain ⟨rounds, rfl⟩ := Nat.exists_eq_succ_of_ne_zero (Nat.ne_zero_of_lt enough)
      exact ⟨dummy, if_neg fun proper => proper rfl, .stop⟩
  | cons f up ih =>
      obtain ⟨rounds, rfl⟩ := Nat.exists_eq_succ_of_ne_zero (Nat.ne_zero_of_lt enough)
      rw [List.length_cons] at enough
      obtain ⟨d, c, k, v, s, rfl⟩ := f.exists_seen
      have atParent := RbLinks.holds_seen.mp holds
      have proper : k.1 ≠ dummy := by
        have top := atParent.ptr_ne_dummy (by cases d <;> (intro here; cases here))
        rwa [RbLinks.ptr_seen] at top
      simp only [climb, RbLinks.upPtr_seen, if_pos proper, atParent.load, ok_bind]
      cases d with
      | left =>
          refine ⟨k.1, if_neg fun other => other rfl, ?_⟩
          exact .node ⟨c, x, k, v, s, up⟩ rfl
      | right =>
          have other : ptr s ≠ ptr x := (atParent.ptr_ne full).symm
          obtain ⟨p, climbed, iter⟩ := ih atParent (by intro here; cases here)
            (Nat.lt_of_succ_lt_succ enough)
          refine ⟨p, (if_pos other).trans ?_, iter⟩
          exact climbed

theorem front_ok {t : LocatedTree o ν} (laid : tree.Laid t) :
    ∃ p, tree.front = .ok p ∧ IterAt t.root t.toList p := by
  have root : tree.links.root = ptr t.root := laid.holds.above
  have enough := laid.enough
  have holds := laid.holds
  rw [front, root, AssocRbTree.toList]
  cases whole : t.root with
  | dummy => exact ⟨dummy, if_pos rfl, .stop⟩
  | node c l k v r =>
      rw [whole, AssocNode.toList, List.length_append] at enough
      rw [whole] at holds
      obtain ⟨p, found, iter⟩ := minimum_iter holds (show l.toList.length < tree.rounds by omega)
      rw [after, List.append_nil] at iter
      exact ⟨p, found, iter⟩

theorem next_ok {t : LocatedTree o ν} {z : Place (Ptr × κ) ν} (laid : tree.Laid t)
    (inside : z.whole = t.root) :
    ∃ p, tree.next z.key.1 = .ok p ∧ IterAt t.root (z.right.toList ++ after z.up) p := by
  have holds := (laid.at_ inside).holds
  have enough := laid.enough
  have proper : z.key.1 ≠ dummy := holds.ptr_ne_dummy (by intro here; cases here)
  have loaded := RbLinks.load_ok holds.below.1
  have few := RbLinks.length_up z.up
  rw [← inside, Place.whole, AssocNode.toList_plug, AssocNode.toList] at enough
  simp only [List.length_append, List.length_cons] at enough
  simp only [next, check_pass _ proper, ok_bind, loaded, ← inside]
  cases right : z.right with
  | dummy =>
      obtain ⟨p, climbed, iter⟩ := climb_ok holds (by intro here; cases here)
        (show z.up.length < tree.rounds by omega)
      exact ⟨p, (if_neg fun other => other rfl).trans climbed, by rwa [Place.whole]⟩
  | node rc rl rk rv rr =>
      rw [right] at holds enough
      have atRight := holds.right_child
      have short : rl.toList.length < tree.rounds := by
        rw [AssocNode.toList, List.length_append, List.length_cons] at enough
        omega
      obtain ⟨p, found, iter⟩ := minimum_iter atRight short
      have there : ptr (.node rc rl rk rv rr) ≠ dummy :=
        atRight.ptr_ne_dummy (by intro here; cases here)
      refine ⟨p, (if_pos there).trans found, ?_⟩
      rw [Place.whole, right]
      exact iter

/-- From an iterator on, the loop meets the entries that are left. -/
theorem walkFrom_ok {t : LocatedTree o ν} {rest : List ((Ptr × κ) × ν)} {p : Ptr} {rounds : Nat}
    (laid : tree.Laid t) (iter : IterAt t.root rest p) (enough : rest.length < rounds) :
    tree.walkFrom rounds p = .ok (rest.map fun e => (e.1.2, e.2)) := by
  induction rounds generalizing rest p with
  | zero => omega
  | succ rounds ih =>
      cases iter with
      | stop => exact if_neg fun more => more rfl
      | node z inside =>
          have here := laid.at_ inside
          have proper : z.key.1 ≠ dummy := here.holds.ptr_ne_dummy (by intro here; cases here)
          have more : z.key.1 ≠ tree.endIter := proper
          obtain ⟨p, next, iter⟩ := next_ok laid inside
          rw [List.length_cons] at enough
          simp only [walkFrom, if_pos more, RbMemory.key, RbMemory.value, check_pass _ proper,
            entry_ok here.stored, ok_bind, pure_bind, next, ih iter (Nat.lt_of_succ_lt_succ enough)]
          rfl

theorem walk_ok {t : LocatedTree o ν} (stores : tree.Stores t) :
    tree.walk = .ok (t.toList.map fun e => (e.1.2, e.2)) := by
  obtain ⟨p, front, iter⟩ := front_ok stores.laid
  exact bind_eq_ok.mpr ⟨p, front, walkFrom_ok stores.laid iter stores.enough⟩

end RbMemory

end FlexRic
