import FlexRic.Util.AssocRbFixups

/-! # Extraction in memory

A node with at most one child is replaced by it. Otherwise its successor leaves
its own place to its right child and takes over the place, the colour and both
subtrees of the node.
-/

namespace FlexRic

namespace RbLinks

open AssocNode (Gap Place closeGap)

variable {κ ν : Type} {t t' : RbLinks} {c : AssocColor} {k : Ptr × κ} {v : ν} {p q u : Ptr}
  {x y l r : AssocNode (Ptr × κ) ν} {up : List (AssocFrame (Ptr × κ) ν)}

/-- A subtree from elsewhere takes the place of a node. -/
theorem transplant_ok {m : NodeLinks} (there : t.nodes u = some m) (parent : m.parent = upPtr up)
    (above : Above t u up) (below : Below t.nodes q y) (sentinel : Sentinel t)
    (apart : (dummy :: u :: (addrs y ++ upAddrs up)).Nodup) :
    ∃ t', t.transplant u (ptr y) = .ok t' ∧ Below t'.nodes (upPtr up) y ∧ Above t' (ptr y) up ∧
      ParentIs t' (ptr y) (upPtr up) ∧ Sentinel t' ∧
      ∀ a, a ≠ ptr y → a ∉ upAddrs up → t'.nodes a = t.nodes a := by
  simp only [List.nodup_cons, List.mem_cons, List.mem_append, not_or, List.nodup_append] at apart
  obtain ⟨⟨noU, noY, noUp⟩, ⟨uY, uUp⟩, distinctY, distinctUp, disjoint⟩ := apart
  obtain ⟨t1, linked, above1, others1⟩ := relink_ok (w := ptr y) there parent above (Ne.symm noU)
    (by simp [noU, noUp, uUp, distinctUp])
  have below1 : Below t1.nodes q y :=
    below.frame fun a mem => others1 a fun mem' => disjoint a mem a mem' rfl
  have sentinel1 : Sentinel t1 := sentinel.frame (others1 dummy noUp)
  obtain ⟨t2, written, below2, parent2, others2, root2, sentinel2⟩ :=
    below1.setParent (List.nodup_cons.mpr ⟨noY, distinctY⟩) sentinel1 (upPtr up)
  have apartPtr {a : Ptr} (mem : a ∈ upAddrs up) : a ≠ ptr y :=
    ne_ptr (fun same => noUp (same ▸ mem)) fun mem' => disjoint a mem' a mem rfl
  refine ⟨t2, ?_, below2, above1.frame (fun a mem => others2 a (apartPtr mem)) root2, parent2,
    sentinel2, fun a other free => (others2 a other).trans (others1 a free)⟩
  simp only [transplant, check_pass _ (Ne.symm noU), ok_bind, linked,
    load_ok ((others1 u uUp).trans there), parent, written]

/-- The only child of a node takes its place. -/
theorem Holds.transplant {d : Side} (holds : Holds t (.seen d c .dummy k v y) up) :
    ∃ t', t.transplant k.1 (ptr y) = .ok t' ∧ Holds t' y up ∧ Hung t' y (upPtr up) ∧
      t'.nodes k.1 = t.nodes k.1 := by
  obtain ⟨here, -, below⟩ := below_seen.mp holds.below
  have above := holds.above
  have apart := apart_seen.mp holds.apart
  rw [ptr_seen] at above
  obtain ⟨t', goes, below', above', parent, sentinel, others⟩ :=
    transplant_ok here NodeLinks.seen_parent above below holds.sentinel apart
  refine ⟨t', goes, ⟨below', above', ?_, sentinel⟩, fun isDummy => ?_, ?_⟩
  · exact apart.sublist ((List.sublist_cons_self _ _).cons_cons _)
  · subst isDummy
    exact parent
  · simp only [List.nodup_cons, List.mem_cons, List.mem_append, not_or] at apart
    obtain ⟨⟨noK, -⟩, ⟨-, kY, kUp⟩, -⟩ := apart
    exact others k.1 (ne_ptr (Ne.symm noK) kY) kUp

/-- The successor `y` of a node `z` has left its place, and what is to be its right
    subtree is below it. -/
structure Detached (t : RbLinks) (z y : Ptr) (zc : AssocColor) (l r : AssocNode (Ptr × κ) ν)
    (up : List (AssocFrame (Ptr × κ) ν)) : Prop where
  node : ∃ right, t.nodes z = some ⟨upPtr up, ptr l, right, zc⟩
  left : Below t.nodes z l
  above : Above t z up
  successor : ∃ q yc, t.nodes y = some ⟨q, dummy, ptr r, yc⟩
  right : Below t.nodes y r
  apart : (dummy :: z :: y :: (addrs l ++ (addrs r ++ upAddrs up))).Nodup
  sentinel : Sentinel t

theorem Detached.replace {z : Ptr} {yk : Ptr × κ} {zc : AssocColor}
    (det : Detached t z yk.1 zc l r up) (full : l ≠ .dummy) (yv : ν) :
    ∃ t', t.replace z yk.1 = .ok t' ∧ Holds t' (.node zc l yk yv r) up ∧
      t'.nodes dummy = t.nodes dummy := by
  obtain ⟨⟨right, hereZ⟩, belowL, above, ⟨q, yc, hereY⟩, belowR, apart, sentinel⟩ := det
  have belowY : Below t.nodes q (.node yc .dummy yk yv r) := ⟨hereY, trivial, belowR⟩
  have apartY : (dummy :: z :: (addrs (.node yc .dummy yk yv r) ++ upAddrs up)).Nodup := by
    refine apart.sublist (.cons_cons _ (.cons_cons _ (.cons_cons _ ?_)))
    exact List.sublist_append_right _ _
  obtain ⟨t1, moved, below1, above1, -, sentinel1, others1⟩ :=
    transplant_ok hereZ rfl above belowY sentinel apartY
  obtain ⟨y1, -, right1⟩ := below1
  have apartZ : (dummy :: yk.1 :: (addrs l ++ (addrs r ++ upAddrs up))).Nodup :=
    apart.sublist (.cons_cons _ (List.sublist_cons_self _ _))
  simp only [List.nodup_cons, List.mem_cons, List.mem_append, not_or, List.nodup_append] at apart
  obtain ⟨⟨noZ, noY, noL, noR, noUp⟩, ⟨zY, zL, zR, zUp⟩, ⟨yL, yR, yUp⟩, distinctL, -, lAll⟩ := apart
  have ptrL := ptr_mem full
  have z1 := (others1 z zY zUp).trans hereZ
  have left1 : Below t1.nodes z l := by
    refine belowL.frame fun a mem => others1 a (ne_of_mem_of_not_mem mem yL) ?_
    exact fun mem' => lAll a mem a (.inr mem') rfl
  obtain ⟨t2, go2, y2, others2, root2⟩ := modify_ok (·.setChild .left (ptr l)) y1 rfl
  have left2 : Below t2.nodes z l :=
    left1.frame fun a mem => others2 a (ne_of_mem_of_not_mem mem yL)
  obtain ⟨t3, go3, left3, -, others3, root3⟩ := left2.reparent full distinctL yk.1
  have yNe : yk.1 ≠ ptr l := fun same => yL (same ▸ ptrL)
  have zNe : z ≠ ptr l := fun same => zL (same ▸ ptrL)
  have z3 := (others3 z zNe).trans ((others2 z zY).trans z1)
  obtain ⟨t4, go4, y4, others4, root4⟩ :=
    modify_ok (·.setColor zc) ((others3 yk.1 yNe).trans y2) rfl
  have later {a : Ptr} (neY : a ≠ yk.1) (neL : a ≠ ptr l) : t4.nodes a = t1.nodes a := by
    rw [others4 a neY, others3 a neL, others2 a neY]
  have dummyNe : dummy ≠ ptr l := (ptr_ne_dummy full noL).symm
  refine ⟨t4, ?_, ⟨⟨y4, ?_, ?_⟩, ?_, ?_, sentinel1.frame (later noY dummyNe)⟩, ?_⟩
  · have moved' : t.transplant z yk.1 = .ok t1 := moved
    simp only [RbLinks.replace, moved', ok_bind, load_ok z1, go2, go3, load_ok z3, go4]
  · exact left3.frame fun a mem => others4 a (ne_of_mem_of_not_mem mem yL)
  · refine right1.frame fun a mem => later (ne_of_mem_of_not_mem mem yR) ?_
    rintro rfl
    exact lAll _ ptrL _ (.inl mem) rfl
  · refine above1.frame (fun a mem => later (ne_of_mem_of_not_mem mem yUp) ?_)
      (root4.trans (root3.trans root2))
    rintro rfl
    exact lAll _ ptrL _ (.inr mem) rfl
  · rw [addrs, List.cons_append, List.append_assoc]
    exact apartZ
  · rw [later noY dummyNe]
    exact others1 dummy noY noUp

/-- The right child of the node is the successor itself. -/
theorem Holds.detach_near {zk yk : Ptr × κ} {zv yv : ν} {zc yc : AssocColor}
    (holds : Holds t (.node zc l zk zv (.node yc .dummy yk yv x)) up) :
    ∃ t', t.detach zk.1 yk.1 = .ok t' ∧ Detached t' zk.1 yk.1 zc l x up ∧ Hung t' x yk.1 := by
  obtain ⟨hereZ, belowL, hereY, -, belowX⟩ := holds.below
  have above : Above t zk.1 up := holds.above
  have apart : (dummy :: zk.1 :: (addrs l ++ (yk.1 :: (addrs x ++ upAddrs up)))).Nodup := by
    have whole := holds.apart
    simpa only [addrs, List.cons_append, List.nil_append, List.append_assoc] using whole
  have apart' := ((List.perm_middle.cons zk.1).cons dummy).nodup_iff.mp apart
  simp only [List.nodup_cons, List.mem_cons, List.mem_append, not_or, List.nodup_append] at apart
  obtain ⟨⟨noZ, noL, noY, noX, noUp⟩, ⟨zL, zY, zX, zUp⟩, distinctL, ⟨⟨yX, yUp⟩, distinctX, -, xUp⟩,
    lAll⟩ := apart
  obtain ⟨t', written, belowX', parent, others, root, sentinel⟩ :=
    belowX.setParent (List.nodup_cons.mpr ⟨noX, distinctX⟩) holds.sentinel yk.1
  refine ⟨t', ?_, ⟨⟨_, (others zk.1 (ne_ptr (Ne.symm noZ) zX)).trans hereZ⟩, ?_, ?_,
    ⟨_, _, (others yk.1 (ne_ptr (Ne.symm noY) yX)).trans hereY⟩, belowX', apart', sentinel⟩,
    fun isDummy => ?_⟩
  · simp only [detach, load_ok hereY, ok_bind, if_true, written]
  · refine belowL.frame fun a mem => others a (ne_ptr (ne_of_mem_of_not_mem mem noL) ?_)
    exact fun mem' => lAll a mem a (.inr (.inl mem')) rfl
  · refine above.frame (fun a mem => others a (ne_ptr (ne_of_mem_of_not_mem mem noUp) ?_)) root
    exact fun mem' => xUp a mem' a mem rfl
  · subst isDummy
    exact parent

/-- The parent is none of the ancestors that are further up. -/
theorem upPtr_ne {f : AssocFrame (Ptr × κ) ν} {inner : List (AssocFrame (Ptr × κ) ν)}
    {zc : AssocColor} {zk : Ptr × κ} {zv : ν}
    (apart : (upAddrs (f :: inner ++ .right zc l zk zv :: up)).Nodup) :
    upPtr (f :: inner ++ .right zc l zk zv :: up) ≠ zk.1 := by
  obtain ⟨d, c, k, v, s, rfl⟩ := f.exists_seen
  rw [List.cons_append, upAddrs_seen, upAddrs_append] at apart
  rw [List.cons_append, upPtr_seen]
  intro same
  apply (List.nodup_cons.mp apart).1
  rw [same]
  exact List.mem_append_right _ (List.mem_append_right _ List.mem_cons_self)

/-- The successor is further down, and leaves its place to its right child. -/
theorem Holds.detach_far {zk yk : Ptr × κ} {zv yv : ν} {zc yc : AssocColor}
    {f : AssocFrame (Ptr × κ) ν} {inner : List (AssocFrame (Ptr × κ) ν)}
    (holds : Holds t (.node yc .dummy yk yv x) (f :: inner ++ .right zc l zk zv :: up)) :
    ∃ t', t.detach zk.1 yk.1 = .ok t' ∧
      Detached t' zk.1 yk.1 zc l (.plug x (f :: inner)) up ∧ Hung t' x (upPtr (f :: inner)) := by
  obtain ⟨t1, moved, holds1, hung1, same1⟩ := Holds.transplant (d := .left) holds
  have atZ : Holds t1 (.node zc l zk zv (.plug x (f :: inner))) up := by
    refine holds1.refocus ?_
    rw [AssocNode.plug_append]
    rfl
  have full : AssocNode.plug x (f :: inner) ≠ .dummy := plug_cons_ne_dummy
  generalize whole : AssocNode.plug x (f :: inner) = r at atZ full
  obtain ⟨hereZ, belowL, belowR⟩ := atZ.below
  have above : Above t1 zk.1 up := atZ.above
  have hereY := same1.trans holds.below.1
  have perm : (addrs x ++ upAddrs (f :: inner ++ .right zc l zk zv :: up)).Perm
      (zk.1 :: (addrs l ++ (addrs r ++ upAddrs up))) := by
    rw [upAddrs_append, ← List.append_assoc, ← whole]
    refine (addrs_plug.append_right _).trans (List.perm_middle.trans (.cons _ ?_))
    rw [← List.append_assoc, ← List.append_assoc]
    exact List.perm_append_comm.append_right _
  have apart : (dummy :: yk.1 :: zk.1 :: (addrs l ++ (addrs r ++ upAddrs up))).Nodup :=
    ((perm.cons yk.1).cons dummy).nodup_iff.mp (apart_seen (d := .left).mp holds.apart)
  have apart' := ((List.Perm.swap zk.1 yk.1 _).cons dummy).nodup_iff.mp apart
  have parent : upPtr (f :: inner ++ .right zc l zk zv :: up) ≠ zk.1 :=
    upPtr_ne holds.apart.of_cons.of_append_right
  simp only [List.nodup_cons, List.mem_cons, List.mem_append, not_or, List.nodup_append] at apart
  obtain ⟨⟨noY, noZ, noL, noR, noUp⟩, ⟨yZ, yL, yR, yUp⟩, ⟨zL, zR, zUp⟩, distinctL,
    ⟨distinctR, -, rUp⟩, lAll⟩ := apart
  obtain ⟨t2, go2, y2, others2, root2⟩ := modify_ok (·.setChild .right (ptr r)) hereY rfl
  have right2 : Below t2.nodes zk.1 r :=
    belowR.frame fun a mem => others2 a (ne_of_mem_of_not_mem mem yR)
  obtain ⟨t3, go3, right3, -, others3, root3⟩ := right2.reparent full distinctR yk.1
  have later {a : Ptr} (neY : a ≠ yk.1) (neR : a ≠ ptr r) : t3.nodes a = t1.nodes a :=
    (others3 a neR).trans (others2 a neY)
  have dummyNe : dummy ≠ ptr r := (RbLinks.ptr_ne_dummy full noR).symm
  refine ⟨t3, ?_, ⟨⟨_, (later (Ne.symm yZ) (ne_ptr (Ne.symm noZ) zR)).trans hereZ⟩, ?_, ?_,
    ⟨_, _, (others3 yk.1 (ne_ptr (Ne.symm noY) yR)).trans y2⟩, right3, apart',
    holds1.sentinel.frame (later noY dummyNe)⟩, ?_⟩
  · simp only [detach, load_ok holds.below.1, ok_bind, if_neg parent, moved, load_ok hereZ, go2,
      go3]
  · refine belowL.frame fun a mem => later (ne_of_mem_of_not_mem mem yL) ?_
    exact ne_ptr (ne_of_mem_of_not_mem mem noL) fun mem' => lAll a mem a (.inl mem') rfl
  · refine above.frame (fun a mem => later (ne_of_mem_of_not_mem mem yUp) ?_) (root3.trans root2)
    exact ne_ptr (ne_of_mem_of_not_mem mem noUp) fun mem' => rUp a mem' a mem rfl
  · have same : upPtr (f :: inner) = upPtr (f :: inner ++ .right zc l zk zv :: up) := by
      cases f <;> rfl
    rw [same]
    exact hung1.frame (later noY dummyNe)

/-- Wherever the successor is. -/
theorem Holds.detach {y : Place (Ptr × κ) ν} {zc : AssocColor} {zk : Ptr × κ} {zv : ν}
    (holds : Holds t (.node y.color .dummy y.key y.value y.right)
      (y.up ++ .right zc l zk zv :: up)) :
    ∃ t', t.detach zk.1 y.key.1 = .ok t' ∧
      Detached t' zk.1 y.key.1 zc l (.plug y.right y.up) up ∧
      Hung t' y.right (upPtr (y.up ++ .right zc l y.key y.value :: up)) := by
  obtain ⟨yc, yl, yk, yv, yr, yup⟩ := y
  cases yup with
  | nil => exact ((holds_seen (d := .right)).mp holds).detach_near
  | cons f inner =>
      obtain ⟨t', detached, det, hung⟩ := holds.detach_far
      cases f <;> exact ⟨t', detached, det, hung⟩

/-- The walk to the leftmost node ends at it. -/
theorem leftmost_ok {rounds : Nat} {t : RbLinks} {c : AssocColor} {l r : AssocNode (Ptr × κ) ν}
    {k : Ptr × κ} {v : ν} {up : List (AssocFrame (Ptr × κ) ν)}
    (holds : Holds t (.node c l k v r) up) (enough : l.toList.length < rounds) :
    t.leftmost rounds k.1 = .ok (AssocNode.minimum c l k v r up).key.1 := by
  induction rounds generalizing c l k v r up with
  | zero => omega
  | succ rounds ih =>
      rw [leftmost]
      simp only [load_ok holds.below.1, ok_bind]
      cases l with
      | dummy => exact if_neg fun proper => proper rfl
      | node lc ll lk lv lr =>
          have atLeft := holds.left_child
          rw [if_pos (atLeft.ptr_ne_dummy nofun)]
          refine ih atLeft ?_
          simp only [AssocNode.toList, List.length_append, List.length_cons] at enough
          omega

theorem minimum_ok {rounds : Nat} (holds : Holds t (.node c l k v r) up)
    (enough : l.toList.length < rounds) :
    t.minimum rounds k.1 = .ok (AssocNode.minimum c l k v r up).key.1 :=
  (if_neg (holds.ptr_ne_dummy nofun)).trans (leftmost_ok holds enough)

/-- The colour's share of a gap: the loop runs if the node was black. -/
theorem closeGap_ok {rounds : Nat} (holds : Holds t x up) (hung : Hung t x (upPtr up))
    (gap : Gap c x up) (enough : up.length + 2 ≤ rounds) :
    ∃ t', (if c = .black then t.deleteFixup rounds (ptr x) else pure t) = .ok t' ∧
      Holds t' (closeGap c x up) [] := by
  obtain ⟨n, rb, hole, -⟩ := gap
  cases c with
  | black => exact deleteFixup_ok holds hung rb.short hole enough
  | red => exact ⟨t, rfl, holds_plug.mp holds⟩

/-- The node goes, up to the repair: what is left is a gap of its colour, or of the
    colour of its successor. -/
theorem takeOut_ok {rounds : Nat} {z : Place (Ptr × κ) ν}
    (holds : Holds t (.node z.color z.left z.key z.value z.right) z.up)
    (colored : z.whole.Colored) (enough : z.right.toList.length < rounds) :
    ∃ t' c x up, t.takeOut rounds z.key.1 = .ok (t', c, ptr x) ∧ Holds t' x up ∧
      Hung t' x (upPtr up) ∧ Gap c x up ∧ AssocNode.extractNode z = closeGap c x up := by
  have here := load_ok holds.below.1
  by_cases left : z.left = .dummy
  · rw [left] at holds here
    obtain ⟨t', moved, holds', hung, -⟩ := Holds.transplant (d := .left) holds
    refine ⟨t', _, _, _, ?_, holds', hung, AssocNode.gap_left colored left,
      AssocNode.extractNode_left left⟩
    simp only [takeOut, here, ok_bind, ptr_dummy, if_true, moved]
    rfl
  have leftNe : ptr z.left ≠ dummy := holds.left_child.ptr_ne_dummy left
  cases right : z.right with
  | dummy =>
      rw [right] at holds here
      obtain ⟨t', moved, holds', hung, -⟩ := Holds.transplant (d := .right) holds
      refine ⟨t', _, _, _, ?_, holds', hung, AssocNode.gap_right colored right,
        AssocNode.extractNode_right right⟩
      simp only [takeOut, here, ok_bind, ptr_dummy, if_neg leftNe, if_true, moved]
      rfl
  | node rc rl rk rv rr =>
      rw [right] at holds here
      have gap := AssocNode.gap_both colored right
      have result := AssocNode.extractNode_both left right
      have whole := AssocNode.whole_minimum rc rl rk rv rr []
      have atRight := holds.right_child
      have short : rl.toList.length < rounds := by
        simp only [right, AssocNode.toList, List.length_append, List.length_cons] at enough
        omega
      have found := minimum_ok atRight short
      rw [← List.nil_append (_ :: z.up), AssocNode.minimum_append] at found
      obtain ⟨leftmost, there⟩ := whole
      generalize AssocNode.minimum rc rl rk rv rr [] = y at found leftmost there gap result
      have atY : Holds t (.node y.color .dummy y.key y.value y.right)
          (y.up ++ .right z.color z.left z.key z.value :: z.up) := by
        refine atRight.refocus ?_
        rw [AssocNode.plug_append, ← leftmost]
        exact congrArg (AssocNode.plug · _) there.symm
      obtain ⟨t1, detached, det, hung⟩ := atY.detach
      obtain ⟨t2, replaced, holds2, same⟩ := det.replace left y.value
      refine ⟨t2, _, _, _, ?_, holds2.refocus ?_, hung.frame same, gap, result⟩
      · have rightNe : ptr (.node rc rl rk rv rr) ≠ dummy := atRight.ptr_ne_dummy nofun
        simp only [takeOut, here, ok_bind, if_neg leftNe, if_neg rightNe]
        have found' : t.minimum rounds (ptr (.node rc rl rk rv rr)) = .ok y.key.1 := found
        simp only [found', ok_bind, load_ok atY.below.1, detached, replaced]
        rfl
      · rw [AssocNode.plug_append]
        rfl

/-- Every ancestor is one of the entries around the hole. -/
theorem length_up (up : List (AssocFrame (Ptr × κ) ν)) :
    up.length ≤ (AssocNode.before up).length + (AssocNode.after up).length := by
  induction up with
  | nil => exact Nat.zero_le _
  | cons f up ih =>
      cases f <;>
        · simp only [AssocNode.before, AssocNode.after, List.length_append, List.length_cons,
            List.length_nil]
          omega

theorem length_whole (z : Place (Ptr × κ) ν) :
    z.whole.toList.length = (AssocNode.extractNode z).toList.length + 1 := by
  simp only [Place.whole, AssocNode.toList_plug, AssocNode.toList_extractNode, AssocNode.toList,
    List.length_append, List.length_cons]
  omega

/-- A node goes, and what is left is what the source's cases leave of the tree. -/
theorem extractNode_ok {rounds : Nat} {z : Place (Ptr × κ) ν}
    (holds : Holds t (.node z.color z.left z.key z.value z.right) z.up)
    (colored : z.whole.Colored) (enough : z.whole.toList.length < rounds) :
    ∃ t', t.extractNode rounds z.key.1 = .ok t' ∧ Holds t' (AssocNode.extractNode z) [] := by
  have proper : z.key.1 ≠ dummy := holds.ptr_ne_dummy nofun
  have short : z.right.toList.length < rounds := by
    simp only [Place.whole, AssocNode.toList_plug, AssocNode.toList, List.length_append,
      List.length_cons] at enough
    omega
  obtain ⟨t1, c, x, up, taken, holds1, hung, gap, result⟩ := takeOut_ok holds colored short
  have bound := length_whole z
  rw [result, AssocNode.toList_closeGap, List.length_append, List.length_append] at bound
  have few := length_up up
  obtain ⟨t', closed, holds'⟩ := closeGap_ok holds1 hung gap (show up.length + 2 ≤ rounds by omega)
  refine ⟨t', ?_, result ▸ holds'⟩
  simp only [extractNode, check_pass _ proper, taken, ok_bind]
  exact closed

end RbLinks

end FlexRic
