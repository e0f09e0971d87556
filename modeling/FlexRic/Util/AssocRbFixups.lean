import FlexRic.Util.AssocRbLinked

/-! # The repairs in memory

Both fixup loops end, within as many rounds as there are ancestors and two more,
and leave the tree that the repair of the subtree under its ancestors is. They
dereference no pointer that leads nowhere, because the colours make sure that the
nodes they look at are there.
-/

namespace FlexRic

namespace RbLinks

open AssocNode (seen Hole RedBlack Short deleteFixupSide)

variable {κ ν : Type} {t : RbLinks} {d : Side} {c : AssocColor} {k : Ptr × κ} {v : ν} {n : Nat}
  {near far x z : AssocNode (Ptr × κ) ν} {up : List (AssocFrame (Ptr × κ) ν)}

theorem holds_far : Holds t (seen d c near k v far) up ↔
    Holds t far (.seen d.other c k v near :: up) := by
  rw [holds_seen, AssocNode.seen_other]

/-- Siblings are at different addresses, unless both are the sentinel. -/
theorem Holds.ptr_ne (holds : Holds t (seen d c near k v far) up) (full : near ≠ .dummy) :
    ptr near ≠ ptr far := by
  have apart := apart_seen.mp holds.apart
  simp only [List.nodup_cons, List.nodup_append, List.mem_cons, List.mem_append, not_or] at apart
  have proper := RbLinks.ptr_ne_dummy full apart.1.2.1
  refine ne_ptr proper fun mem => ?_
  exact apart.2.2.2.2 (ptr near) (ptr_mem full) (ptr near) (.inl mem) rfl

/-- The parent of a node, and its colour, be it the sentinel. -/
theorem Holds.load_up (holds : Holds t x up) :
    ∃ n, t.load (upPtr up) = .ok n ∧ n.color = upColor up := by
  cases up with
  | nil =>
      obtain ⟨parent, there⟩ := holds.sentinel
      exact ⟨_, load_ok there, rfl⟩
  | cons f up =>
      obtain ⟨d, c, k, v, s, rfl⟩ := f.exists_seen
      have loaded := (holds_seen.mp holds).load
      rw [upPtr_seen, AssocNode.upColor_seen]
      exact ⟨_, loaded, NodeLinks.seen_color⟩

theorem plug_ne_dummy (full : x ≠ .dummy) : AssocNode.plug x up ≠ .dummy := by
  induction up generalizing x with
  | nil => exact full
  | cons f up ih =>
      cases f with
      | left c k v r => exact ih (by intro here; cases here)
      | right c l k v => exact ih (by intro here; cases here)

theorem plug_cons_ne_dummy {f : AssocFrame (Ptr × κ) ν} : AssocNode.plug x (f :: up) ≠ .dummy := by
  obtain ⟨d, c, k, v, s, rfl⟩ := f.exists_seen
  have full : seen d c x k v s ≠ .dummy := by
    cases d <;> (intro here; cases here)
  rw [AssocNode.plug_seen]
  exact plug_ne_dummy full

/-- The last statement of a repair: the root is painted black. -/
theorem Holds.paint_root (holds : Holds t x []) (full : x ≠ .dummy) :
    ∃ t', t.modify t.root (·.setColor .black) = .ok t' ∧ Holds t' (x.paint .black) [] := by
  obtain ⟨c, near, k, v, far, rfl⟩ := AssocNode.exists_seen .left full
  have root := holds.above
  rw [Above, ptr_seen] at root
  obtain ⟨t', painted, holds', -⟩ := holds.paint .black
  rw [root]
  exact ⟨t', painted, holds'⟩

/-- The loop ends below a black parent. -/
theorem insertFixup_ends (holds : Holds t z up) (full : z ≠ .dummy) (black : upColor up ≠ .red)
    (rounds : Nat) :
    ∃ t', t.insertFixup (rounds + 1) (ptr z) = .ok t' ∧
      Holds t' (.paint .black (.plug z up)) [] := by
  obtain ⟨parent, loaded, color⟩ := holds.load_up
  obtain ⟨t', painted, holds'⟩ := (holds_plug.mp holds).paint_root (plug_ne_dummy full)
  obtain ⟨c, zn, zk, zv, zf, rfl⟩ := AssocNode.exists_seen .left full
  refine ⟨t', ?_, holds'⟩
  rw [insertFixup]
  simp only [ptr_seen, holds.load, ok_bind, NodeLinks.seen_parent, loaded, color, black, if_false,
    painted]

/-- The side that the source finds by comparing with the left child. -/
theorem side_eq {parent p s : Ptr} (other : p ≠ s) :
    (if p = (NodeLinks.seen d parent p s c).left then Side.left else .right) = d := by
  cases d with
  | left => exact if_pos rfl
  | right => exact if_neg other

section InsertFixup

variable {pk gk zk : Ptr × κ} {pv gv zv : ν} {ps uncle zn zf : AssocNode (Ptr × κ) ν}
  {e : Side} {gc zc : AssocColor}

/-- Case 1. -/
theorem insertFixupBody_recolor
    (holds : Holds t z (.seen e .red pk pv ps :: .seen d gc gk gv uncle :: up))
    (red : uncle.color = .red) :
    ∃ t', t.insertFixupBody d (ptr z) pk.1 gk.1 = .ok (t', gk.1) ∧
      Holds t' (seen d .red (seen e .black z pk pv ps) gk gv (uncle.paint .black)) up := by
  obtain ⟨un, uk, uv, uf, rfl⟩ := AssocNode.exists_red .left red
  have atParent := holds_seen.mp holds
  have atGrand := holds_seen.mp atParent
  have atUncle := holds_far.mp atGrand
  obtain ⟨t1, paint1, holds1, -⟩ := atParent.paint .black
  obtain ⟨t2, paint2, holds2, -⟩ := (holds_far.mp (holds_seen.mp holds1)).paint .black
  obtain ⟨t3, paint3, holds3, -⟩ := (holds_far.mpr holds2).paint .red
  refine ⟨t3, ?_, ?_⟩
  · simp only [insertFixupBody, atGrand.load, ok_bind, NodeLinks.seen_child_other, ptr_seen,
      atUncle.load, NodeLinks.seen_color, if_true, paint1, paint2, paint3]
    rfl
  · rw [AssocNode.seen_paint]
    exact holds3

/-- Case 3, for an outer grandchild. -/
theorem insertFixupBody_outer
    (holds : Holds t z (.seen d .red pk pv ps :: .seen d gc gk gv uncle :: up))
    (full : z ≠ .dummy) (black : uncle.color ≠ .red) :
    ∃ t', t.insertFixupBody d (ptr z) pk.1 gk.1 = .ok (t', ptr z) ∧
      Holds t' z (.seen d .black pk pv (seen d .red ps gk gv uncle) :: up) := by
  have atParent := holds_seen.mp holds
  have atGrand := holds_seen.mp atParent
  obtain ⟨un, loaded, color⟩ := (holds_far.mp atGrand).load_color
  obtain ⟨t1, paint1, holds1, -⟩ := atParent.paint .black
  obtain ⟨t2, paint2, holds2, -⟩ := (holds_seen.mp holds1).paint .red
  rw [← AssocNode.seen_other, ← AssocNode.seen_other (d := d)] at holds2
  obtain ⟨t3, rotated, holds3, -⟩ := holds2.rotate
  rw [AssocNode.seen_other, AssocNode.seen_other] at holds3
  have other := atParent.ptr_ne full
  refine ⟨t3, ?_, holds_seen.mpr holds3⟩
  simp only [insertFixupBody, atGrand.load, ok_bind, NodeLinks.seen_child_other, ptr_seen, loaded,
    color, black, if_false, insertFixupCase2, atParent.load, other, paint1, paint2, rotated,
    pure_bind]
  rfl

/-- Cases 2 and 3, for an inner grandchild. -/
theorem insertFixupBody_inner
    (holds : Holds t (seen d zc zn zk zv zf)
      (.seen d.other .red pk pv ps :: .seen d gc gk gv uncle :: up))
    (black : uncle.color ≠ .red) :
    ∃ t', t.insertFixupBody d zk.1 pk.1 gk.1 = .ok (t', pk.1) ∧
      Holds t' (seen d .red ps pk pv zn)
        (.seen d .black zk zv (seen d .red zf gk gv uncle) :: up) := by
  have atParent := holds_seen.mp holds
  have atGrand := holds_seen.mp atParent
  obtain ⟨un, loaded, color⟩ := (holds_far.mp atGrand).load_color
  rw [AssocNode.seen_other] at atParent
  obtain ⟨t1, rotate1, holds1, -⟩ := atParent.rotate
  have atZ := holds_seen.mpr holds1
  obtain ⟨t2, paint2, holds2, -⟩ := holds1.paint .black
  obtain ⟨t3, paint3, holds3, -⟩ := (holds_seen.mp holds2).paint .red
  rw [← AssocNode.seen_other, ← AssocNode.seen_other (d := d) (k := zk)] at holds3
  obtain ⟨t4, rotate4, holds4, -⟩ := holds3.rotate
  rw [AssocNode.seen_other, AssocNode.seen_other] at holds4
  refine ⟨t4, ?_, holds_seen.mpr holds4⟩
  simp only [insertFixupBody, atGrand.load, ok_bind, NodeLinks.seen_child_other, loaded, color,
    black, if_false, insertFixupCase2, atParent.load, ptr_seen, if_true, rotate1, atZ.load,
    NodeLinks.seen_parent, upPtr_seen, pure_bind, paint2, paint3, rotate4]
  rfl

/-- A round below a red parent. -/
theorem insertFixup_round {t' : RbLinks} {p : Ptr} (rounds : Nat)
    (holds : Holds t z (.seen e .red pk pv ps :: .seen d gc gk gv uncle :: up)) (full : z ≠ .dummy)
    (body : t.insertFixupBody d (ptr z) pk.1 gk.1 = .ok (t', p)) :
    t.insertFixup (rounds + 1) (ptr z) = t'.insertFixup rounds p := by
  have atParent := holds_seen.mp holds
  have atGrand := holds_seen.mp atParent
  have other := atGrand.ptr_ne (by cases e <;> (intro here; cases here))
  rw [ptr_seen] at other
  obtain ⟨zc, zn, zk, zv, zf, rfl⟩ := AssocNode.exists_seen .left full
  rw [ptr_seen] at body
  rw [insertFixup]
  simp only [ptr_seen, holds.load, ok_bind, NodeLinks.seen_parent, upPtr_seen, atParent.load,
    NodeLinks.seen_color, if_true, atGrand.load, side_eq other, body]

/-- The loop repairs what the subtree under its ancestors was to be. -/
theorem insertFixup_ok {rounds : Nat} {t : RbLinks} {z : AssocNode (Ptr × κ) ν}
    {up : List (AssocFrame (Ptr × κ) ν)} {n : Nat} (holds : Holds t z up) (red : z.color = .red)
    (rb : RedBlack z n) (hole : Hole up n) (enough : up.length + 1 ≤ rounds) :
    ∃ t', t.insertFixup rounds (ptr z) = .ok t' ∧ Holds t' (AssocNode.insertFixup z up) [] := by
  induction rounds generalizing t z up n with
  | zero => omega
  | succ rounds ih =>
      have full : z ≠ .dummy := by
        rintro rfl
        cases red
      by_cases redUp : upColor up = .red
      · obtain ⟨e, pk, pv, ps, d, gk, gv, uncle, up', rfl, black, rbS, rbU, above⟩ :=
          hole.grandparent redUp
        simp only [List.length_cons] at enough
        by_cases redUncle : uncle.color = .red
        · obtain ⟨t1, body, holds1⟩ := insertFixupBody_recolor holds redUncle
          obtain ⟨t2, goes, holds2⟩ := ih holds1 AssocNode.seen_color
            (AssocNode.redBlack_recolored rb rbS rbU redUncle) above (by omega)
          rw [ptr_seen] at goes
          refine ⟨t2, (insertFixup_round rounds holds full body).trans goes, ?_⟩
          rw [AssocNode.insertFixup_recolor redUncle]
          exact holds2
        · obtain ⟨rounds, rfl⟩ : ∃ r, rounds = r + 1 := ⟨rounds - 1, by omega⟩
          rcases Side.eq_or d e with rfl | rfl
          · obtain ⟨t1, body, holds1⟩ := insertFixupBody_outer holds full redUncle
            obtain ⟨t2, goes, holds2⟩ := insertFixup_ends holds1 full (by simp) rounds
            refine ⟨t2, (insertFixup_round _ holds full body).trans goes, ?_⟩
            rw [AssocNode.insertFixup_outer redUncle]
            rw [AssocNode.plug_seen] at holds2
            exact holds2
          · obtain ⟨zn, zk, zv, zf, rfl⟩ := AssocNode.exists_red d red
            obtain ⟨t1, body, holds1⟩ := insertFixupBody_inner holds redUncle
            obtain ⟨t2, goes, holds2⟩ :=
              insertFixup_ends holds1 (by cases d <;> (intro here; cases here)) (by simp) rounds
            rw [ptr_seen] at goes
            rw [← ptr_seen (d := d) (k := zk)] at body
            refine ⟨t2, (insertFixup_round _ holds full body).trans goes, ?_⟩
            rw [AssocNode.insertFixup_inner redUncle]
            rw [AssocNode.plug_seen] at holds2
            exact holds2
      · rw [AssocNode.insertFixup_done redUp]
        exact insertFixup_ends holds full redUp rounds

end InsertFixup

/-- Where a subtree is the sentinel, the sentinel's parent is written for now. -/
def Hung (t : RbLinks) (x : AssocNode (Ptr × κ) ν) (p : Ptr) : Prop :=
  x = .dummy → ParentIs t dummy p

theorem Hung.frame {t' : RbLinks} {p : Ptr} (hung : Hung t x p)
    (same : t'.nodes dummy = t.nodes dummy) : Hung t' x p := by
  intro isDummy
  rw [ParentIs, same]
  exact hung isDummy

section DeleteFixup

variable {pk wk nk : Ptr × κ} {pv wv nv : ν} {w wn wf nn nf : AssocNode (Ptr × κ) ν}
  {pc wc : AssocColor}

/-- The parent that is read at a node, or at the sentinel. -/
theorem Holds.load_hung (holds : Holds t x (.seen d pc pk pv w :: up)) (hung : Hung t x pk.1) :
    ∃ n, t.load (ptr x) = .ok n ∧ n.parent = pk.1 := by
  cases x with
  | dummy =>
      obtain ⟨n, there, parent⟩ := hung rfl
      exact ⟨n, load_ok there, parent⟩
  | node c l k v r =>
      have below := holds.below
      rw [upPtr_seen] at below
      exact ⟨_, load_ok below.1, rfl⟩

theorem deleteFixupCase1_ok (holds : Holds t x (.seen d pc pk pv (seen d .red wn wk wv wf) :: up))
    (hung : Hung t x pk.1) :
    ∃ t', t.deleteFixupCase1 d (ptr x) wk.1 = .ok (t', ptr wn) ∧
      Holds t' x (.seen d .red pk pv wn :: .seen d .black wk wv wf :: up) ∧
      Hung t' x pk.1 := by
  have atW := holds_far.mp (holds_seen.mp holds)
  obtain ⟨t1, paint1, holds1, same1⟩ := atW.paint .black
  obtain ⟨x1, load1, parent1⟩ :=
    (holds_seen.mpr (holds_far.mpr holds1)).load_hung (hung.frame same1)
  obtain ⟨t2, paint2, holds2, same2⟩ := (holds_far.mpr holds1).paint .red
  have hung2 := hung.frame (same2.trans same1)
  obtain ⟨x2, load2, parent2⟩ := (holds_seen.mpr holds2).load_hung hung2
  obtain ⟨t3, rotated, holds3, same3⟩ := holds2.rotate
  have atParent := holds_seen.mpr holds3
  have hung3 := hung2.frame same3
  obtain ⟨x3, load3, parent3⟩ := (holds_seen.mpr atParent).load_hung hung3
  refine ⟨t3, ?_, holds_seen.mpr atParent, hung3⟩
  simp only [deleteFixupCase1, atW.load, ok_bind, NodeLinks.seen_color, if_true, paint1, load1,
    parent1, paint2, load2, parent2, rotated, load3, parent3, atParent.load,
    NodeLinks.seen_child_other]
  rfl

theorem deleteFixupCase1_skip (holds : Holds t x (.seen d pc pk pv w :: up))
    (black : w.color = .black) : t.deleteFixupCase1 d (ptr x) (ptr w) = .ok (t, ptr w) := by
  obtain ⟨n, loaded, color⟩ := (holds_far.mp (holds_seen.mp holds)).load_color
  have other : n.color ≠ .red := by
    rw [color, black]
    intro here
    cases here
  simp only [deleteFixupCase1, loaded, ok_bind, other, if_false]
  rfl

theorem deleteFixupCase3_ok
    (holds : Holds t x
      (.seen d pc pk pv (seen d .black (seen d .red nn nk nv nf) wk wv wf) :: up))
    (hung : Hung t x pk.1) (far : wf.color = .black) :
    ∃ t', t.deleteFixupCase3 d (ptr x) wk.1 = .ok (t', nk.1) ∧
      Holds t' x (.seen d pc pk pv (seen d .black nn nk nv (seen d .red nf wk wv wf)) :: up) ∧
      Hung t' x pk.1 := by
  have atW := holds_far.mp (holds_seen.mp holds)
  have atN := holds_seen.mpr atW
  obtain ⟨f, loadF, colorF⟩ := (holds_far.mp atW).load_color
  obtain ⟨t1, paint1, holds1, same1⟩ := atN.paint .black
  obtain ⟨t2, paint2, holds2, same2⟩ := (holds_seen.mp holds1).paint .red
  rw [← AssocNode.seen_other (d := d) (k := wk),
    ← AssocNode.seen_other (d := d) (k := nk)] at holds2
  obtain ⟨t3, rotated, holds3, same3⟩ := holds2.rotate
  rw [AssocNode.seen_other (k := nk), AssocNode.seen_other (k := wk)] at holds3
  have atParent := holds_far.mpr holds3
  have hung3 := hung.frame (same3.trans (same2.trans same1))
  obtain ⟨x3, load3, parent3⟩ := (holds_seen.mpr atParent).load_hung hung3
  refine ⟨t3, ?_, holds_seen.mpr atParent, hung3⟩
  simp only [deleteFixupCase3, atW.load, ok_bind, NodeLinks.seen_child_other, loadF, colorF, far,
    if_true, NodeLinks.seen_color, NodeLinks.seen_child, ptr_seen, atN.load, check_pass, paint1,
    paint2, rotated, load3, parent3, atParent.load]
  rfl

theorem deleteFixupCase3_skip
    (holds : Holds t x (.seen d pc pk pv (seen d .black wn wk wv wf) :: up))
    (far : wf.color = .red) : t.deleteFixupCase3 d (ptr x) wk.1 = .ok (t, wk.1) := by
  have atW := holds_far.mp (holds_seen.mp holds)
  obtain ⟨f, loadF, colorF⟩ := (holds_far.mp atW).load_color
  have other : f.color ≠ .black := by
    rw [colorF, far]
    intro here
    cases here
  simp only [deleteFixupCase3, atW.load, ok_bind, NodeLinks.seen_child_other, loadF, other,
    if_false]
  rfl

theorem deleteFixupCase4_ok
    (holds : Holds t x (.seen d pc pk pv (seen d .black wn wk wv wf) :: up))
    (hung : Hung t x pk.1) (far : wf.color = .red) :
    ∃ t', t.deleteFixupCase4 d (ptr x) wk.1 = .ok t' ∧
      Holds t' (seen d pc (seen d .black x pk pv wn) wk wv (wf.paint .black)) up := by
  obtain ⟨fn, fk, fv, ff, rfl⟩ := AssocNode.exists_red .left far
  have atParent := holds_seen.mp holds
  have atW := holds_far.mp atParent
  have atF := holds_far.mp atW
  obtain ⟨x0, load0, parent0⟩ := holds.load_hung hung
  obtain ⟨t1, paint1, holds1, same1⟩ := atW.paint pc
  have hung1 := hung.frame same1
  obtain ⟨x1, load1, parent1⟩ := (holds_seen.mpr (holds_far.mpr holds1)).load_hung hung1
  obtain ⟨t2, paint2, holds2, same2⟩ := (holds_far.mpr holds1).paint .black
  have atW2 := holds_far.mp holds2
  obtain ⟨t3, paint3, holds3, same3⟩ := (holds_far.mp atW2).paint .black
  have atParent3 := holds_far.mpr (holds_far.mpr holds3)
  have hung3 := hung1.frame (same3.trans same2)
  obtain ⟨x3, load3, parent3⟩ := (holds_seen.mpr atParent3).load_hung hung3
  obtain ⟨t4, rotated, holds4, -⟩ := atParent3.rotate
  refine ⟨t4, ?_, ?_⟩
  · simp only [deleteFixupCase4, atW.load, ok_bind, NodeLinks.seen_color, check_pass,
      NodeLinks.seen_child_other, ptr_seen, atF.load, load0, parent0, atParent.load, paint1, load1,
      parent1, paint2, atW2.load, paint3, load3, parent3, rotated]
  · rw [AssocNode.seen_paint]
    exact holds4

/-- The colours of both children, whichever side they are on. -/
theorem Holds.load_children (holds : Holds t (seen d c near k v far) up) (p : Ptr) :
    ∃ l r, t.load (NodeLinks.seen d p (ptr near) (ptr far) c).left = .ok l ∧
      t.load (NodeLinks.seen d p (ptr near) (ptr far) c).right = .ok r ∧
      (l.color = .black ∧ r.color = .black ↔ near.color = .black ∧ far.color = .black) := by
  obtain ⟨n, loadN, colorN⟩ := (holds_seen.mpr holds).load_color
  obtain ⟨f, loadF, colorF⟩ := (holds_far.mp holds).load_color
  cases d with
  | left => exact ⟨n, f, loadN, loadF, by rw [colorN, colorF]⟩
  | right => exact ⟨f, n, loadF, loadN, by rw [colorN, colorF, and_comm]⟩

/-- Cases 2 to 4 do what they do to the subtree at the parent's place, and go on
    from there or from the root. -/
theorem deleteFixupRest_ok (holds : Holds t x (.seen d pc pk pv w :: up)) (hung : Hung t x pk.1)
    (black : w.color = .black) (rbW : RedBlack w (n + 1)) :
    ∃ t', t.deleteFixupRest d (ptr x) (ptr w) =
        .ok (t', if (deleteFixupSide d x pc pk pv w).2 then ptr (deleteFixupSide d x pc pk pv w).1
          else t'.root) ∧
      Holds t' (deleteFixupSide d x pc pk pv w).1 up ∧
      (deleteFixupSide d x pc pk pv w).1 ≠ .dummy := by
  have full : w ≠ .dummy := by
    rintro rfl
    cases rbW
  obtain ⟨wc, wn, wk, wv, wf, rfl⟩ := AssocNode.exists_seen d full
  rw [AssocNode.seen_color] at black
  subst black
  have atW := holds_far.mp (holds_seen.mp holds)
  obtain ⟨l, r, loadL, loadR, colors⟩ := atW.load_children pk.1
  by_cases both : wn.color = .black ∧ wf.color = .black
  · rw [AssocNode.deleteFixupSide_case2 both.1 both.2]
    obtain ⟨t1, paint1, holds1, same1⟩ := atW.paint .red
    have atParent := holds_far.mpr holds1
    obtain ⟨x1, load1, parent1⟩ := (holds_seen.mpr atParent).load_hung (hung.frame same1)
    refine ⟨t1, ?_, atParent, by cases d <;> (intro here; cases here)⟩
    simp only [deleteFixupRest, ptr_seen, atW.load, ok_bind, NodeLinks.seen_color, check_pass,
      upPtr_seen, loadL, loadR, colors, both, and_self, if_true, paint1, load1, parent1]
    rfl
  · have start (t3 : RbLinks) (wk' : Ptr) {t4 : RbLinks}
        (case3 : t.deleteFixupCase3 d (ptr x) wk.1 = .ok (t3, wk'))
        (case4 : t3.deleteFixupCase4 d (ptr x) wk' = .ok t4) :
        t.deleteFixupRest d (ptr x) wk.1 = .ok (t4, t4.root) := by
      simp only [deleteFixupRest, atW.load, ok_bind, NodeLinks.seen_color, check_pass, upPtr_seen,
        loadL, loadR, colors, both, if_false, case3, case4]
      rfl
    rw [ptr_seen]
    cases far : wf.color with
    | red =>
        rw [AssocNode.deleteFixupSide_case4 far]
        obtain ⟨t4, case4, holds4⟩ := deleteFixupCase4_ok holds hung far
        exact ⟨t4, start t wk.1 (deleteFixupCase3_skip holds far) case4, holds4,
          by cases d <;> (intro here; cases here)⟩
    | black =>
        have near : wn.color = .red := by
          cases color : wn.color with
          | red => rfl
          | black => exact absurd ⟨color, far⟩ both
        obtain ⟨nn, nk, nv, nf, rfl⟩ := AssocNode.exists_red d near
        rw [AssocNode.deleteFixupSide_case3 far]
        obtain ⟨t3, case3, holds3, hung3⟩ := deleteFixupCase3_ok holds hung far
        obtain ⟨t4, case4, holds4⟩ := deleteFixupCase4_ok holds3 hung3 AssocNode.seen_color
        rw [AssocNode.seen_paint] at holds4
        exact ⟨t4, start t3 nk.1 case3 case4, holds4, by cases d <;> (intro here; cases here)⟩

/-- The loop ends at a red node, and at the root. -/
theorem deleteFixup_ends (holds : Holds t x up) (ends : x.color = .red ∨ up = [])
    (rounds : Nat) :
    ∃ t', t.deleteFixup (rounds + 1) (ptr x) = .ok t' ∧
      Holds t' (.plug (x.paint .black) up) [] := by
  obtain ⟨m, loaded, color⟩ := holds.load_color
  have stops : ¬(ptr x ≠ t.root ∧ m.color = .black) := by
    rw [color]
    intro goesOn
    rcases ends with red | rfl
    · cases red.symm.trans goesOn.2
    · exact goesOn.1 (Eq.symm holds.above)
  by_cases full : x = .dummy
  · subst full
    rcases ends with red | rfl
    · cases red
    obtain ⟨parent, there⟩ := holds.sentinel
    obtain ⟨t', painted, there', others, root⟩ := modify_ok (·.setColor .black) there rfl
    refine ⟨t', ?_, trivial, root.trans holds.above, holds.apart, parent, there'⟩
    rw [deleteFixup]
    simp only [loaded, ok_bind, if_neg stops]
    exact painted
  · obtain ⟨c, xn, xk, xv, xf, rfl⟩ := AssocNode.exists_seen .left full
    obtain ⟨t', painted, holds', -⟩ := holds.paint .black
    refine ⟨t', ?_, ?_⟩
    · rw [deleteFixup]
      simp only [loaded, ok_bind, if_neg stops]
      rw [ptr_seen]
      exact painted
    · rw [AssocNode.seen_paint, ← holds_plug]
      exact holds'

theorem Above.root_mem {f : AssocFrame (Ptr × κ) ν} {p : Ptr} (above : Above t p (f :: up)) :
    t.root ∈ upAddrs (f :: up) := by
  induction up generalizing f p with
  | nil =>
      obtain ⟨d, c, k, v, s, rfl⟩ := f.exists_seen
      obtain ⟨-, -, root⟩ := above_seen.mp above
      rw [upAddrs_seen, show t.root = k.1 from root]
      exact List.mem_cons_self
  | cons g up ih =>
      obtain ⟨d, c, k, v, s, rfl⟩ := f.exists_seen
      obtain ⟨-, -, more⟩ := above_seen.mp above
      rw [upAddrs_seen]
      exact List.mem_cons_of_mem _ (List.mem_append_right _ (ih more))

/-- Nothing below an ancestor is at the address of the root. -/
theorem Holds.ne_root {f : AssocFrame (Ptr × κ) ν} (holds : Holds t x (f :: up)) :
    ptr x ≠ t.root := by
  have mem := holds.above.root_mem
  have apart := holds.apart
  rw [List.nodup_cons, List.mem_append, not_or, List.nodup_append] at apart
  obtain ⟨⟨-, proper⟩, -, -, disjoint⟩ := apart
  by_cases full : x = .dummy
  · subst full
    intro same
    rw [← same] at mem
    exact proper mem
  · exact disjoint (ptr x) (ptr_mem full) t.root mem

/-- A round at a black node below the root. -/
theorem deleteFixup_round {t' : RbLinks} {p : Ptr} (rounds : Nat)
    (holds : Holds t x (.seen d pc pk pv w :: up)) (hung : Hung t x pk.1) (black : x.color = .black)
    (full : w ≠ .dummy) (body : t.deleteFixupBody d (ptr x) = .ok (t', p)) :
    t.deleteFixup (rounds + 1) (ptr x) = t'.deleteFixup rounds p := by
  obtain ⟨m, loaded, color⟩ := holds.load_color
  obtain ⟨m', loaded', parent⟩ := holds.load_hung hung
  cases loaded.symm.trans loaded'
  have atParent := holds_seen.mp holds
  have goesOn : ptr x ≠ t.root ∧ m.color = .black := ⟨holds.ne_root, color.trans black⟩
  have other : ptr x ≠ ptr w := by
    rw [← AssocNode.seen_other] at atParent
    exact (atParent.ptr_ne full).symm
  rw [deleteFixup]
  simp only [loaded, ok_bind, if_pos goesOn, parent, atParent.load, side_eq other, body]

theorem deleteFixupBody_eq {t' : RbLinks} {p : Ptr} (holds : Holds t x (.seen d pc pk pv w :: up))
    (hung : Hung t x pk.1) (case1 : t.deleteFixupCase1 d (ptr x) (ptr w) = .ok (t', p)) :
    t.deleteFixupBody d (ptr x) = t'.deleteFixupRest d (ptr x) p := by
  obtain ⟨m, loaded, parent⟩ := holds.load_hung hung
  simp only [deleteFixupBody, loaded, ok_bind, parent, (holds_seen.mp holds).load,
    NodeLinks.seen_child_other, case1]

/-- The loop ends when it is sent to the root. -/
theorem deleteFixup_ends_at_root (holds : Holds t x up) (rounds : Nat) :
    ∃ t', t.deleteFixup (rounds + 1) t.root = .ok t' ∧
      Holds t' (.paint .black (.plug x up)) [] := by
  have whole := holds_plug.mp holds
  rw [show t.root = _ from whole.above]
  exact deleteFixup_ends whole (.inr rfl) rounds

/-- The loop repairs what the subtree under its ancestors was to be. -/
theorem deleteFixup_ok {rounds : Nat} {t : RbLinks} {x : AssocNode (Ptr × κ) ν}
    {up : List (AssocFrame (Ptr × κ) ν)} {n : Nat} (holds : Holds t x up)
    (hung : Hung t x (upPtr up)) (short : Short x n) (hole : Hole up (n + 1))
    (enough : up.length + 2 ≤ rounds) :
    ∃ t', t.deleteFixup rounds (ptr x) = .ok t' ∧ Holds t' (AssocNode.deleteFixup x up) [] := by
  induction rounds generalizing t x up n with
  | zero => omega
  | succ rounds ih =>
      cases color : x.color with
      | red =>
          rw [AssocNode.deleteFixup_red color]
          exact deleteFixup_ends holds (.inl color) rounds
      | black =>
          cases up with
          | nil => exact deleteFixup_ends holds (.inr rfl) rounds
          | cons f up =>
              obtain ⟨d, pc, pk, pv, w, rfl⟩ := f.exists_seen
              obtain ⟨rbW, kids, above⟩ := AssocNode.hole_seen.mp hole
              have rb : RedBlack x n := by
                rcases short with ⟨-, rb⟩ | ⟨red, -⟩
                · exact rb
                · cases red.symm.trans color
              rw [upPtr_seen] at hung
              rw [List.length_cons] at enough
              obtain ⟨rounds, rfl⟩ : ∃ r, rounds = r + 1 := ⟨rounds - 1, by omega⟩
              have full : w ≠ .dummy := by
                rintro rfl
                cases rbW
              cases colorW : w.color with
              | red =>
                  obtain ⟨wn, wk, wv, wf, rfl⟩ := AssocNode.exists_red d colorW
                  obtain ⟨⟨blackN, -⟩, rbN, -⟩ := AssocNode.redBlack_red.mp rbW
                  obtain ⟨t1, case1, holds1, hung1⟩ := deleteFixupCase1_ok holds hung
                  obtain ⟨t2, rest, holds2, full2⟩ := deleteFixupRest_ok holds1 hung1 blackN rbN
                  obtain ⟨colorP, -⟩ := AssocNode.deleteFixupSide_colors (d := d) .red pk pv rb
                    blackN rbN
                  rw [← ptr_seen (d := d) (k := wk)] at case1
                  rw [deleteFixup_round _ holds hung color full
                    ((deleteFixupBody_eq holds hung case1).trans rest),
                    AssocNode.deleteFixup_case1 color]
                  split
                  · rename_i climbs
                    exact deleteFixup_ends holds2 (.inl colorP) rounds
                  · exact deleteFixup_ends_at_root holds2 rounds
              | black =>
                  obtain ⟨t1, rest, holds1, full1⟩ := deleteFixupRest_ok holds hung colorW rbW
                  obtain ⟨colorP, result⟩ := AssocNode.deleteFixupSide_colors (d := d) pc pk pv rb
                    colorW rbW
                  have case1 := deleteFixupCase1_skip holds colorW
                  rw [deleteFixup_round _ holds hung color full
                    ((deleteFixupBody_eq holds hung case1).trans rest),
                    AssocNode.deleteFixup_rest color colorW]
                  split
                  · rename_i climbs
                    rw [if_pos climbs] at result
                    obtain ⟨m, short', hole'⟩ := AssocNode.short_of_climbs colorP result above
                    exact ih holds1 (fun isDummy => absurd isDummy full1) short' hole' (by omega)
                  · exact deleteFixup_ends_at_root holds1 rounds

end DeleteFixup

end RbLinks

end FlexRic
