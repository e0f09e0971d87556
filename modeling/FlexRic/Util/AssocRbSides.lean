import FlexRic.Util.AssocRbHeap

/-! # Red-black trees from one side

What the repairs of a tree do on the left they do on the right in a mirror. Here
nodes and ancestors are written as they are seen from one side, and each case of
a repair is one equation for both.
-/

namespace FlexRic

variable {κ ν : Type}

/-- A node whose child on side `d` is `near`. -/
def AssocNode.seen (d : Side) (c : AssocColor) (near : AssocNode κ ν) (k : κ) (v : ν)
    (far : AssocNode κ ν) : AssocNode κ ν :=
  match d with
  | .left => .node c near k v far
  | .right => .node c far k v near

/-- An ancestor of a node that is below its child on side `d`. -/
def AssocFrame.seen (d : Side) (c : AssocColor) (k : κ) (v : ν) (sibling : AssocNode κ ν) :
    AssocFrame κ ν :=
  match d with
  | .left => .left c k v sibling
  | .right => .right c sibling k v

/-- The colour of the parent. The root's is the sentinel. -/
def upColor : List (AssocFrame κ ν) → AssocColor
  | [] => .black
  | .left c _ _ _ :: _ => c
  | .right c _ _ _ :: _ => c

theorem Side.eq_or (d e : Side) : e = d ∨ e = d.other := by
  cases d <;> cases e <;> simp [Side.other]

theorem AssocFrame.exists_seen (f : AssocFrame κ ν) :
    ∃ d c k v sibling, f = .seen d c k v sibling := by
  cases f with
  | left c k v r => exact ⟨.left, c, k, v, r, rfl⟩
  | right c l k v => exact ⟨.right, c, k, v, l, rfl⟩

namespace AssocNode

theorem exists_seen {x : AssocNode κ ν} (d : Side) (full : x ≠ dummy) :
    ∃ c near k v far, x = seen d c near k v far := by
  cases x with
  | dummy => exact absurd rfl full
  | node c l k v r =>
      cases d with
      | left => exact ⟨c, l, k, v, r, rfl⟩
      | right => exact ⟨c, r, k, v, l, rfl⟩

theorem exists_red {x : AssocNode κ ν} (d : Side) (red : x.color = .red) :
    ∃ near k v far, x = seen d .red near k v far := by
  cases x with
  | dummy => cases red
  | node c l k v r =>
      cases red
      cases d with
      | left => exact ⟨l, k, v, r, rfl⟩
      | right => exact ⟨r, k, v, l, rfl⟩

@[simp] theorem color_node (c : AssocColor) (l : AssocNode κ ν) (k : κ) (v : ν)
    (r : AssocNode κ ν) : (node c l k v r).color = c := rfl

@[simp] theorem paint_node (c c' : AssocColor) (l : AssocNode κ ν) (k : κ) (v : ν)
    (r : AssocNode κ ν) : (node c l k v r).paint c' = node c' l k v r := rfl

variable {d : Side} {c c' : AssocColor} {near far x z : AssocNode κ ν} {k : κ} {v : ν}
  {up : List (AssocFrame κ ν)}

@[simp] theorem seen_color : (seen d c near k v far).color = c := by
  cases d <;> rfl

@[simp] theorem seen_paint : (seen d c near k v far).paint c' = seen d c' near k v far := by
  cases d <;> rfl

/-- A node is seen from the other side as well. -/
theorem seen_other : seen d.other c near k v far = seen d c far k v near := by
  cases d <;> rfl

@[simp] theorem upColor_seen : upColor (.seen d c k v x :: up) = c := by
  cases d <;> rfl

theorem plug_seen : plug x (.seen d c k v far :: up) = plug (seen d c x k v far) up := by
  cases d <;> rfl

theorem paint_of_black (black : x.color = .black) : x.paint .black = x := by
  cases x with
  | dummy => rfl
  | node c l k v r =>
      cases black
      rfl

section Insertion

variable {e : Side} {gc : AssocColor} {pk gk zk : κ} {pv gv zv : ν}
  {ps uncle zn zf : AssocNode κ ν} {zc : AssocColor}

theorem insertFixup_recolor (red : uncle.color = .red) :
    insertFixup z (.seen e .red pk pv ps :: .seen d gc gk gv uncle :: up) =
      insertFixup (seen d .red (seen e .black z pk pv ps) gk gv (uncle.paint .black)) up := by
  cases d <;> cases e <;> simp only [AssocFrame.seen, seen, insertFixup, red, if_true]

/-- An outer grandchild: one rotation. -/
theorem insertFixup_outer (black : uncle.color ≠ .red) :
    insertFixup z (.seen d .red pk pv ps :: .seen d gc gk gv uncle :: up) =
      paint .black (plug (seen d .black z pk pv (seen d .red ps gk gv uncle)) up) := by
  cases d <;>
    simp only [AssocFrame.seen, seen, insertFixup, black, if_false, rightRotate, leftRotate]

/-- An inner grandchild: it goes up twice. -/
theorem insertFixup_inner (black : uncle.color ≠ .red) :
    insertFixup (seen d zc zn zk zv zf)
        (.seen d.other .red pk pv ps :: .seen d gc gk gv uncle :: up) =
      paint .black
        (plug (seen d .black (seen d .red ps pk pv zn) zk zv (seen d .red zf gk gv uncle)) up) := by
  cases d <;>
    simp only [Side.other, AssocFrame.seen, seen, insertFixup, black, if_false, rightRotate,
      leftRotate, paint]

theorem insertFixup_done (black : upColor up ≠ .red) :
    insertFixup z up = paint .black (plug z up) := by
  rw [insertFixup]
  all_goals
    intros
    subst_vars
    exact absurd rfl black

end Insertion

/-- Cases 2 to 4 for an `x` on side `d`. -/
def deleteFixupSide (d : Side) (x : AssocNode κ ν) (pc : AssocColor) (pk : κ) (pv : ν)
    (w : AssocNode κ ν) : AssocNode κ ν × Bool :=
  match d with
  | .left => deleteFixupLeft x pc pk pv w
  | .right => deleteFixupRight x pc pk pv w

section Deletion

variable {pc wc nc : AssocColor} {pk wk nk : κ} {pv wv nv : ν} {w wn wf nn nf p : AssocNode κ ν}

theorem deleteFixup_red (red : x.color = .red) : deleteFixup x up = plug (x.paint .black) up := by
  cases up with
  | nil => rfl
  | cons f up =>
      rw [deleteFixup.eq_def]
      exact if_pos red

/-- A red sibling goes up, and the parent is the last round's. -/
theorem deleteFixup_case1 (black : x.color = .black) :
    deleteFixup x (.seen d pc pk pv (seen d .red wn wk wv wf) :: up) =
      if (deleteFixupSide d x .red pk pv wn).2 then
        plug ((deleteFixupSide d x .red pk pv wn).1.paint .black) (.seen d .black wk wv wf :: up)
      else
        paint .black
          (plug (deleteFixupSide d x .red pk pv wn).1 (.seen d .black wk wv wf :: up)) := by
  cases d
  all_goals
    simp only [AssocFrame.seen, seen, deleteFixup, black, reduceCtorEq, if_false, deleteFixupSide]
    rfl

theorem deleteFixup_rest (black : x.color = .black) (blackSibling : w.color = .black) :
    deleteFixup x (.seen d pc pk pv w :: up) =
      if (deleteFixupSide d x pc pk pv w).2 then deleteFixup (deleteFixupSide d x pc pk pv w).1 up
      else paint .black (plug (deleteFixupSide d x pc pk pv w).1 up) := by
  cases w with
  | dummy =>
      cases d
      all_goals
        simp only [AssocFrame.seen, deleteFixup, black, reduceCtorEq, if_false, deleteFixupSide]
        rfl
  | node wc wl wk wv wr =>
      cases blackSibling
      cases d
      all_goals
        simp only [AssocFrame.seen, deleteFixup, black, reduceCtorEq, if_false, deleteFixupSide]
        rfl

theorem deleteFixupSide_case2 (near : wn.color = .black) (far : wf.color = .black) :
    deleteFixupSide d x pc pk pv (seen d wc wn wk wv wf) =
      (seen d pc x pk pv (seen d .red wn wk wv wf), true) := by
  cases d <;> simp [deleteFixupSide, seen, deleteFixupLeft, deleteFixupRight, near, far]

theorem deleteFixupSide_case3 (far : wf.color = .black) :
    deleteFixupSide d x pc pk pv (seen d wc (seen d .red nn nk nv nf) wk wv wf) =
      (seen d pc (seen d .black x pk pv nn) nk nv (seen d .black nf wk wv wf), false) := by
  cases d <;>
    simp [deleteFixupSide, seen, deleteFixupLeft, deleteFixupRight, far, rightRotate, leftRotate]

theorem deleteFixupSide_case4 (far : wf.color = .red) :
    deleteFixupSide d x pc pk pv (seen d wc wn wk wv wf) =
      (seen d pc (seen d .black x pk pv wn) wk wv (wf.paint .black), false) := by
  cases d <;>
    simp [deleteFixupSide, seen, deleteFixupLeft, deleteFixupRight, far, rightRotate, leftRotate]

end Deletion

end AssocNode

end FlexRic
