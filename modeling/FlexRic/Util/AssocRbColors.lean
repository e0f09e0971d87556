import FlexRic.Util.AssocRbSides

/-! # The colours of a red-black tree

No red node has a red child, and all paths down from a node pass the same number
of black nodes. A tree under repair breaks this in one place only, and the rest of
it is a hole that a subtree of a certain black height fits.
-/

namespace FlexRic

variable {κ ν : Type}

namespace AssocNode

/-- Properties 4 and 5, with the number of black nodes on each path. -/
def RedBlack : AssocNode κ ν → Nat → Prop
  | dummy, n => n = 0
  | node c l _ _ r, n => (c = .red → l.color = .black ∧ r.color = .black) ∧
      ∃ m, n = (if c = .black then m + 1 else m) ∧ RedBlack l m ∧ RedBlack r m

/-- The other properties hold as well: the root is black. -/
def Colored (t : AssocNode κ ν) : Prop := t.color = .black ∧ ∃ n, RedBlack t n

/-- A black subtree of height `n` fits below these ancestors. -/
def Hole : List (AssocFrame κ ν) → Nat → Prop
  | [], _ => True
  | .left c _ _ s :: up, n | .right c s _ _ :: up, n =>
      RedBlack s n ∧ (c = .red → s.color = .black ∧ up ≠ [] ∧ upColor up = .black) ∧
        Hole up (if c = .black then n + 1 else n)

variable {d : Side} {c : AssocColor} {near far x z s w : AssocNode κ ν} {k : κ} {v : ν}
  {up : List (AssocFrame κ ν)} {n m : Nat}

theorem color_ne_red : x.color ≠ .red ↔ x.color = .black := by
  cases x.color <;> simp

theorem redBlack_seen : RedBlack (seen d c near k v far) n ↔
    (c = .red → near.color = .black ∧ far.color = .black) ∧
      ∃ m, n = (if c = .black then m + 1 else m) ∧ RedBlack near m ∧ RedBlack far m := by
  cases d with
  | left => rfl
  | right =>
      simp only [seen, RedBlack]
      grind

@[simp] theorem redBlack_red : RedBlack (seen d .red near k v far) n ↔
    (near.color = .black ∧ far.color = .black) ∧ RedBlack near n ∧ RedBlack far n := by
  simp [redBlack_seen]

@[simp] theorem redBlack_black : RedBlack (seen d .black near k v far) (n + 1) ↔
    RedBlack near n ∧ RedBlack far n := by
  simp [redBlack_seen]

theorem hole_seen : Hole (.seen d c k v s :: up) n ↔
    RedBlack s n ∧ (c = .red → s.color = .black ∧ up ≠ [] ∧ upColor up = .black) ∧
      Hole up (if c = .black then n + 1 else n) := by
  cases d <;> rfl

/-- A red subtree of height `n` becomes a black one of height `n + 1`. -/
theorem RedBlack.blacken (red : x.color = .red) (rb : RedBlack x n) :
    RedBlack (x.paint .black) (n + 1) := by
  obtain ⟨near, k, v, far, rfl⟩ := exists_red .left red
  rw [redBlack_red] at rb
  rw [seen_paint, redBlack_black]
  exact rb.2

theorem RedBlack.colored (rb : RedBlack x n) : Colored (x.paint .black) := by
  cases color : x.color with
  | black =>
      rw [paint_of_black color]
      exact ⟨color, n, rb⟩
  | red =>
      refine ⟨?_, n + 1, rb.blacken color⟩
      cases x <;> rfl

/-- A subtree that fits its hole makes a tree. -/
theorem RedBlack.plug (rb : RedBlack x n) (fits : x.color = .red → upColor up = .black)
    (hole : Hole up n) :
    ∃ m, RedBlack (AssocNode.plug x up) m ∧
      (up ≠ [] → (AssocNode.plug x up).color = .black) := by
  induction up generalizing x n with
  | nil => exact ⟨n, rb, fun absurd => (absurd rfl).elim⟩
  | cons f up ih =>
      obtain ⟨d, c, k, v, s, rfl⟩ := f.exists_seen
      rw [hole_seen] at hole
      rw [upColor_seen] at fits
      obtain ⟨sibling, red, above⟩ := hole
      have whole : RedBlack (seen d c x k v s) (if c = .black then n + 1 else n) := by
        rw [redBlack_seen]
        refine ⟨fun isRed => ⟨?_, (red isRed).1⟩, n, rfl, rb, sibling⟩
        rw [← color_ne_red]
        intro alsoRed
        cases isRed.symm.trans (fits alsoRed)
      have fits' : (seen d c x k v s).color = .red → upColor up = .black := by
        rw [seen_color]
        exact fun isRed => (red isRed).2.2
      obtain ⟨m, rb', black⟩ := ih whole fits' above
      rw [plug_seen]
      refine ⟨m, rb', fun _ => ?_⟩
      cases up with
      | nil =>
          rw [AssocNode.plug, seen_color, ← AssocNode.color_node c x k v s, ← color_ne_red]
          exact fun isRed => (red isRed).2.1 rfl
      | cons g up => exact black (List.cons_ne_nil g up)

theorem Colored.of_plug (rb : RedBlack x n) (fits : x.color = .red → upColor up = .black)
    (hole : Hole up n) : Colored (AssocNode.paint .black (AssocNode.plug x up)) := by
  obtain ⟨m, rb', -⟩ := rb.plug fits hole
  exact rb'.colored

theorem Colored.of_plug_below (rb : RedBlack x n) (fits : x.color = .red → upColor up = .black)
    (hole : Hole up n) (nonempty : up ≠ []) : Colored (AssocNode.plug x up) := by
  obtain ⟨m, rb', black⟩ := rb.plug fits hole
  exact ⟨black nonempty, m, rb'⟩

/-- What is left of a tree when a subtree is taken out is a hole that it fits. -/
theorem RedBlack.unplug (rb : RedBlack (AssocNode.plug x up) m)
    (black : (AssocNode.plug x up).color = .black) :
    ∃ n, RedBlack x n ∧ Hole up n ∧ (x.color = .red → up ≠ [] ∧ upColor up = .black) := by
  induction up generalizing x with
  | nil =>
      refine ⟨m, rb, trivial, fun red => ?_⟩
      cases red.symm.trans black
  | cons f up ih =>
      obtain ⟨d, c, k, v, s, rfl⟩ := f.exists_seen
      rw [plug_seen] at rb black
      obtain ⟨n, whole, above, fits⟩ := ih rb black
      rw [redBlack_seen] at whole
      rw [seen_color] at fits
      obtain ⟨kids, n', rfl, near, sibling⟩ := whole
      refine ⟨n', near, ?_, fun red => ⟨List.cons_ne_nil _ _, ?_⟩⟩
      · rw [hole_seen]
        exact ⟨sibling, fun isRed => ⟨(kids isRed).2, fits isRed⟩, above⟩
      · rw [upColor_seen, ← AssocNode.color_node c x k v s, ← color_ne_red]
        intro isRed
        cases red.symm.trans (kids isRed).1

/-- A red parent has a black parent of its own. -/
theorem Hole.grandparent (hole : Hole up n) (red : upColor up = .red) :
    ∃ e pk pv ps d gk gv uncle up',
      up = .seen e .red pk pv ps :: .seen d .black gk gv uncle :: up' ∧ ps.color = .black ∧
      RedBlack ps n ∧ RedBlack uncle n ∧ Hole up' (n + 1) := by
  cases up with
  | nil => cases red
  | cons f up =>
      obtain ⟨e, c, pk, pv, ps, rfl⟩ := f.exists_seen
      rw [upColor_seen] at red
      subst red
      obtain ⟨sibling, kids, above⟩ := hole_seen.mp hole
      obtain ⟨black, more, blackUp⟩ := kids rfl
      cases up with
      | nil => exact absurd rfl more
      | cons g up =>
          obtain ⟨d, c, gk, gv, uncle, rfl⟩ := g.exists_seen
          rw [upColor_seen] at blackUp
          subst blackUp
          obtain ⟨uncle', -, above'⟩ := hole_seen.mp above
          exact ⟨e, pk, pv, ps, d, gk, gv, uncle, up, rfl, black, sibling, uncle', above'⟩

/-- The grandparent of case 1, once it is red. -/
theorem redBlack_recolored {e : Side} {pk gk : κ} {pv gv : ν} {ps uncle : AssocNode κ ν}
    (rb : RedBlack z n) (rbS : RedBlack ps n) (rbU : RedBlack uncle n)
    (redUncle : uncle.color = .red) :
    RedBlack (seen d .red (seen e .black z pk pv ps) gk gv (uncle.paint .black)) (n + 1) := by
  rw [redBlack_red, seen_color, redBlack_black]
  exact ⟨⟨rfl, rbU.colored.1⟩, ⟨rb, rbS⟩, rbU.blacken redUncle⟩

theorem colored_insertFixup {z : AssocNode κ ν} {up : List (AssocFrame κ ν)} {n : Nat}
    (red : z.color = .red) (rb : RedBlack z n) (hole : Hole up n) :
    Colored (insertFixup z up) := by
  by_cases redUp : upColor up = .red
  · obtain ⟨e, pk, pv, ps, d, gk, gv, uncle, up', rfl, black, rbS, rbU, above⟩ :=
      hole.grandparent redUp
    by_cases redUncle : uncle.color = .red
    · rw [insertFixup_recolor redUncle]
      exact colored_insertFixup seen_color (redBlack_recolored rb rbS rbU redUncle) above
    · have blackUncle := color_ne_red.mp redUncle
      rcases Side.eq_or d e with rfl | rfl
      · rw [insertFixup_outer redUncle]
        refine .of_plug (n := n + 1) ?_ (fun isRed => ?_) above
        · rw [redBlack_black, redBlack_red]
          exact ⟨rb, ⟨black, blackUncle⟩, rbS, rbU⟩
        · cases seen_color.symm.trans isRed
      · obtain ⟨zn, zk, zv, zf, rfl⟩ := exists_red d red
        rw [redBlack_red] at rb
        rw [insertFixup_inner redUncle]
        refine .of_plug (n := n + 1) ?_ (fun isRed => ?_) above
        · rw [redBlack_black, redBlack_red, redBlack_red]
          exact ⟨⟨⟨black, rb.1.1⟩, rbS, rb.2.1⟩, ⟨rb.1.2, blackUncle⟩, rb.2.2, rbU⟩
        · cases seen_color.symm.trans isRed
  · rw [insertFixup_done redUp]
    refine .of_plug rb (fun _ => ?_) hole
    cases up with
    | nil => rfl
    | cons f up =>
        cases color : upColor (f :: up) with
        | red => exact absurd color redUp
        | black => rfl
termination_by up.length

/-- A subtree in a hole for height `n + 1`: a black one that is one node short,
    or a red one that is not once it is painted. -/
def Short (x : AssocNode κ ν) (n : Nat) : Prop :=
  x.color = .black ∧ RedBlack x n ∨ x.color = .red ∧ RedBlack (x.paint .black) (n + 1)

/-- What a round of the loop leaves at the parent's place. -/
theorem deleteFixupSide_colors (pc : AssocColor) (pk : κ) (pv : ν)
    (rb : RedBlack x n) (blackW : w.color = .black) (rbW : RedBlack w (n + 1)) :
    (deleteFixupSide d x pc pk pv w).1.color = pc ∧
      if (deleteFixupSide d x pc pk pv w).2 then
        RedBlack ((deleteFixupSide d x pc pk pv w).1.paint .black) (n + 1)
      else RedBlack (deleteFixupSide d x pc pk pv w).1 (if pc = .black then n + 2 else n + 1) := by
  have full : w ≠ dummy := by
    rintro rfl
    cases rbW
  obtain ⟨wc, wn, wk, wv, wf, rfl⟩ := exists_seen d full
  rw [seen_color] at blackW
  subst blackW
  rw [redBlack_black] at rbW
  obtain ⟨rbN, rbF⟩ := rbW
  cases far : wf.color with
  | red =>
      rw [deleteFixupSide_case4 far]
      refine ⟨seen_color, ?_⟩
      have painted := rbF.colored.1
      simp only [Bool.false_eq_true, if_false, redBlack_seen]
      exact ⟨fun _ => ⟨seen_color, painted⟩, n + 1, rfl, ⟨nofun, n, rfl, rb, rbN⟩, rbF.blacken far⟩
  | black =>
      cases near : wn.color with
      | black =>
          rw [deleteFixupSide_case2 near far]
          refine ⟨seen_color, ?_⟩
          rw [if_pos rfl, seen_paint, redBlack_black, redBlack_red]
          exact ⟨rb, ⟨near, far⟩, rbN, rbF⟩
      | red =>
          obtain ⟨nn, nk, nv, nf, rfl⟩ := exists_red d near
          rw [redBlack_red] at rbN
          rw [deleteFixupSide_case3 far]
          refine ⟨seen_color, ?_⟩
          simp only [Bool.false_eq_true, if_false, redBlack_seen]
          exact ⟨fun _ => ⟨seen_color, seen_color⟩, n + 1, rfl, ⟨nofun, n, rfl, rb, rbN.2.1⟩,
            nofun, n, rfl, rbN.2.2, rbF⟩

/-- Where the loop goes on, the subtree is short of the hole above it. -/
theorem short_of_climbs {pc : AssocColor} (color : x.color = pc)
    (rb : RedBlack (x.paint .black) (n + 1))
    (above : Hole up (if pc = .black then n + 1 + 1 else n + 1)) :
    ∃ m, Short x m ∧ Hole up (m + 1) := by
  cases pc with
  | black =>
      rw [paint_of_black color] at rb
      exact ⟨n + 1, .inl ⟨color, rb⟩, above⟩
  | red => exact ⟨n, .inr ⟨color, rb⟩, above⟩

theorem colored_deleteFixup {x : AssocNode κ ν} {up : List (AssocFrame κ ν)} {n : Nat}
    (short : Short x n) (hole : Hole up (n + 1)) : Colored (deleteFixup x up) := by
  rcases short with ⟨black, rb⟩ | ⟨red, rb⟩
  · cases up with
    | nil => exact rb.colored
    | cons f up =>
        obtain ⟨d, pc, pk, pv, w, rfl⟩ := f.exists_seen
        obtain ⟨rbW, kids, above⟩ := hole_seen.mp hole
        cases colorW : w.color with
        | red =>
            obtain ⟨wn, wk, wv, wf, rfl⟩ := exists_red d colorW
            have blackP : pc = .black := by
              cases pc with
              | black => rfl
              | red => cases colorW.symm.trans (kids rfl).1
            subst blackP
            obtain ⟨⟨blackN, -⟩, rbN, rbF⟩ := redBlack_red.mp rbW
            obtain ⟨color, result⟩ := deleteFixupSide_colors (d := d) .red pk pv rb blackN rbN
            have under : Hole (.seen d .black wk wv wf :: up) (n + 1) :=
              hole_seen.mpr ⟨rbF, nofun, above⟩
            rw [deleteFixup_case1 black]
            split
            · rename_i climbs
              rw [if_pos climbs] at result
              exact .of_plug_below result (fun _ => upColor_seen) under (List.cons_ne_nil _ _)
            · rename_i stays
              rw [if_neg stays] at result
              exact .of_plug result (fun _ => upColor_seen) under
        | black =>
            obtain ⟨color, result⟩ := deleteFixupSide_colors (d := d) pc pk pv rb colorW rbW
            rw [deleteFixup_rest black colorW]
            split
            · rename_i climbs
              rw [if_pos climbs] at result
              obtain ⟨m, short, hole'⟩ := short_of_climbs color result above
              exact colored_deleteFixup short hole'
            · rename_i stays
              rw [if_neg stays] at result
              exact .of_plug result (fun isRed => (kids (color.symm.trans isRed)).2.2) above
  · rw [deleteFixup_red red]
    have painted : (x.paint .black).color = .black := by
      obtain ⟨near, k, v, far, rfl⟩ := exists_red .left red
      rfl
    by_cases root : up = []
    · subst root
      exact ⟨painted, n + 1, rb⟩
    · exact .of_plug_below rb (fun isRed => nomatch painted.symm.trans isRed) hole root

/-- What is left where a node of this colour was taken out and its only child put. -/
def Gap (c : AssocColor) (x : AssocNode κ ν) (up : List (AssocFrame κ ν)) : Prop :=
  ∃ n, RedBlack x n ∧ Hole up (if c = .black then n + 1 else n) ∧
    (c = .red → x.color = .black ∧ up ≠ [])

theorem RedBlack.short (rb : RedBlack x n) : Short x n := by
  cases color : x.color with
  | black => exact .inl ⟨color, rb⟩
  | red => exact .inr ⟨color, rb.blacken color⟩

theorem Gap.colored {c : AssocColor} (gap : Gap c x up) : Colored (closeGap c x up) := by
  obtain ⟨n, rb, hole, fits⟩ := gap
  cases c with
  | black => exact colored_deleteFixup rb.short hole
  | red =>
      obtain ⟨black, nonempty⟩ := fits rfl
      exact .of_plug_below rb (fun isRed => nomatch black.symm.trans isRed) hole nonempty

theorem plug_append (x : AssocNode κ ν) (inner outer : List (AssocFrame κ ν)) :
    AssocNode.plug x (inner ++ outer) = AssocNode.plug (AssocNode.plug x inner) outer := by
  induction inner generalizing x with
  | nil => rfl
  | cons f inner ih => cases f <;> exact ih _

/-- The tree that a place is in. -/
def Place.whole (z : Place κ ν) : AssocNode κ ν :=
  plug (node z.color z.left z.key z.value z.right) z.up

theorem plug_insertPath (o : Comparator κ) (key : κ) (x : AssocNode κ ν)
    (up : List (AssocFrame κ ν)) :
    AssocNode.plug dummy (insertPath o key x up) = AssocNode.plug x up := by
  induction x generalizing up with
  | dummy => rfl
  | node c l k v r ihl ihr =>
      rw [insertPath]
      split
      · exact ihl _
      · exact ihr _

theorem whole_findRbTree {o : Comparator κ} {key : κ} {z : Place κ ν}
    (found : findRbTree o key x up = some z) : z.whole = AssocNode.plug x up := by
  induction x generalizing up with
  | dummy => cases found
  | node c l k v r ihl ihr =>
      rw [findRbTree] at found
      split at found
      · exact ihl found
      · split at found
        · exact ihr found
        · cases found
          rfl

theorem whole_minimum (c : AssocColor) (l : AssocNode κ ν) (k : κ) (v : ν) (r : AssocNode κ ν)
    (up : List (AssocFrame κ ν)) :
    (minimum c l k v r up).left = dummy ∧
      (minimum c l k v r up).whole = AssocNode.plug (node c l k v r) up := by
  induction l generalizing c k v r up with
  | dummy => exact ⟨rfl, rfl⟩
  | node lc ll lk lv lr ih => exact ih lc lk lv lr _

/-- Every entry of a tree has its place. -/
theorem exists_place {e : κ × ν} (mem : e ∈ x.toList) (up : List (AssocFrame κ ν)) :
    ∃ z : Place κ ν, z.whole = AssocNode.plug x up ∧ (z.key, z.value) = e := by
  induction x generalizing up with
  | dummy => cases mem
  | node c l k v r ihl ihr =>
      rcases List.mem_append.mp mem with inL | inR
      · exact ihl inL (.left c k v r :: up)
      · rcases List.mem_cons.mp inR with rfl | inR
        · exact ⟨⟨c, l, k, v, r, up⟩, rfl, rfl⟩
        · exact ihr inR (.right c l k v :: up)

/-- Further ancestors do not matter to the leftmost node. -/
theorem minimum_append (c : AssocColor) (l : AssocNode κ ν) (k : κ) (v : ν) (r : AssocNode κ ν)
    (inner outer : List (AssocFrame κ ν)) :
    minimum c l k v r (inner ++ outer) =
      { minimum c l k v r inner with up := (minimum c l k v r inner).up ++ outer } := by
  induction l generalizing c k v r inner with
  | dummy => rfl
  | node lc ll lk lv lr ih => exact ih lc lk lv lr (.left c k v r :: inner)

section Relabel

variable {inner : List (AssocFrame κ ν)} (k' : κ) (v' : ν)

theorem upColor_relabel : upColor (inner ++ .right c x k v :: up) =
    upColor (inner ++ .right c x k' v' :: up) := by
  cases inner with
  | nil => rfl
  | cons f inner => cases f <;> rfl

/-- Another key in an ancestor leaves the hole as it is. -/
theorem hole_relabel : Hole (inner ++ .right c x k v :: up) n ↔
    Hole (inner ++ .right c x k' v' :: up) n := by
  induction inner generalizing n with
  | nil => rfl
  | cons f inner ih =>
      obtain ⟨d, fc, fk, fv, s, rfl⟩ := f.exists_seen
      simp only [List.cons_append, hole_seen, ih, upColor_relabel k' v']
      simp

end Relabel

/-- A node with the sentinel on one side goes, and its other child comes up. -/
theorem gap_of_dummy (rb : RedBlack (seen d c dummy k v x) n) (hole : Hole up n)
    (fits : c = .red → up ≠ []) : Gap c x up := by
  obtain ⟨kids, m, rfl, -, rbX⟩ := redBlack_seen.mp rb
  exact ⟨m, rbX, hole, fun red => ⟨(kids red).2, fits red⟩⟩

/-- The place of the successor, in the whole tree. -/
theorem whole_successor {z : Place κ ν} {rc : AssocColor} {rl rr : AssocNode κ ν} {rk : κ} {rv : ν}
    (right : z.right = node rc rl rk rv rr) :
    let y := minimum rc rl rk rv rr []
    z.whole = AssocNode.plug (node y.color dummy y.key y.value y.right)
      (y.up ++ .right z.color z.left z.key z.value :: z.up) := by
  intro y
  obtain ⟨leftmost, there⟩ := whole_minimum rc rl rk rv rr []
  rw [Place.whole, leftmost] at there
  rw [plug_append, there, Place.whole, right]
  rfl

theorem extractNode_left {z : Place κ ν} (left : z.left = dummy) :
    extractNode z = closeGap z.color z.right z.up := by
  rw [extractNode, left]

theorem extractNode_right {z : Place κ ν} (right : z.right = dummy) :
    extractNode z = closeGap z.color z.left z.up := by
  rw [extractNode, right]
  cases z.left <;> rfl

theorem extractNode_both {z : Place κ ν} {rc : AssocColor} {rl rr : AssocNode κ ν} {rk : κ}
    {rv : ν} (left : z.left ≠ dummy) (right : z.right = node rc rl rk rv rr) :
    let y := minimum rc rl rk rv rr []
    extractNode z =
      closeGap y.color y.right (y.up ++ .right z.color z.left y.key y.value :: z.up) := by
  intro y
  rw [extractNode, right]
  cases leftIs : z.left with
  | dummy => exact absurd leftIs left
  | node lc ll lk lv lr => rfl

theorem gap_left {z : Place κ ν} (colored : z.whole.Colored) (left : z.left = dummy) :
    Gap z.color z.right z.up := by
  obtain ⟨black, m, rb⟩ := colored
  obtain ⟨n, rbZ, hole, fits⟩ := RedBlack.unplug rb black
  rw [left] at rbZ
  exact gap_of_dummy (d := .left) rbZ hole fun red => (fits red).1

theorem gap_right {z : Place κ ν} (colored : z.whole.Colored) (right : z.right = dummy) :
    Gap z.color z.left z.up := by
  obtain ⟨black, m, rb⟩ := colored
  obtain ⟨n, rbZ, hole, fits⟩ := RedBlack.unplug rb black
  rw [right] at rbZ
  exact gap_of_dummy (d := .right) rbZ hole fun red => (fits red).1

theorem gap_both {z : Place κ ν} {rc : AssocColor} {rl rr : AssocNode κ ν} {rk : κ} {rv : ν}
    (colored : z.whole.Colored) (right : z.right = node rc rl rk rv rr) :
    let y := minimum rc rl rk rv rr []
    Gap y.color y.right (y.up ++ .right z.color z.left y.key y.value :: z.up) := by
  obtain ⟨black, m, rb⟩ := colored
  rw [whole_successor right] at rb black
  obtain ⟨n, rbY, hole, -⟩ := RedBlack.unplug rb black
  refine gap_of_dummy (d := .left) rbY ((hole_relabel _ _).mp hole) fun _ => ?_
  exact List.append_ne_nil_of_right_ne_nil _ (List.cons_ne_nil _ _)

/-- Taking a node out keeps all properties. -/
theorem colored_extractNode {z : Place κ ν} (colored : z.whole.Colored) :
    (extractNode z).Colored := by
  by_cases left : z.left = dummy
  · rw [extractNode_left left]
    exact (gap_left colored left).colored
  cases right : z.right with
  | dummy =>
      rw [extractNode_right right]
      exact (gap_right colored right).colored
  | node rc rl rk rv rr =>
      rw [extractNode_both left right]
      exact (gap_both colored right).colored

end AssocNode

end FlexRic
