import FlexRic.Library.Comparator
import FlexRic.Library.EntryMap
import FlexRic.Util.Assertion
import Mathlib.Data.List.Perm.Basic

/-! # The red-black tree behind every associative container

The source's nodes point to their parents, and all leaves are one shared black
sentinel, `dummy`. Here a node under repair is a subtree together with the list
of its ancestors, innermost first: going to `x->parent` is taking the next
frame, and `transplant` is rebuilding the subtree under the same frames. The
sentinel's parent, which deletion writes for a moment, is the frame list of an
empty subtree.

Rotations, both fixup loops and the search follow the source case by case, so
the shape of a tree, and with it the node that a search among tied keys
reaches, is the source's.
-/

namespace FlexRic

inductive AssocColor where
  | black
  | red
  deriving DecidableEq, Repr

inductive AssocNode (κ ν : Type) where
  /-- The sentinel: black, without key or children. -/
  | dummy
  | node (color : AssocColor) (left : AssocNode κ ν) (key : κ) (value : ν) (right : AssocNode κ ν)
  deriving DecidableEq, Repr

/-- One ancestor of the node under repair, seen from below. -/
inductive AssocFrame (κ ν : Type) where
  /-- The node below is the left child. -/
  | left (color : AssocColor) (key : κ) (value : ν) (right : AssocNode κ ν)
  /-- The node below is the right child. -/
  | right (color : AssocColor) (left : AssocNode κ ν) (key : κ) (value : ν)

namespace AssocNode

variable {κ ν : Type}

def color : AssocNode κ ν → AssocColor
  | dummy => .black
  | node c _ _ _ _ => c

/-- Painting the sentinel leaves it black. -/
def paint (c : AssocColor) : AssocNode κ ν → AssocNode κ ν
  | dummy => dummy
  | node _ l k v r => node c l k v r

/-- The entries in the order in which `front` and `next` visit them. -/
def toList : AssocNode κ ν → List (κ × ν)
  | dummy => []
  | node _ l k v r => l.toList ++ (k, v) :: r.toList

def leftRotate : AssocNode κ ν → AssocNode κ ν
  | node xc xl xk xv (node yc yl yk yv yr) => node yc (node xc xl xk xv yl) yk yv yr
  | x => x

def rightRotate : AssocNode κ ν → AssocNode κ ν
  | node xc (node yc yl yk yv yr) xk xv xr => node yc yl yk yv (node xc yr xk xv xr)
  | x => x

/-- Hang a subtree back under its ancestors. -/
def plug : AssocNode κ ν → List (AssocFrame κ ν) → AssocNode κ ν
  | x, [] => x
  | x, .left c k v r :: up => plug (node c x k v r) up
  | x, .right c l k v :: up => plug (node c l k v x) up

/-- Repair a red node `z` under a possibly red parent; the last statement of
    the loop paints the root black. -/
def insertFixup : AssocNode κ ν → List (AssocFrame κ ν) → AssocNode κ ν
  | z, .left .red pk pv pr :: .left _ gk gv uncle :: up =>
      if uncle.color = .red then
        insertFixup (node .red (node .black z pk pv pr) gk gv (uncle.paint .black)) up
      else
        let parent := node .black z pk pv pr
        paint .black (plug (rightRotate (node .red parent gk gv uncle)) up)
  | z, .right .red pl pk pv :: .left _ gk gv uncle :: up =>
      if uncle.color = .red then
        insertFixup (node .red (node .black pl pk pv z) gk gv (uncle.paint .black)) up
      else
        -- the inner child first moves up, to be the new parent
        let parent := (leftRotate (node .red pl pk pv z)).paint .black
        paint .black (plug (rightRotate (node .red parent gk gv uncle)) up)
  | z, .right .red pl pk pv :: .right _ uncle gk gv :: up =>
      if uncle.color = .red then
        insertFixup (node .red (uncle.paint .black) gk gv (node .black pl pk pv z)) up
      else
        let parent := node .black pl pk pv z
        paint .black (plug (leftRotate (node .red uncle gk gv parent)) up)
  | z, .left .red pk pv pr :: .right _ uncle gk gv :: up =>
      if uncle.color = .red then
        insertFixup (node .red (uncle.paint .black) gk gv (node .black z pk pv pr)) up
      else
        let parent := (rightRotate (node .red z pk pv pr)).paint .black
        paint .black (plug (leftRotate (node .red uncle gk gv parent)) up)
  | z, up => paint .black (plug z up)

/-- The ancestors of the leaf where `key` goes: left of every strictly later
    key, right of every earlier or tied one. -/
def insertPath (o : Comparator κ) (key : κ) :
    AssocNode κ ν → List (AssocFrame κ ν) → List (AssocFrame κ ν)
  | dummy, up => up
  | node c l k v r, up =>
      if o.cmp key k = 1 then insertPath o key l (.left c k v r :: up)
      else insertPath o key r (.right c l k v :: up)

/-- Cases 2 to 4 for a left child `x` with a black sibling `w`: the subtree at
    the parent's place, and whether the parent is the next `x`. -/
def deleteFixupLeft (x : AssocNode κ ν) (pc : AssocColor) (pk : κ) (pv : ν) :
    AssocNode κ ν → AssocNode κ ν × Bool
  | dummy => (node pc x pk pv dummy, false)
  | node wc wl wk wv wr =>
      if wl.color = .black ∧ wr.color = .black then
        (node pc x pk pv (node .red wl wk wv wr), true)
      else
        let w := if wr.color = .black then rightRotate (node .red (wl.paint .black) wk wv wr)
          else node wc wl wk wv wr
        match w with
        | dummy => (node pc x pk pv dummy, false)
        | node _ wl wk wv wr =>
            (leftRotate (node .black x pk pv (node pc wl wk wv (wr.paint .black))), false)

/-- The mirror image, for a right child `x`. -/
def deleteFixupRight (x : AssocNode κ ν) (pc : AssocColor) (pk : κ) (pv : ν) :
    AssocNode κ ν → AssocNode κ ν × Bool
  | dummy => (node pc dummy pk pv x, false)
  | node wc wl wk wv wr =>
      if wl.color = .black ∧ wr.color = .black then
        (node pc (node .red wl wk wv wr) pk pv x, true)
      else
        let w := if wl.color = .black then leftRotate (node .red wl wk wv (wr.paint .black))
          else node wc wl wk wv wr
        match w with
        | dummy => (node pc dummy pk pv x, false)
        | node _ wl wk wv wr =>
            (rightRotate (node .black (node pc (wl.paint .black) wk wv wr) pk pv x), false)

/-- Give back the black that `x`'s side has lost. A red sibling is rotated up
    first (case 1); then the parent is red, so case 2 ends the loop there. -/
def deleteFixup : AssocNode κ ν → List (AssocFrame κ ν) → AssocNode κ ν
  | x, [] => x.paint .black
  | x, f :: up =>
      if x.color = .red then plug (x.paint .black) (f :: up)
      else match f with
        | .left _ pk pv (node .red wl wk wv wr) =>
            let (p, climb) := deleteFixupLeft x .red pk pv wl
            let under := AssocFrame.left .black wk wv wr :: up
            if climb then plug (p.paint .black) under else paint .black (plug p under)
        | .left pc pk pv w =>
            let (p, climb) := deleteFixupLeft x pc pk pv w
            if climb then deleteFixup p up else paint .black (plug p up)
        | .right _ (node .red wl wk wv wr) pk pv =>
            let (p, climb) := deleteFixupRight x .red pk pv wr
            let under := AssocFrame.right .black wl wk wv :: up
            if climb then plug (p.paint .black) under else paint .black (plug p under)
        | .right pc w pk pv =>
            let (p, climb) := deleteFixupRight x pc pk pv w
            if climb then deleteFixup p up else paint .black (plug p up)

/-- A node found in the tree, with its ancestors. -/
structure Place (κ ν : Type) where
  color : AssocColor
  left : AssocNode κ ν
  key : κ
  value : ν
  right : AssocNode κ ν
  up : List (AssocFrame κ ν)

/-- Descend to the first node whose key ties with `key`. -/
def findRbTree (o : Comparator κ) (key : κ) :
    AssocNode κ ν → List (AssocFrame κ ν) → Option (Place κ ν)
  | dummy, _ => none
  | node c l k v r, up =>
      if o.cmp key k = 1 then findRbTree o key l (.left c k v r :: up)
      else if o.cmp key k = -1 then findRbTree o key r (.right c l k v :: up)
      else some ⟨c, l, k, v, r, up⟩

/-- `find_if` over the whole tree: the first node, in order, whose key satisfies `p`. -/
def findIfNode (p : κ → Bool) : AssocNode κ ν → List (AssocFrame κ ν) → Option (Place κ ν)
  | dummy, _ => none
  | node c l k v r, up =>
      match findIfNode p l (.left c k v r :: up) with
      | some z => some z
      | none => if p k then some ⟨c, l, k, v, r, up⟩ else findIfNode p r (.right c l k v :: up)

/-- The leftmost node below a node. -/
def minimum (c : AssocColor) (l : AssocNode κ ν) (k : κ) (v : ν) (r : AssocNode κ ν)
    (up : List (AssocFrame κ ν)) : Place κ ν :=
  match l with
  | dummy => ⟨c, dummy, k, v, r, up⟩
  | node lc ll lk lv lr => minimum lc ll lk lv lr (.left c k v r :: up)

/-- Put `x` where a node of colour `original` was taken out. -/
def closeGap (original : AssocColor) (x : AssocNode κ ν) (up : List (AssocFrame κ ν)) :
    AssocNode κ ν :=
  if original = .black then deleteFixup x up else plug x up

/-- Take a node out. With two children its successor `y` takes its place and
    colour, and the gap is where `y` was. -/
def extractNode (z : Place κ ν) : AssocNode κ ν :=
  match z.left, z.right with
  | dummy, r => closeGap z.color r z.up
  | l, dummy => closeGap z.color l z.up
  | l, node rc rl rk rv rr =>
      let y := minimum rc rl rk rv rr []
      closeGap y.color y.right (y.up ++ .right z.color l y.key y.value :: z.up)

/-- The entries visited before the hole under these ancestors. -/
def before : List (AssocFrame κ ν) → List (κ × ν)
  | [] => []
  | .left _ _ _ _ :: up => before up
  | .right _ l k v :: up => before up ++ l.toList ++ [(k, v)]

/-- The entries visited after the hole. -/
def after : List (AssocFrame κ ν) → List (κ × ν)
  | [] => []
  | .left _ k v r :: up => (k, v) :: r.toList ++ after up
  | .right _ _ _ _ :: up => after up

@[simp] theorem toList_paint (c : AssocColor) (x : AssocNode κ ν) :
    (x.paint c).toList = x.toList := by
  cases x <;> rfl

@[simp] theorem toList_leftRotate (x : AssocNode κ ν) : (leftRotate x).toList = x.toList := by
  unfold leftRotate
  split <;> simp [toList]

@[simp] theorem toList_rightRotate (x : AssocNode κ ν) : (rightRotate x).toList = x.toList := by
  unfold rightRotate
  split <;> simp [toList]

theorem toList_plug (x : AssocNode κ ν) (up : List (AssocFrame κ ν)) :
    (plug x up).toList = before up ++ x.toList ++ after up := by
  induction up generalizing x with
  | nil => simp [plug, before, after]
  | cons f up ih => cases f <;> simp [plug, before, after, ih, toList]

theorem before_append (inner outer : List (AssocFrame κ ν)) :
    before (inner ++ outer) = before outer ++ before inner := by
  induction inner with
  | nil => simp [before]
  | cons f inner ih => cases f <;> simp [before, ih]

theorem after_append (inner outer : List (AssocFrame κ ν)) :
    after (inner ++ outer) = after inner ++ after outer := by
  induction inner with
  | nil => simp [after]
  | cons f inner ih => cases f <;> simp [after, ih]

theorem toList_insertFixup (z : AssocNode κ ν) (up : List (AssocFrame κ ν)) :
    (insertFixup z up).toList = before up ++ z.toList ++ after up := by
  fun_induction insertFixup z up <;>
    simp_all +zetaDelta [toList_plug, before, after, toList]

theorem toList_deleteFixupLeft (x : AssocNode κ ν) (pc : AssocColor) (pk : κ) (pv : ν)
    (w : AssocNode κ ν) :
    (deleteFixupLeft x pc pk pv w).1.toList = x.toList ++ (pk, pv) :: w.toList := by
  cases w with
  | dummy => simp [deleteFixupLeft, toList]
  | node wc wl wk wv wr =>
      simp only [deleteFixupLeft]
      split
      · simp [toList]
      · rename_i sibling
        -- the case 3 rotation keeps the sibling's entries
        have kept : (if wr.color = .black then
            rightRotate (node .red (wl.paint .black) wk wv wr) else node wc wl wk wv wr).toList =
            wl.toList ++ (wk, wv) :: wr.toList := by
          split <;> simp [toList]
        split
        · rename_i empty
          rw [empty] at kept
          simp [toList] at kept
        · rename_i full
          rw [full] at kept
          simpa [toList] using kept

theorem toList_deleteFixupRight (x : AssocNode κ ν) (pc : AssocColor) (pk : κ) (pv : ν)
    (w : AssocNode κ ν) :
    (deleteFixupRight x pc pk pv w).1.toList = w.toList ++ (pk, pv) :: x.toList := by
  cases w with
  | dummy => simp [deleteFixupRight, toList]
  | node wc wl wk wv wr =>
      simp only [deleteFixupRight]
      split
      · simp [toList]
      · have kept : (if wl.color = .black then
            leftRotate (node .red wl wk wv (wr.paint .black)) else node wc wl wk wv wr).toList =
            wl.toList ++ (wk, wv) :: wr.toList := by
          split <;> simp [toList]
        split
        · rename_i empty
          rw [empty] at kept
          simp [toList] at kept
        · rename_i full
          rw [full] at kept
          simp [toList, ← kept]

/-- One round of the deletion loop keeps the entries: the subtree it leaves at
    the parent's place lists what was there. -/
theorem deleteFixupLeft_keeps {x w p : AssocNode κ ν} {pc : AssocColor} {pk : κ} {pv : ν}
    {climb : Bool} (h : deleteFixupLeft x pc pk pv w = (p, climb)) :
    p.toList = x.toList ++ (pk, pv) :: w.toList := by
  rw [← toList_deleteFixupLeft x pc pk pv w, h]

theorem deleteFixupRight_keeps {x w p : AssocNode κ ν} {pc : AssocColor} {pk : κ} {pv : ν}
    {climb : Bool} (h : deleteFixupRight x pc pk pv w = (p, climb)) :
    p.toList = w.toList ++ (pk, pv) :: x.toList := by
  rw [← toList_deleteFixupRight x pc pk pv w, h]

theorem toList_deleteFixup (x : AssocNode κ ν) (up : List (AssocFrame κ ν)) :
    (deleteFixup x up).toList = before up ++ x.toList ++ after up := by
  fun_induction deleteFixup x up with
  | case1 => simp [before, after]
  | case2 => simp [toList_plug]
  | case3 | case4 | case5 | case6 =>
      have kept := deleteFixupLeft_keeps ‹_ = (_, _)›
      simp_all +zetaDelta [toList_plug, before, after, toList]
  | case7 | case8 | case9 | case10 =>
      have kept := deleteFixupRight_keeps ‹_ = (_, _)›
      simp_all +zetaDelta [toList_plug, before, after, toList]

theorem toList_closeGap (original : AssocColor) (x : AssocNode κ ν)
    (up : List (AssocFrame κ ν)) :
    (closeGap original x up).toList = before up ++ x.toList ++ after up := by
  unfold closeGap
  split
  · exact toList_deleteFixup x up
  · exact toList_plug x up

/-- The leftmost node has nothing before it. -/
theorem minimum_spec (c : AssocColor) (l : AssocNode κ ν) (k : κ) (v : ν) (r : AssocNode κ ν)
    (up : List (AssocFrame κ ν)) :
    let y := minimum c l k v r up
    before y.up = before up ∧
      (y.key, y.value) :: y.right.toList ++ after y.up =
        l.toList ++ (k, v) :: r.toList ++ after up := by
  induction l generalizing c k v r up with
  | dummy => simp [minimum, toList]
  | node lc ll lk lv lr ih =>
      obtain ⟨front, rest⟩ := ih lc lk lv lr (.left c k v r :: up)
      simp only [minimum]
      refine ⟨by rw [front, before], ?_⟩
      rw [rest]
      simp [after, toList]

theorem toList_extractNode (z : Place κ ν) :
    (extractNode z).toList = before z.up ++ z.left.toList ++ z.right.toList ++ after z.up := by
  unfold extractNode
  split
  · simp [toList_closeGap, toList, *]
  · simp [toList_closeGap, toList, *]
  · rename_i rc rl rk rv rr two _
    obtain ⟨front, rest⟩ := minimum_spec rc rl rk rv rr []
    simp only [before, after, List.append_nil] at front rest
    simp only [toList_closeGap, before_append, after_append, before, after, front, two, toList,
      ← rest, List.append_nil, List.append_assoc, List.cons_append, List.nil_append]

theorem findRbTree_some {o : Comparator κ} {key : κ} {x : AssocNode κ ν}
    {up : List (AssocFrame κ ν)} {z : Place κ ν} (h : findRbTree o key x up = some z) :
    o.Ties key z.key ∧
      before z.up ++ z.left.toList ++ (z.key, z.value) :: z.right.toList ++ after z.up =
        before up ++ x.toList ++ after up := by
  induction x generalizing up with
  | dummy => simp [findRbTree] at h
  | node c l k v r ihl ihr =>
      simp only [findRbTree] at h
      split at h
      · obtain ⟨ties, listed⟩ := ihl h
        exact ⟨ties, by rw [listed]; simp [before, after, toList]⟩
      · split at h
        · obtain ⟨ties, listed⟩ := ihr h
          exact ⟨ties, by rw [listed]; simp [before, after, toList]⟩
        · cases h
          have := o.range key k
          exact ⟨by simp only [Comparator.Ties]; omega, by simp [toList]⟩

theorem findIfNode_some {p : κ → Bool} {x : AssocNode κ ν} {up : List (AssocFrame κ ν)}
    {z : Place κ ν} (h : findIfNode p x up = some z) :
    p z.key ∧
      before z.up ++ z.left.toList ++ (z.key, z.value) :: z.right.toList ++ after z.up =
        before up ++ x.toList ++ after up := by
  induction x generalizing up with
  | dummy => simp [findIfNode] at h
  | node c l k v r ihl ihr =>
      simp only [findIfNode] at h
      split at h
      · cases h
        obtain ⟨holds, listed⟩ := ihl ‹_›
        exact ⟨holds, by rw [listed]; simp [before, after, toList]⟩
      · split at h
        · cases h
          exact ⟨‹_›, by simp [toList]⟩
        · obtain ⟨holds, listed⟩ := ihr h
          exact ⟨holds, by rw [listed]; simp [before, after, toList]⟩

theorem findIfNode_none {p : κ → Bool} {x : AssocNode κ ν} {up : List (AssocFrame κ ν)} :
    findIfNode p x up = none ↔ ∀ e ∈ x.toList, ¬p e.1 := by
  induction x generalizing up with
  | dummy => simp [findIfNode, toList]
  | node c l k v r ihl ihr =>
      simp only [findIfNode, toList, List.mem_append, List.mem_cons]
      split
      · rename_i z found
        have hit : findIfNode p l (.left c k v r :: up) = none ↔ _ := ihl
        rw [found] at hit
        grind
      · rename_i missed
        have clear := ihl.mp missed
        split
        · rename_i holds
          simp only [reduceCtorEq, false_iff, not_forall]
          exact ⟨(k, v), by simp, by simpa using holds⟩
        · rename_i fails
          rw [ihr]
          constructor
          · rintro right e (inL | rfl | inR)
            · exact clear e inL
            · exact fails
            · exact right e inR
          · exact fun all e inR => all e (.inr (.inr inR))

/-- The entries are in the order of their keys. -/
def Sorted (o : Comparator κ) (entries : List (κ × ν)) : Prop :=
  entries.Pairwise (fun a b => 0 ≤ o.cmp a.1 b.1)

/-- In a sorted tree the search only misses a key that nothing ties with. -/
theorem findRbTree_none {o : Comparator κ} {key : κ} {x : AssocNode κ ν}
    {up : List (AssocFrame κ ν)} (sorted : Sorted o x.toList)
    (h : findRbTree o key x up = none) : ∀ e ∈ x.toList, ¬o.Ties key e.1 := by
  induction x generalizing up with
  | dummy => simp [toList]
  | node c l k v r ihl ihr =>
      simp only [toList, Sorted, List.pairwise_append, List.pairwise_cons] at sorted
      obtain ⟨sortedL, ⟨aboveK, sortedR⟩, split⟩ := sorted
      simp only [findRbTree] at h
      have strict : ∀ {a}, o.cmp key a = 1 → ¬o.Ties key a := by
        intro a one tie
        rw [Comparator.Ties] at tie
        omega
      split at h
      · rename_i below
        intro e mem
        rcases List.mem_append.mp mem with inL | inR
        · exact ihl sortedL h e inL
        · rcases List.mem_cons.mp inR with rfl | inR
          · exact strict below
          · exact strict (o.strict_trans below (aboveK e inR))
      · split at h
        · rename_i above
          have later : o.cmp k key = 1 := by
            have := o.antisymm k key
            omega
          intro e mem
          rcases List.mem_append.mp mem with inL | inR
          · intro tie
            have earlier : 0 ≤ o.cmp e.1 k := split e inL (k, v) (by simp)
            have strictly := o.strict_trans later tie.le
            have := o.antisymm k e.1
            omega
          · rcases List.mem_cons.mp inR with rfl | inR
            · intro tie
              have : o.cmp key k = 0 := tie
              omega
            · exact ihr sortedR h e inR
        · cases h

/-- The leaf found for a key keeps the entries around it, and has nothing
    strictly later before it, nothing earlier or tied after it. -/
theorem insertPath_spec (o : Comparator κ) (key : κ) (x : AssocNode κ ν)
    (up : List (AssocFrame κ ν)) (sorted : Sorted o x.toList) :
    ∃ l r, x.toList = l ++ r ∧ (∀ e ∈ l, 0 ≤ o.cmp e.1 key) ∧ (∀ e ∈ r, o.cmp key e.1 = 1) ∧
      before (insertPath o key x up) = before up ++ l ∧
      after (insertPath o key x up) = r ++ after up := by
  induction x generalizing up with
  | dummy => exact ⟨[], [], by simp [toList, insertPath]⟩
  | node c lt k v rt ihl ihr =>
      simp only [toList, Sorted, List.pairwise_append, List.pairwise_cons] at sorted
      obtain ⟨sortedL, ⟨aboveK, sortedR⟩, split⟩ := sorted
      simp only [insertPath]
      split
      · rename_i below
        obtain ⟨l, r, cut, early, late, eqB, eqA⟩ := ihl (.left c k v rt :: up) sortedL
        refine ⟨l, r ++ (k, v) :: rt.toList, by simp [toList, cut], early, ?_, ?_, ?_⟩
        · intro e mem
          rcases List.mem_append.mp mem with inR | inT
          · exact late e inR
          · rcases List.mem_cons.mp inT with rfl | inT
            · exact below
            · exact o.strict_trans below (aboveK e inT)
        · simpa [before] using eqB
        · simpa [after] using eqA
      · rename_i below
        have upTo : 0 ≤ o.cmp k key := by
          have := o.antisymm k key
          have := o.range key k
          omega
        obtain ⟨l, r, cut, early, late, eqB, eqA⟩ := ihr (.right c lt k v :: up) sortedR
        refine ⟨lt.toList ++ (k, v) :: l, r, by simp [toList, cut], ?_, late, ?_, ?_⟩
        · intro e mem
          rcases List.mem_append.mp mem with inT | inL
          · exact o.trans (split e inT (k, v) (by simp)) upTo
          · rcases List.mem_cons.mp inL with rfl | inL
            · exact upTo
            · exact early e inL
        · simpa [before] using eqB
        · simpa [after] using eqA

end AssocNode

/-- A tree with its element count. Building one proves its keys in order. -/
structure AssocRbTree {κ : Type} (o : Comparator κ) (ν : Type) where
  root : AssocNode κ ν
  size : Nat
  sorted : AssocNode.Sorted o root.toList
  counted : size = root.toList.length

namespace AssocRbTree

variable {κ ν : Type} {o : Comparator κ}

def toList (t : AssocRbTree o ν) : List (κ × ν) := t.root.toList

def init : AssocRbTree o ν where
  root := .dummy
  size := 0
  sorted := by simp [AssocNode.toList, AssocNode.Sorted]
  counted := by simp [AssocNode.toList]

open AssocNode in
theorem sorted_insert {t : AssocNode κ ν} (sorted : Sorted o t.toList) (key : κ) (value : ν) :
    Sorted o (insertFixup (.node .red .dummy key value .dummy)
      (insertPath o key t [])).toList := by
  obtain ⟨l, r, cut, early, late, eqB, eqA⟩ := insertPath_spec o key t [] sorted
  rw [cut, Sorted, List.pairwise_append] at sorted
  obtain ⟨sortedL, sortedR, across⟩ := sorted
  simp only [toList_insertFixup, eqB, eqA, AssocNode.toList, before, after, List.nil_append,
    List.append_nil, Sorted, List.append_assoc, List.pairwise_append, List.pairwise_cons,
    List.singleton_append, List.mem_cons]
  refine ⟨sortedL, ⟨fun e mem => by simp [late e mem], sortedR⟩, ?_⟩
  rintro a inL b (rfl | inR)
  · exact early a inL
  · exact across a inL b inR

/-- `assoc_rb_tree_insert`. The source never looks for the key first. -/
def insert (t : AssocRbTree o ν) (key : κ) (value : ν) : AssocRbTree o ν where
  root := AssocNode.insertFixup (.node .red .dummy key value .dummy)
    (AssocNode.insertPath o key t.root [])
  size := t.size + 1
  sorted := sorted_insert t.sorted key value
  counted := by
    obtain ⟨l, r, cut, -, -, eqB, eqA⟩ := AssocNode.insertPath_spec o key t.root [] t.sorted
    rw [t.counted, AssocNode.toList_insertFixup, eqB, eqA, cut]
    simp [AssocNode.toList, AssocNode.before, AssocNode.after]
    omega

/-- A new entry comes after every entry whose key ties. -/
theorem insert_split (t : AssocRbTree o ν) (key : κ) (value : ν) :
    ∃ l r, t.toList = l ++ r ∧ (t.insert key value).toList = l ++ (key, value) :: r ∧
      ∀ e ∈ r, o.cmp key e.1 = 1 := by
  obtain ⟨l, r, cut, -, late, eqB, eqA⟩ := AssocNode.insertPath_spec o key t.root [] t.sorted
  refine ⟨l, r, cut, ?_, late⟩
  simp [toList, insert, AssocNode.toList_insertFixup, eqB, eqA, AssocNode.before,
    AssocNode.after, AssocNode.toList]

theorem insert_perm (t : AssocRbTree o ν) (key : κ) (value : ν) :
    (t.insert key value).toList.Perm ((key, value) :: t.toList) := by
  obtain ⟨l, r, cut, listed, -⟩ := t.insert_split key value
  rw [listed, cut]
  exact List.perm_middle

theorem size_eq (t : AssocRbTree o ν) : t.size = t.toList.length := t.counted

/-- The tree that is left when a node found in `t` goes. -/
def remove (t : AssocRbTree o ν) (z : AssocNode.Place κ ν)
    (listed : AssocNode.before z.up ++ z.left.toList ++ (z.key, z.value) :: z.right.toList ++
      AssocNode.after z.up = t.toList) : AssocRbTree o ν where
  root := AssocNode.extractNode z
  size := t.size - 1
  sorted := by
    refine List.Pairwise.sublist ?_ t.sorted
    change List.Sublist _ t.toList
    rw [AssocNode.toList_extractNode, ← listed]
    simp [List.append_assoc]
  counted := by
    rw [t.size_eq, ← listed, AssocNode.toList_extractNode]
    simp
    omega

/-- `assoc_rb_tree_extract`: the value that was stored, and the tree without it. -/
def extract (t : AssocRbTree o ν) (key : κ) : Checked (ν × AssocRbTree o ν) :=
  match found : AssocNode.findRbTree o key t.root [] with
  | none => .error .keyNotInTree
  | some z => .ok (z.value, t.remove z (by
      have listed := (AssocNode.findRbTree_some found).2
      simpa [AssocNode.before, AssocNode.after, toList] using listed))

/-- The value at which the search for `key` from the root stops. -/
def find (t : AssocRbTree o ν) (key : κ) : Option ν :=
  (AssocNode.findRbTree o key t.root []).map AssocNode.Place.value

/-- `find_if`: the first entry, from `front` on, whose key satisfies `p`. -/
def findIf (t : AssocRbTree o ν) (p : κ → Bool) : Option (κ × ν) :=
  t.toList.find? (fun e => p e.1)

/-- `find_if`, and `assoc_rb_tree_free_it` at what it found. -/
def freeIf (t : AssocRbTree o ν) (p : κ → Bool) : Option (AssocRbTree o ν) :=
  match found : AssocNode.findIfNode p t.root [] with
  | none => none
  | some z => some (t.remove z (by
      have listed := (AssocNode.findIfNode_some found).2
      simpa [AssocNode.before, AssocNode.after, toList] using listed))

/-- The tree with another value at a place that was found. -/
def rewritten (z : AssocNode.Place κ ν) (f : ν → ν) : AssocNode κ ν :=
  .plug (.node z.color z.left z.key (f z.value) z.right) z.up

theorem rewritten_listed {t : AssocRbTree o ν} {p : κ → Bool} {z : AssocNode.Place κ ν} (f : ν → ν)
    (found : AssocNode.findIfNode p t.root [] = some z) :
    ∃ l r, t.toList = l ++ (z.key, z.value) :: r ∧
      (rewritten z f).toList = l ++ (z.key, f z.value) :: r := by
  have listed := (AssocNode.findIfNode_some found).2
  refine ⟨AssocNode.before z.up ++ z.left.toList, z.right.toList ++ AssocNode.after z.up, ?_, ?_⟩
  · simpa [AssocNode.before, AssocNode.after, toList] using listed.symm
  · simp [rewritten, AssocNode.toList_plug, AssocNode.toList]

theorem sorted_rewritten {t : AssocRbTree o ν} {p : κ → Bool} {z : AssocNode.Place κ ν} (f : ν → ν)
    (found : AssocNode.findIfNode p t.root [] = some z) :
    AssocNode.Sorted o (rewritten z f).toList := by
  obtain ⟨l, r, listed, written⟩ := rewritten_listed f found
  have keys (l : List (κ × ν)) : AssocNode.Sorted o l ↔
      (l.map Prod.fst).Pairwise (fun a b => 0 ≤ o.cmp a b) := by
    rw [List.pairwise_map]
    rfl
  have sorted := (keys _).mp t.sorted
  rw [show t.root.toList = _ from listed] at sorted
  rw [keys, written]
  simpa using sorted

theorem counted_rewritten {t : AssocRbTree o ν} {p : κ → Bool} {z : AssocNode.Place κ ν}
    (f : ν → ν) (found : AssocNode.findIfNode p t.root [] = some z) :
    t.size = (rewritten z f).toList.length := by
  obtain ⟨l, r, listed, written⟩ := rewritten_listed f found
  rw [t.counted, show t.root.toList = _ from listed, written]
  simp

/-- `find_if`, and a write through `assoc_rb_tree_value` to what it found. -/
def modifyIf (t : AssocRbTree o ν) (p : κ → Bool) (f : ν → ν) : Option (AssocRbTree o ν) :=
  match found : AssocNode.findIfNode p t.root [] with
  | none => none
  | some z => some ⟨rewritten z f, t.size, sorted_rewritten f found, counted_rewritten f found⟩

theorem modifyIf_some {t t' : AssocRbTree o ν} {p : κ → Bool} {f : ν → ν}
    (h : t.modifyIf p f = some t') :
    ∃ l k v r, p k ∧ t.toList = l ++ (k, v) :: r ∧ t'.toList = l ++ (k, f v) :: r := by
  unfold modifyIf at h
  split at h
  · cases h
  · rename_i z found
    obtain ⟨l, r, listed, written⟩ := rewritten_listed f found
    cases h
    exact ⟨l, z.key, z.value, r, (AssocNode.findIfNode_some found).1, listed, written⟩

theorem modifyIf_none {t : AssocRbTree o ν} {p : κ → Bool} {f : ν → ν} :
    t.modifyIf p f = none ↔ ∀ e ∈ t.toList, ¬p e.1 := by
  unfold modifyIf
  split
  · rename_i missed
    exact iff_of_true rfl (AssocNode.findIfNode_none.mp missed)
  · rename_i z found
    have hit : AssocNode.findIfNode p t.root [] = none ↔ _ := AssocNode.findIfNode_none
    rw [found] at hit
    exact iff_of_false (by simp) (fun all => by simpa using hit.mpr all)

/-- Taking a node out takes out its entry and no other. -/
theorem remove_perm (t : AssocRbTree o ν) (z : AssocNode.Place κ ν)
    (listed : AssocNode.before z.up ++ z.left.toList ++ (z.key, z.value) :: z.right.toList ++
      AssocNode.after z.up = t.toList) :
    t.toList.Perm ((z.key, z.value) :: (t.remove z listed).toList) := by
  have rest : (t.remove z listed).toList = (AssocNode.before z.up ++ z.left.toList) ++
      (z.right.toList ++ AssocNode.after z.up) := by
    simp [toList, remove, AssocNode.toList_extractNode]
  rw [← listed, rest]
  simp only [List.append_assoc, List.cons_append]
  rw [← List.append_assoc, ← List.append_assoc]
  exact List.perm_middle

theorem freeIf_some {t t' : AssocRbTree o ν} {p : κ → Bool} (h : t.freeIf p = some t') :
    ∃ e, p e.1 ∧ t.toList.Perm (e :: t'.toList) := by
  unfold freeIf at h
  split at h
  · cases h
  · rename_i z found
    cases h
    exact ⟨(z.key, z.value), (AssocNode.findIfNode_some found).1, t.remove_perm z _⟩

theorem freeIf_none {t : AssocRbTree o ν} {p : κ → Bool} :
    t.freeIf p = none ↔ ∀ e ∈ t.toList, ¬p e.1 := by
  unfold freeIf
  split
  · rename_i missed
    exact iff_of_true rfl (AssocNode.findIfNode_none.mp missed)
  · rename_i z found
    have hit : AssocNode.findIfNode p t.root [] = none ↔ _ := AssocNode.findIfNode_none
    rw [found] at hit
    exact iff_of_false (by simp) (fun all => by simpa using hit.mpr all)

/-- What an extraction can do: it takes one entry whose key ties, and only fails
    when there is none. -/
theorem extract_ok {t t' : AssocRbTree o ν} {key : κ} {value : ν}
    (h : t.extract key = .ok (value, t')) :
    ∃ key', o.Ties key key' ∧ t.toList.Perm ((key', value) :: t'.toList) := by
  unfold extract at h
  split at h
  · cases h
  · rename_i z found
    have ties := (AssocNode.findRbTree_some found).1
    cases h
    exact ⟨z.key, ties, t.remove_perm z _⟩

/-- An extraction takes out the node that the search stops at. -/
theorem extract_at {t : AssocRbTree o ν} {key : κ} {z : AssocNode.Place κ ν}
    (h : AssocNode.findRbTree o key t.root [] = some z) :
    ∃ t', t.extract key = .ok (z.value, t') ∧ t'.root = AssocNode.extractNode z ∧
      t.toList.Perm ((z.key, z.value) :: t'.toList) := by
  unfold extract
  split
  · rename_i missed
    cases missed.symm.trans h
  · rename_i z' found
    cases found.symm.trans h
    exact ⟨_, rfl, rfl, t.remove_perm z _⟩

theorem extract_of_find {t : AssocRbTree o ν} {key : κ} {value : ν}
    (h : t.find key = some value) : ∃ t', t.extract key = .ok (value, t') := by
  obtain ⟨z, found, rfl⟩ := Option.map_eq_some_iff.mp h
  obtain ⟨t', extracted, -⟩ := extract_at found
  exact ⟨t', extracted⟩

theorem find_of_extract {t t' : AssocRbTree o ν} {key : κ} {value : ν}
    (h : t.extract key = .ok (value, t')) : t.find key = some value := by
  unfold extract at h
  split at h
  · cases h
  · rename_i z found
    cases h
    exact Option.map_eq_some_iff.mpr ⟨z, found, rfl⟩

theorem extract_error {t : AssocRbTree o ν} {key : κ} {e : Assertion} :
    t.extract key = .error e ↔ e = .keyNotInTree ∧ ∀ f ∈ t.toList, ¬o.Ties key f.1 := by
  unfold extract
  split
  · rename_i missed
    have none_ties := AssocNode.findRbTree_none t.sorted missed
    constructor
    · intro h
      cases h
      exact ⟨rfl, none_ties⟩
    · rintro ⟨rfl, -⟩
      rfl
  · rename_i z found
    obtain ⟨ties, listed⟩ := AssocNode.findRbTree_some found
    simp only [reduceCtorEq, false_iff, not_and, not_forall]
    intro _
    refine ⟨(z.key, z.value), ?_, by simpa using ties⟩
    simp only [AssocNode.before, AssocNode.after, List.nil_append, List.append_nil] at listed
    rw [toList, ← listed]
    simp

/-- No two keys tie. -/
def Distinct (t : AssocRbTree o ν) : Prop := t.toList.Pairwise (o.Apart Prod.fst)

theorem distinct_of_perm {t : AssocRbTree o ν} {entries : List (κ × ν)}
    (perm : t.toList.Perm entries) : t.Distinct ↔ entries.Pairwise (o.Apart Prod.fst) :=
  perm.pairwise_iff fun {_ _} => Comparator.Apart.symm

theorem distinct_insert {t : AssocRbTree o ν} {key : κ} {value : ν} :
    (t.insert key value).Distinct ↔ (∀ e ∈ t.toList, ¬o.Ties key e.1) ∧ t.Distinct := by
  rw [distinct_of_perm (t.insert_perm key value), List.pairwise_cons]
  rfl

/-- Where one key ties, the extraction takes its entry. -/
theorem extract_unique {t : AssocRbTree o ν} {key key' : κ} {value : ν}
    (mem : (key', value) ∈ t.toList) (ties : o.Ties key key')
    (only : ∀ e ∈ t.toList, o.Ties key e.1 → e = (key', value)) :
    ∃ t', t.extract key = .ok (value, t') ∧ t.toList.Perm ((key', value) :: t'.toList) := by
  cases got : t.extract key with
  | error e => exact absurd ties ((extract_error.mp got).2 _ mem)
  | ok r =>
      obtain ⟨found, t'⟩ := r
      obtain ⟨k, tied, perm⟩ := extract_ok got
      have same := only (k, found) (perm.mem_iff.mpr (by simp)) tied
      cases same
      exact ⟨t', rfl, perm⟩

theorem find_some {t : AssocRbTree o ν} {key : κ} {value : ν} (h : t.find key = some value) :
    ∃ key', o.Ties key key' ∧ (key', value) ∈ t.toList := by
  obtain ⟨z, found, rfl⟩ := Option.map_eq_some_iff.mp h
  obtain ⟨ties, listed⟩ := AssocNode.findRbTree_some found
  simp only [AssocNode.before, AssocNode.after, List.nil_append, List.append_nil] at listed
  exact ⟨z.key, ties, by simp [toList, ← listed]⟩

theorem find_none {t : AssocRbTree o ν} {key : κ} (h : t.find key = none) :
    ∀ e ∈ t.toList, ¬o.Ties key e.1 :=
  AssocNode.findRbTree_none t.sorted (Option.map_eq_none_iff.mp h)

/-- Under a strict total order a tree whose keys are apart is a finite map. -/
theorem represents_find {t : AssocRbTree o ν} (strict : o.Strict) (distinct : t.Distinct) :
    Represents t.toList t.find where
  distinct := by
    rw [List.Nodup, List.pairwise_map]
    apply List.Pairwise.imp _ distinct
    intro a b apart same
    exact apart (same ▸ Comparator.Ties.refl o a.1)
  mem_iff k v := by
    constructor
    · intro mem
      cases found : t.find k with
      | none => exact absurd (Comparator.Ties.refl o k) (find_none found _ mem)
      | some v' =>
          obtain ⟨k', ties, mem'⟩ := find_some found
          cases Comparator.eq_of_ties distinct mem mem' ties
          rfl
    · intro found
      obtain ⟨k', ties, mem⟩ := find_some found
      rwa [strict k k' ties]

@[simp] theorem toList_init : (init : AssocRbTree o ν).toList = [] := rfl

/-- The entry at `assoc_rb_tree_front`, unless that is `assoc_rb_tree_end`. -/
def front (t : AssocRbTree o ν) : Option (κ × ν) := t.toList.head?

theorem findIf_some {t : AssocRbTree o ν} {p : κ → Bool} {e : κ × ν} (h : t.findIf p = some e) :
    e ∈ t.toList ∧ p e.1 := by
  have holds := List.find?_some h
  exact ⟨List.mem_of_find?_eq_some h, holds⟩

/-- Where a key ties already, a search for what ties still stops at the older entry. -/
theorem findIf_insert_of_ties {t : AssocRbTree o ν} {p : κ → Bool} {key : κ} {e : κ × ν}
    (same : ∀ k, p k → o.Ties key k) (mem : e ∈ t.toList) (holds : p e.1) (value : ν) :
    (t.insert key value).findIf p = t.findIf p := by
  obtain ⟨l, r, cut, listed, late⟩ := t.insert_split key value
  have inL : e ∈ l := by
    rw [cut] at mem
    apply (List.mem_append.mp mem).resolve_right
    intro inR
    have after := late e inR
    have tie : o.cmp key e.1 = 0 := same _ holds
    omega
  have found : (l.find? fun e => p e.1).isSome := List.find?_isSome.mpr ⟨e, inL, holds⟩
  rw [findIf, findIf, listed, cut, List.find?_append, List.find?_append,
    Option.or_of_isSome found, Option.or_of_isSome found]

theorem findIf_none {t : AssocRbTree o ν} {p : κ → Bool} :
    t.findIf p = none ↔ ∀ e ∈ t.toList, ¬p e.1 := by
  simp [findIf]

end AssocRbTree

end FlexRic
