import FlexRic.Library.Comparator
import FlexRic.Library.Heap
import FlexRic.Util.AssocRbTree

/-! # The red-black tree in memory

`assoc_rb_tree.c` as it is: nodes on a heap that point to their children and to
their parent, and the one sentinel `dummy` that all leaves and the parent of the
root share. A dereference of `NULL` or of a freed node is a failure, and so is a
loop that takes more rounds than the tree has nodes.

The source writes everything that rotates twice, once for each side. Here the
side is a parameter.
-/

namespace FlexRic

abbrev Ptr := Nat

inductive Side where
  | left
  | right
  deriving DecidableEq, Repr

def Side.other : Side → Side
  | .left => .right
  | .right => .left

/-- What ends an operation. -/
inductive AssocRbFailure where
  /-- A dereference of `NULL`, or of a node that was freed. -/
  | badPointer
  /-- `x_node->right != tree->dummy` of a left rotation, and its mirror image -/
  | noChild
  /-- `w_node->color == ASSOC_BLACK` -/
  | siblingRed
  /-- `w_node->left->color == ASSOC_RED`, `w_node->right->color == ASSOC_RED` -/
  | nephewBlack
  /-- `u_node != tree->dummy` -/
  | transplantDummy
  /-- `z_node != tree->dummy` -/
  | createdDummy
  /-- `rc == 0` -/
  | comparison
  /-- `"Trying to extract a key not found in the tree"` -/
  | keyNotInTree
  /-- `tree->size != 0` -/
  | noSize
  /-- `"No next node since the end reached"` -/
  | noNext
  /-- `"end iterator passed?"` -/
  | endIterator
  /-- A loop that does not end. -/
  | endless
  deriving DecidableEq, Repr

abbrev RbResult (α : Type) := Except AssocRbFailure α

/-- The links of an `assoc_node_t`. -/
structure NodeLinks where
  parent : Ptr
  left : Ptr
  right : Ptr
  color : AssocColor
  deriving DecidableEq, Repr

namespace NodeLinks

def child (n : NodeLinks) : Side → Ptr
  | .left => n.left
  | .right => n.right

def setChild (n : NodeLinks) (d : Side) (p : Ptr) : NodeLinks :=
  match d with
  | .left => { n with left := p }
  | .right => { n with right := p }

def setParent (n : NodeLinks) (p : Ptr) : NodeLinks := { n with parent := p }

def setColor (n : NodeLinks) (c : AssocColor) : NodeLinks := { n with color := c }

end NodeLinks

/-- The links of all nodes, and the root. -/
structure RbLinks where
  nodes : Heap NodeLinks
  root : Ptr

namespace RbLinks

def null : Ptr := 0

/-- Where the sentinel is. -/
def dummy : Ptr := 1

def load (t : RbLinks) (p : Ptr) : RbResult NodeLinks := t.nodes.load .badPointer p

def modify (t : RbLinks) (p : Ptr) (f : NodeLinks → NodeLinks) : RbResult RbLinks := do
  let nodes ← t.nodes.modify .badPointer p f
  pure { t with nodes := nodes }

/-- What the rotations and `transplant` share: `v` takes the place of `u` below
    the parent of `u`. -/
def relink (t : RbLinks) (u v : Ptr) : RbResult RbLinks := do
  let parent := (← t.load u).parent
  if parent = dummy then pure { t with root := v }
  else if u = (← t.load parent).left then t.modify parent (·.setChild .left v)
  else t.modify parent (·.setChild .right v)

/-- `if(v_node != tree->dummy) v_node->parent = p_node;` -/
def adopt (t : RbLinks) (vNode pNode : Ptr) : RbResult RbLinks :=
  if vNode ≠ dummy then t.modify vNode (·.setParent pNode) else pure t

/-- `left_rotate` and `right_rotate`. -/
def rotate (d : Side) (t : RbLinks) (xNode : Ptr) : RbResult RbLinks := do
  let yNode := (← t.load xNode).child d.other
  check (yNode ≠ dummy) .noChild
  let inner := (← t.load yNode).child d
  let t ← t.modify xNode (·.setChild d.other inner)
  let t ← t.adopt inner xNode
  let parent := (← t.load xNode).parent
  let t ← t.modify yNode (·.setParent parent)
  let t ← t.relink xNode yNode
  let t ← t.modify yNode (·.setChild d xNode)
  t.modify xNode (·.setParent yNode)

def leftRotate : RbLinks → Ptr → RbResult RbLinks := rotate .left

def rightRotate : RbLinks → Ptr → RbResult RbLinks := rotate .right

/-- Case 2 of `insert_fixup`: the tree, `z_node` and its parent. -/
def insertFixupCase2 (d : Side) (t : RbLinks) (zNode parent : Ptr) :
    RbResult (RbLinks × Ptr × Ptr) := do
  if zNode = (← t.load parent).child d.other then do
    let zNode := parent
    let t ← t.rotate d zNode
    pure (t, zNode, (← t.load zNode).parent)
  else pure (t, zNode, parent)

/-- The loop body of `insert_fixup` for a parent that is the child of its own
    parent on side `d`: the tree, and the next `z_node`. -/
def insertFixupBody (d : Side) (t : RbLinks) (zNode parent grandParent : Ptr) :
    RbResult (RbLinks × Ptr) := do
  let uncle := (← t.load grandParent).child d.other
  if (← t.load uncle).color = .red then do
    let t ← t.modify parent (·.setColor .black)
    let t ← t.modify uncle (·.setColor .black)
    let t ← t.modify grandParent (·.setColor .red)
    pure (t, grandParent)
  else do
    let (t, zNode, parent) ← t.insertFixupCase2 d zNode parent
    let t ← t.modify parent (·.setColor .black)
    let t ← t.modify grandParent (·.setColor .red)
    let t ← t.rotate d.other grandParent
    pure (t, zNode)

/-- `insert_fixup`, in so many rounds. -/
def insertFixup : Nat → RbLinks → Ptr → RbResult RbLinks
  | 0, _, _ => .error .endless
  | rounds + 1, t, zNode => do
      let parent := (← t.load zNode).parent
      if (← t.load parent).color = .red then do
        let grandParent := (← t.load parent).parent
        let side := if parent = (← t.load grandParent).left then Side.left else .right
        let (t, zNode) ← t.insertFixupBody side zNode parent grandParent
        insertFixup rounds t zNode
      else t.modify t.root (·.setColor .black)

/-- Case 1 of `delete_fixup`: the tree, and the sibling of `x_node`. -/
def deleteFixupCase1 (d : Side) (t : RbLinks) (xNode wNode : Ptr) :
    RbResult (RbLinks × Ptr) := do
  if (← t.load wNode).color = .red then do
    let t ← t.modify wNode (·.setColor .black)
    let t ← t.modify (← t.load xNode).parent (·.setColor .red)
    let t ← t.rotate d (← t.load xNode).parent
    pure (t, (← t.load (← t.load xNode).parent).child d.other)
  else pure (t, wNode)

/-- Case 3 of `delete_fixup`: the tree, and the sibling of `x_node`. -/
def deleteFixupCase3 (d : Side) (t : RbLinks) (xNode wNode : Ptr) :
    RbResult (RbLinks × Ptr) := do
  let w ← t.load wNode
  if (← t.load (w.child d.other)).color = .black then do
    check (w.color = .black) .siblingRed
    check ((← t.load (w.child d)).color = .red) .nephewBlack
    let t ← t.modify (w.child d) (·.setColor .black)
    let t ← t.modify wNode (·.setColor .red)
    let t ← t.rotate d.other wNode
    pure (t, (← t.load (← t.load xNode).parent).child d.other)
  else pure (t, wNode)

/-- Case 4 of `delete_fixup`. -/
def deleteFixupCase4 (d : Side) (t : RbLinks) (xNode wNode : Ptr) : RbResult RbLinks := do
  let w ← t.load wNode
  check (w.color = .black) .siblingRed
  check ((← t.load (w.child d.other)).color = .red) .nephewBlack
  let color := (← t.load (← t.load xNode).parent).color
  let t ← t.modify wNode (·.setColor color)
  let t ← t.modify (← t.load xNode).parent (·.setColor .black)
  let t ← t.modify ((← t.load wNode).child d.other) (·.setColor .black)
  t.rotate d (← t.load xNode).parent

/-- Cases 2 to 4 of `delete_fixup`: the tree, and the next `x_node`. -/
def deleteFixupRest (d : Side) (t : RbLinks) (xNode wNode : Ptr) : RbResult (RbLinks × Ptr) := do
  let w ← t.load wNode
  check (w.color = .black) .siblingRed
  if (← t.load w.left).color = .black ∧ (← t.load w.right).color = .black then do
    let t ← t.modify wNode (·.setColor .red)
    pure (t, (← t.load xNode).parent)
  else do
    let (t, wNode) ← t.deleteFixupCase3 d xNode wNode
    let t ← t.deleteFixupCase4 d xNode wNode
    pure (t, t.root)

/-- The loop body of `delete_fixup` for an `x_node` that is the child of its
    parent on side `d`: the tree, and the next `x_node`. -/
def deleteFixupBody (d : Side) (t : RbLinks) (xNode : Ptr) : RbResult (RbLinks × Ptr) := do
  let wNode := (← t.load (← t.load xNode).parent).child d.other
  let (t, wNode) ← t.deleteFixupCase1 d xNode wNode
  t.deleteFixupRest d xNode wNode

/-- `delete_fixup`, in so many rounds. -/
def deleteFixup : Nat → RbLinks → Ptr → RbResult RbLinks
  | 0, _, _ => .error .endless
  | rounds + 1, t, xNode => do
      if xNode ≠ t.root ∧ (← t.load xNode).color = .black then do
        let parent ← t.load (← t.load xNode).parent
        let side := if xNode = parent.left then Side.left else .right
        let (t, xNode) ← t.deleteFixupBody side xNode
        deleteFixup rounds t xNode
      else t.modify xNode (·.setColor .black)

def transplant (t : RbLinks) (uNode vNode : Ptr) : RbResult RbLinks := do
  check (uNode ≠ dummy) .transplantDummy
  let t ← t.relink uNode vNode
  let parent := (← t.load uNode).parent
  t.modify vNode (·.setParent parent)

/-- The loop of `minimum`, in so many rounds. -/
def leftmost : Nat → RbLinks → Ptr → RbResult Ptr
  | 0, _, _ => .error .endless
  | rounds + 1, t, xNode => do
      let left := (← t.load xNode).left
      if left ≠ dummy then leftmost rounds t left else pure xNode

def minimum (rounds : Nat) (t : RbLinks) (xNode : Ptr) : RbResult Ptr :=
  if xNode = dummy then pure dummy else leftmost rounds t xNode

/-- The successor `y_node` of a node leaves its place, with the right subtree of
    the node below it. -/
def detach (t : RbLinks) (zNode yNode : Ptr) : RbResult RbLinks := do
  let xNode := (← t.load yNode).right
  if (← t.load yNode).parent = zNode then t.modify xNode (·.setParent yNode)
  else do
    let t ← t.transplant yNode xNode
    let right := (← t.load zNode).right
    let t ← t.modify yNode (·.setChild .right right)
    t.modify right (·.setParent yNode)

/-- It takes the place of the node, with the left subtree and the colour. -/
def replace (t : RbLinks) (zNode yNode : Ptr) : RbResult RbLinks := do
  let t ← t.transplant zNode yNode
  let left := (← t.load zNode).left
  let t ← t.modify yNode (·.setChild .left left)
  let t ← t.modify left (·.setParent yNode)
  let color := (← t.load zNode).color
  t.modify yNode (·.setColor color)

/-- The branches of `assoc_rb_tree_extract_node` up to the fixup: the tree, the
    original colour, and `x_node`. -/
def takeOut (rounds : Nat) (t : RbLinks) (zNode : Ptr) :
    RbResult (RbLinks × AssocColor × Ptr) := do
  let z ← t.load zNode
  if z.left = dummy then do
    let t ← t.transplant zNode z.right
    pure (t, z.color, z.right)
  else if z.right = dummy then do
    let t ← t.transplant zNode z.left
    pure (t, z.color, z.left)
  else do
    let yNode ← t.minimum rounds z.right
    let y ← t.load yNode
    let t ← t.detach zNode yNode
    let t ← t.replace zNode yNode
    pure (t, y.color, y.right)

/-- `assoc_rb_tree_extract_node`. -/
def extractNode (rounds : Nat) (t : RbLinks) (zNode : Ptr) : RbResult RbLinks := do
  check (zNode ≠ dummy) .keyNotInTree
  let (t, originalColor, xNode) ← t.takeOut rounds zNode
  if originalColor = .black then t.deleteFixup rounds xNode else pure t

end RbLinks

/-- `assoc_rb_tree_t` and its memory. The keys and values of the nodes are kept
    apart from their links; the sentinel has none. -/
structure RbMemory (κ ν : Type) where
  links : RbLinks
  entries : Heap (κ × ν)
  size : Nat

namespace RbMemory

open RbLinks (null dummy)

variable {κ ν : Type}

def init : RbMemory κ ν where
  links := ⟨Function.update (fun _ => none) dummy (some ⟨null, null, null, .black⟩), dummy⟩
  entries := fun _ => none
  size := 0

/-- The rounds that any loop over the tree may take. -/
def rounds (tree : RbMemory κ ν) : Nat := tree.size + 2

def entry (tree : RbMemory κ ν) (p : Ptr) : RbResult (κ × ν) := tree.entries.load .badPointer p

/-- The loop that finds the leaf to insert at: `y_node`. -/
def descend (o : Comparator κ) (tree : RbMemory κ ν) (key : κ) :
    Nat → Ptr → Ptr → RbResult Ptr
  | 0, _, _ => .error .endless
  | rounds + 1, xNode, yNode =>
      if xNode ≠ dummy then do
        if o.cmp key (← tree.entry xNode).1 = 1 then
          tree.descend o key rounds (← tree.links.load xNode).left xNode
        else tree.descend o key rounds (← tree.links.load xNode).right xNode
      else pure yNode

/-- The new node becomes the root, or a child of `y_node`. -/
def link (o : Comparator κ) (tree : RbMemory κ ν) (zNode yNode : Ptr) (key : κ) :
    RbResult RbLinks :=
  if yNode = dummy then pure { tree.links with root := zNode }
  else do
    if o.cmp key (← tree.entry yNode).1 = 1 then tree.links.modify yNode (·.setChild .left zNode)
    else tree.links.modify yNode (·.setChild .right zNode)

/-- `create_node_rb_tree`, for the address that `malloc` returns. -/
def createNode (tree : RbMemory κ ν) (addr : Ptr) (key : κ) (value : ν) : RbMemory κ ν :=
  { tree with
    links := { tree.links with
      nodes := Function.update tree.links.nodes addr (some ⟨dummy, dummy, dummy, .red⟩) }
    entries := Function.update tree.entries addr (some (key, value)) }

/-- `assoc_rb_tree_insert`. -/
def insert (o : Comparator κ) (tree : RbMemory κ ν) (zNode : Ptr) (key : κ) (value : ν) :
    RbResult (RbMemory κ ν) := do
  let tree := tree.createNode zNode key value
  check (zNode ≠ dummy) .createdDummy
  let yNode ← tree.descend o key tree.rounds tree.links.root dummy
  let links ← tree.links.modify zNode (·.setParent yNode)
  let links ← { tree with links := links }.link o zNode yNode key
  let links ← links.insertFixup tree.rounds zNode
  pure { tree with links := links, size := tree.size + 1 }

/-- `find_rb_tree`, in so many rounds. -/
def findRbTree (o : Comparator κ) (tree : RbMemory κ ν) (key : κ) : Nat → Ptr → RbResult Ptr
  | 0, _ => .error .endless
  | rounds + 1, node =>
      if node ≠ dummy then do
        let rc := o.cmp key (← tree.entry node).1
        if rc = 1 then tree.findRbTree o key rounds (← tree.links.load node).left
        else if rc = -1 then tree.findRbTree o key rounds (← tree.links.load node).right
        else do
          check (rc = 0) .comparison
          pure node
      else pure node

/-- `assoc_rb_tree_extract`: the value, and the tree without the node, which is freed. -/
def extract (o : Comparator κ) (tree : RbMemory κ ν) (key : κ) :
    RbResult (ν × RbMemory κ ν) := do
  let zNode ← tree.findRbTree o key tree.rounds tree.links.root
  check (zNode ≠ dummy) .keyNotInTree
  let links ← tree.links.extractNode tree.rounds zNode
  let value := (← tree.entry zNode).2
  check (tree.size ≠ 0) .noSize
  pure (value, {
    links := { links with nodes := Function.update links.nodes zNode none }
    entries := Function.update tree.entries zNode none
    size := tree.size - 1 })

/-- `assoc_rb_tree_end`. -/
def endIter (_tree : RbMemory κ ν) : Ptr := dummy

/-- `assoc_rb_tree_key`. -/
def key (tree : RbMemory κ ν) (it : Ptr) : RbResult κ := do
  check (it ≠ dummy) .endIterator
  pure (← tree.entry it).1

/-- `assoc_rb_tree_value`. -/
def value (tree : RbMemory κ ν) (it : Ptr) : RbResult ν := do
  check (it ≠ dummy) .endIterator
  pure (← tree.entry it).2

/-- A search from the root, and the value that is read where it stops. -/
def find (o : Comparator κ) (tree : RbMemory κ ν) (key : κ) : RbResult (Option ν) := do
  let it ← tree.findRbTree o key tree.rounds tree.links.root
  if it = tree.endIter then pure none
  else do
    let value ← tree.value it
    pure (some value)

/-- `assoc_rb_tree_front`. -/
def front (tree : RbMemory κ ν) : RbResult Ptr :=
  tree.links.minimum tree.rounds tree.links.root

/-- The climb of `assoc_rb_tree_next`, from a node to the `p` it returns. -/
def climb (tree : RbMemory κ ν) : Nat → Ptr → Ptr → RbResult Ptr
  | 0, _, _ => .error .endless
  | rounds + 1, node, p =>
      if p ≠ dummy then do
        if (← tree.links.load p).left ≠ node then
          tree.climb rounds p (← tree.links.load p).parent
        else pure p
      else pure p

/-- `assoc_rb_tree_next`. -/
def next (tree : RbMemory κ ν) (it : Ptr) : RbResult Ptr := do
  check (it ≠ dummy) .noNext
  let right := (← tree.links.load it).right
  if right ≠ dummy then tree.links.minimum tree.rounds right
  else tree.climb tree.rounds it (← tree.links.load it).parent

/-- The loop of every user: from an iterator on, the entries that it meets. -/
def walkFrom (tree : RbMemory κ ν) : Nat → Ptr → RbResult (List (κ × ν))
  | 0, _ => .error .endless
  | rounds + 1, it =>
      if it ≠ tree.endIter then do
        let key ← tree.key it
        let value ← tree.value it
        let rest ← tree.walkFrom rounds (← tree.next it)
        pure ((key, value) :: rest)
      else pure []

def walk (tree : RbMemory κ ν) : RbResult (List (κ × ν)) := do
  tree.walkFrom tree.rounds (← tree.front)

end RbMemory

end FlexRic
