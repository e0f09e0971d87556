import FlexRic.Library.Checked
import Mathlib.Logic.Function.Basic

/-! # Heaps of one kind of object

A heap maps addresses to what was allocated there. Reading or writing anywhere
else is a failure.
-/

namespace FlexRic

abbrev Heap (α : Type) := Nat → Option α

namespace Heap

variable {ε : Type} {α : Type}

def load (fault : ε) (h : Heap α) (p : Nat) : Except ε α :=
  match h p with
  | none => .error fault
  | some a => .ok a

/-- Write to an object what `f` makes of it. -/
def modify (fault : ε) (h : Heap α) (p : Nat) (f : α → α) : Except ε (Heap α) :=
  match h p with
  | none => .error fault
  | some a => .ok (Function.update h p (some (f a)))

variable {fault : ε} {h : Heap α} {p : Nat} {a : α}

theorem load_ok (there : h p = some a) : load fault h p = .ok a := by
  rw [load, there]

theorem modify_ok (there : h p = some a) (f : α → α) :
    modify fault h p f = .ok (Function.update h p (some (f a))) := by
  rw [modify, there]

end Heap

end FlexRic
