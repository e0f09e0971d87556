import FlexRic.Library.Copying

/-! # Blocks of memory

A computation takes blocks that are not in use. What is stated of its parts is put
together along the binds, with the blocks that each of them took.
-/

namespace FlexRic

/-- The address of a block. -/
abbrev Addr := Nat

/-- What hands out blocks. A new one is none of those in use. -/
structure Allocator where
  fresh : List Addr → Addr
  fresh_not_mem : ∀ used, fresh used ∉ used

/-- The address above all of these. -/
def above : List Addr → Addr
  | [] => 0
  | block :: used => block + above used + 1

theorem lt_above {block : Addr} {used : List Addr} (mem : block ∈ used) : block < above used := by
  induction used with
  | nil => cases mem
  | cons first used ih =>
      rw [above]
      rcases List.mem_cons.mp mem with rfl | later
      · exact Nat.lt_succ_of_le (Nat.le_add_right _ _)
      · exact Nat.lt_succ_of_lt (Nat.lt_of_lt_of_le (ih later) (Nat.le_add_left _ _))

theorem above_not_mem (used : List Addr) : above used ∉ used :=
  fun mem => Nat.lt_irrefl _ (lt_above mem)

/-- The block above all others. -/
def Allocator.above : Allocator where
  fresh := FlexRic.above
  fresh_not_mem := above_not_mem

/-- A computation that takes blocks, and knows those in use. -/
abbrev Allocates (ε : Type) := StateT (List Addr) (Except ε)

/-- Take a block. Memory is not exhausted. -/
def Allocator.calloc (heap : Allocator) {ε : Type} : Allocates ε Addr :=
  fun used => pure (heap.fresh used, heap.fresh used :: used)

variable {ε α β : Type} {x : Allocates ε α} {p q : Prop} {good : α → Prop}
  {blocks : α → List Addr} {old : List Addr}

/-- The computation completes just where it passes. What it then gives is good, and of the
    blocks that were in use has none but the old ones. -/
def Takes (old : List Addr) (x : Allocates ε α) (passes : Prop) (good : α → Prop)
    (blocks : α → List Addr) : Prop :=
  ∀ used, Yields (x.run used) passes fun r =>
    good r.1 ∧ used ⊆ r.2 ∧ ∀ b ∈ blocks r.1, b ∈ used → b ∈ old

theorem Takes.iff (takes : Takes old x p good blocks) (same : p ↔ q) :
    Takes old x q good blocks := fun used => (takes used).iff same

theorem Takes.of_pure {a : α} (here : good a) (known : blocks a ⊆ old) :
    Takes old (pure a : Allocates ε α) True good blocks := by
  intro used
  apply Yields.of_pure
  exact ⟨here, fun _ => id, fun b mem _ => known mem⟩

theorem Takes.of_calloc (heap : Allocator) :
    Takes old (heap.calloc : Allocates ε Addr) True (fun _ => True) fun block => [block] := by
  intro used
  apply Yields.of_pure
  refine ⟨trivial, fun _ => List.mem_cons_of_mem _, fun b mem inUse => ?_⟩
  cases List.mem_singleton.mp mem
  exact absurd inUse (heap.fresh_not_mem used)

/-- A computation that takes no blocks. -/
theorem Takes.of_lift {y : Except ε α} (yields : Yields y p good) :
    Takes old (liftM y : Allocates ε α) p good fun _ => [] := by
  intro used
  apply ((yields.bind fun a here => Yields.of_pure ?_).iff (Iff.of_eq (and_true p)) : Yields
    (y >>= fun a => pure (a, used)) p _)
  exact ⟨here, fun _ => id, nofun⟩

theorem Takes.bind {f : α → Allocates ε β} {good' : β → Prop} {blocks' : β → List Addr}
    (here : Takes old x p good blocks)
    (rest : ∀ a, good a → Takes (blocks a ++ old) (f a) q good' blocks') :
    Takes old (x >>= f) (p ∧ q) good' blocks' := by
  intro used
  rw [StateT.run_bind]
  apply (here used).bind
  rintro ⟨a, later⟩ ⟨first, grown, new⟩
  apply (rest a first later).imp
  rintro ⟨b, last⟩ ⟨second, grown', new'⟩
  refine ⟨second, fun _ mem => grown' (grown mem), fun block mem inUse => ?_⟩
  rcases List.mem_append.mp (new' block mem (grown inUse)) with taken | known
  · exact new block taken inUse
  · exact known

theorem Takes.map {f : α → β} {good' : β → Prop} {blocks' : β → List Addr}
    (here : Takes old x p good blocks) (each : ∀ a, good a → good' (f a))
    (known : ∀ a, blocks' (f a) ⊆ blocks a) : Takes old (f <$> x) p good' blocks' := by
  rw [map_eq_pure_bind]
  apply (here.bind fun a first => Takes.of_pure (each a first) ?_).iff (Iff.of_eq (and_true p))
  exact fun b mem => List.mem_append_left _ (known a mem)

end FlexRic
