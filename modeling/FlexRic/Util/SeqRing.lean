import FlexRic.Library.Circular
import FlexRic.Library.Machine
import FlexRic.Library.MachineInt
import Mathlib.Algebra.Group.Int.Defs

/-! # The ring sequence

`seq_ring_t` keeps its elements in a buffer whose capacity is a power of two. The
counters of its ends are 32 bits wide and run freely; their low bits are the
slots. Iterators are offsets in bytes into the buffer.

The model has one item of the buffer for each slot, since the source only ever
moves whole elements, and leaves the allocations it makes room for.
-/

namespace FlexRic

/-- What ends an operation. -/
inductive SeqRingFailure where
  /-- `full(r)` when enlarging -/
  | full
  /-- `"Only deletions from tail implemented"` -/
  | onlyFromTail
  /-- `end_pos <= r->cap`, `end_pos != start_pos`, `mask(r->cap, r->tail) == end_pos` -/
  | endPos
  /-- A division by `elt_size` when that is zero. -/
  | divisionByZero
  /-- An access that leaves the buffer. -/
  | outOfBounds
  /-- A loop that goes on for longer than it was given. -/
  | endless
  deriving DecidableEq, Repr

structure SeqRing (α : Type) where
  eltSize : Nat
  array : List α
  cap : Nat
  head : UInt32
  tail : UInt32

namespace SeqRing

variable {α : Type}

/-- `DEFAULT_ELM` of the container. -/
def defaultElm : Nat := 32

/-- `seq_ring_init`, for as many elements. Cleared memory is the default element. -/
def init [Inhabited α] (elms eltSize : Nat) : SeqRing α where
  eltSize := eltSize
  array := List.replicate elms default
  cap := elms
  head := 0
  tail := 0

/-- The capacity comes as a `uint32_t`. -/
def mask (cap : Nat) (val : UInt32) : UInt32 := val &&& (UInt32.ofNat cap - 1)

def size (r : SeqRing α) : Nat := (r.head - r.tail).toNat

def full (r : SeqRing α) : Bool := r.size = r.cap - 1

/-- The copies of `enlarge_buffer`: one, or two when the elements go around. -/
def unroll (r : SeqRing α) (tmpBuffer : List α) (headPos tailPos : Nat) :
    Except SeqRingFailure (List α) :=
  if headPos > tailPos then do
    let part ← Buffer.readAt .outOfBounds r.array tailPos (headPos - tailPos)
    Buffer.writeAt .outOfBounds tmpBuffer 0 part
  else do
    let part ← Buffer.readAt .outOfBounds r.array tailPos (r.cap - tailPos)
    let tmpBuffer ← Buffer.writeAt .outOfBounds tmpBuffer 0 part
    let part ← Buffer.readAt .outOfBounds r.array 0 headPos
    Buffer.writeAt .outOfBounds tmpBuffer (r.cap - tailPos) part

def enlargeBuffer [Inhabited α] (r : SeqRing α) : Except SeqRingFailure (SeqRing α) := do
  check (r.full = true) .full
  let tmpBuffer := List.replicate (r.cap * 2) default
  let array ← r.unroll tmpBuffer (mask r.cap r.head).toNat (mask r.cap r.tail).toNat
  let cap := r.cap * 2
  pure { r with array := array, cap := cap, tail := 0, head := UInt32.ofNat (cap / 2 - 1) }

def maybeEnlarge [Inhabited α] (r : SeqRing α) : Except SeqRingFailure (SeqRing α) :=
  if r.full then r.enlargeBuffer else pure r

def pushBack [Inhabited α] (r : SeqRing α) (data : α) : Except SeqRingFailure (SeqRing α) := do
  let r ← r.maybeEnlarge
  let pos := (mask r.cap r.head).toNat
  let array ← Buffer.writeAt .outOfBounds r.array pos [data]
  pure { r with array := array, head := r.head + 1 }

def front (r : SeqRing α) : Nat := (mask r.cap r.tail).toNat * r.eltSize

/-- `seq_ring_end`. -/
def stop (r : SeqRing α) : Nat := (mask r.cap r.head).toNat * r.eltSize

/-- `seq_ring_at`. -/
def position (r : SeqRing α) (pos : Nat) : Nat :=
  (mask r.cap (r.tail + UInt32.ofNat pos)).toNat * r.eltSize

/-- `((uint8_t*)it - r->array)/r->elt_size`. -/
def posOf (r : SeqRing α) (it : Nat) : Except SeqRingFailure UInt32 := do
  check (r.eltSize ≠ 0) .divisionByZero
  pure (UInt32.ofNat (it / r.eltSize))

def next (r : SeqRing α) (it : Nat) : Except SeqRingFailure Nat := do
  let pos ← r.posOf it
  pure (if (pos + 1).toNat = r.cap then 0 else it + r.eltSize)

/-- The element that an iterator points to. -/
def deref (r : SeqRing α) (it : Nat) : Except SeqRingFailure α :=
  match r.array[it / r.eltSize]? with
  | some a => .ok a
  | none => .error .outOfBounds

/-- The loop of `seq_ring_free`, from an iterator to the end: the elements it visits. -/
def visit (r : SeqRing α) : (rounds it : Nat) → Except SeqRingFailure (List α)
  | 0, _ => .error .endless
  | rounds + 1, it =>
      if it = r.stop then .ok []
      else do
        let a ← r.deref it
        let it ← r.next it
        let rest ← r.visit rounds it
        pure (a :: rest)

/-- From front to end. -/
def walk (r : SeqRing α) : Except SeqRingFailure (List α) := r.visit (r.cap + 1) r.front

def dist (r : SeqRing α) (first last : Nat) : Except SeqRingFailure Int := do
  let lastPos ← r.posOf last
  let firstPos ← r.posOf first
  pure (if lastPos > firstPos then toInt32 (lastPos - firstPos).toNat
    else toInt32 (r.cap - firstPos.toNat + lastPos.toNat))

/-- The slots that an erasure clears, and the tail it leaves. -/
def clear [Inhabited α] (r : SeqRing α) (startPos endPos : UInt32) :
    Except SeqRingFailure (SeqRing α) :=
  if endPos > startPos then do
    let array ← Buffer.fillAt .outOfBounds r.array startPos.toNat
      (endPos - startPos).toNat default
    pure { r with array := array, tail := r.tail + (endPos - startPos) }
  else do
    let array ← Buffer.fillAt .outOfBounds r.array startPos.toNat
      (r.cap - startPos.toNat) default
    let array ← Buffer.fillAt .outOfBounds array 0 endPos.toNat default
    pure { r with
      array := array
      tail := r.tail + UInt32.ofNat (r.cap - startPos.toNat + endPos.toNat) }

def erase [Inhabited α] (r : SeqRing α) (itStart itEnd : Nat) :
    Except SeqRingFailure (SeqRing α) := do
  check (itStart = r.front) .onlyFromTail
  if itStart = itEnd then pure r
  else do
    let startPos ← r.posOf itStart
    let endPos ← r.posOf itEnd
    check (endPos.toNat ≤ r.cap) .endPos
    check (endPos ≠ startPos) .endPos
    let r ← r.clear startPos endPos
    check (mask r.cap r.tail = endPos) .endPos
    pure r

/-- The next element does not go to the last of all slots. -/
def Room (r : SeqRing α) : Prop := r.cap = 2 ^ 32 → r.head.toNat + 1 < 2 ^ 32

instance (r : SeqRing α) : Decidable r.Room := inferInstanceAs (Decidable (_ → _))

/-- The elements are in the slots from the tail on, and the counters say how many.
    With as many slots as the counters have values the last one is not used, since
    the comparison with the capacity there is one of 32 bits. -/
structure Holds (r : SeqRing α) (elems : List α) : Prop where
  pow : ∃ k, 0 < k ∧ k ≤ 32 ∧ r.cap = 2 ^ k
  slots : r.array.length = r.cap
  room : elems.length < r.cap
  count : r.head.toNat = (r.tail.toNat + elems.length) % 2 ^ 32
  kept : ∀ i, i < elems.length →
    r.array[Circular.slot r.cap r.tail.toNat i]? = elems[i]?
  straight : r.cap = 2 ^ 32 → r.tail.toNat + elems.length < 2 ^ 32

open Circular (slot slot_lt slot_eq slot_inj slot_succ slot_add slot_mod)

variable {r r' : SeqRing α} {elems : List α} {a : α} {i j : Nat}

theorem mask_toNat {cap : Nat} (pow : ∃ k, 0 < k ∧ k ≤ 32 ∧ cap = 2 ^ k) (val : UInt32) :
    (mask cap val).toNat = val.toNat % cap := by
  obtain ⟨k, -, few, rfl⟩ := pow
  have ones : (UInt32.ofNat (2 ^ k) - 1).toNat = 2 ^ k - 1 := by
    have positive : 0 < 2 ^ k := Nat.two_pow_pos k
    rw [UInt32.toNat_sub, UInt32.toNat_ofNat', UInt32.toNat_one]
    rcases Nat.eq_or_lt_of_le few with rfl | less
    · rfl
    · have small : 2 ^ k < 2 ^ 32 := Nat.pow_lt_pow_right (by omega) less
      rw [Nat.mod_eq_of_lt small]
      omega
  rw [mask, UInt32.toNat_and, ones, Nat.and_two_pow_sub_one_eq_mod]

namespace Holds

theorem init [Inhabited α] {k : Nat} (positive : 0 < k) (few : k < 32) (eltSize : Nat) :
    (SeqRing.init (2 ^ k) eltSize : SeqRing α).Holds [] where
  pow := ⟨k, positive, Nat.le_of_lt few, rfl⟩
  slots := List.length_replicate
  room := Nat.two_pow_pos k
  count := rfl
  kept := nofun
  straight all := by
    have less : 2 ^ k < 2 ^ 32 := Nat.pow_lt_pow_right (by omega) few
    exact absurd all (Nat.ne_of_lt less)

theorem rounds (holds : r.Holds elems) : r.cap ∣ 2 ^ 32 := by
  obtain ⟨k, -, few, cap⟩ := holds.pow
  rw [cap]
  exact Nat.pow_dvd_pow 2 few

theorem cap_le (holds : r.Holds elems) : r.cap ≤ 2 ^ 32 := Nat.le_of_dvd (by omega) holds.rounds

theorem one_lt_cap (holds : r.Holds elems) : 1 < r.cap := by
  obtain ⟨k, positive, -, cap⟩ := holds.pow
  rw [cap]
  exact Nat.one_lt_two_pow (by omega)

/-- A ring with fewer than all slots has half of them at most. -/
theorem cap_le_half (holds : r.Holds elems) (less : r.cap ≠ 2 ^ 32) : r.cap ≤ 2 ^ 31 := by
  obtain ⟨k, -, few, cap⟩ := holds.pow
  rw [cap] at less ⊢
  exact Nat.pow_le_pow_right (by omega) (by grind)

theorem size_eq (holds : r.Holds elems) : r.size = elems.length := by
  have few := holds.room
  have bound := holds.cap_le
  have below := r.tail.toNat_lt
  rw [size, UInt32.toNat_sub, holds.count]
  omega

theorem full_iff (holds : r.Holds elems) : r.full ↔ elems.length + 1 = r.cap := by
  have few := holds.one_lt_cap
  rw [full, decide_eq_true_eq, holds.size_eq]
  omega

theorem tailPos (holds : r.Holds elems) :
    (mask r.cap r.tail).toNat = slot r.cap r.tail.toNat 0 := mask_toNat holds.pow _

theorem headPos (holds : r.Holds elems) :
    (mask r.cap r.head).toNat = slot r.cap r.tail.toNat elems.length := by
  rw [mask_toNat holds.pow, holds.count, Nat.mod_mod_of_dvd _ holds.rounds]
  rfl

/-- The copies lay the elements out from the start of the larger buffer. -/
theorem unroll (holds : r.Holds elems) {tmpBuffer : List α} (large : r.cap ≤ tmpBuffer.length) :
    ∃ array, r.unroll tmpBuffer (slot r.cap r.tail.toNat elems.length)
        (slot r.cap r.tail.toNat 0) = .ok array ∧
      array.length = tmpBuffer.length ∧ ∀ i, i < elems.length → array[i]? = elems[i]? := by
  have room := holds.room
  have slots := holds.slots
  have start : slot r.cap r.tail.toNat 0 < r.cap := slot_lt (by omega)
  have last := slot_eq (t := r.tail.toNat) room
  have kept : ∀ i, i < elems.length → r.array[if slot r.cap r.tail.toNat 0 + i < r.cap
      then slot r.cap r.tail.toNat 0 + i else slot r.cap r.tail.toNat 0 + i - r.cap]? =
        elems[i]? := by
    intro i short
    rw [← slot_eq (by omega)]
    exact holds.kept i short
  generalize slot r.cap r.tail.toNat 0 = tailPos at start last kept ⊢
  generalize slot r.cap r.tail.toNat elems.length = headPos at last ⊢
  by_cases ahead : headPos > tailPos
  · -- the elements do not go around
    have straight : headPos = tailPos + elems.length ∧ headPos < r.cap := by
      split at last <;> omega
    have inside : tailPos + (headPos - tailPos) ≤ r.array.length := by omega
    obtain ⟨part, read, length, same⟩ := Buffer.readAt_get SeqRingFailure.outOfBounds inside
    have room : 0 + part.length ≤ tmpBuffer.length := by omega
    obtain ⟨array, written, kept', covered, -⟩ :=
      Buffer.writeAt_get SeqRingFailure.outOfBounds room
    refine ⟨array, ?_, kept', ?_⟩
    · rw [SeqRing.unroll, if_pos ahead, read, ok_bind, written]
    · intro i short
      have here := covered i (by omega)
      rw [Nat.zero_add] at here
      rw [here, same i (by omega), ← kept i short, if_pos (by omega)]
  · have behind : tailPos + (r.cap - tailPos) ≤ r.array.length := by omega
    obtain ⟨part, read, length, same⟩ := Buffer.readAt_get SeqRingFailure.outOfBounds behind
    have room : 0 + part.length ≤ tmpBuffer.length := by omega
    obtain ⟨array, written, kept', covered, -⟩ :=
      Buffer.writeAt_get SeqRingFailure.outOfBounds room
    have front : 0 + headPos ≤ r.array.length := by omega
    obtain ⟨part', read', length', same'⟩ := Buffer.readAt_get SeqRingFailure.outOfBounds front
    have left : r.cap - tailPos + part'.length ≤ array.length := by omega
    obtain ⟨array', written', kept'', covered', others⟩ :=
      Buffer.writeAt_get SeqRingFailure.outOfBounds left
    refine ⟨array', ?_, by omega, ?_⟩
    · rw [SeqRing.unroll, if_neg ahead, read, ok_bind, written, ok_bind, read', ok_bind, written']
    · intro i short
      have wrapped : headPos = tailPos + elems.length - r.cap ∧
          r.cap ≤ tailPos + elems.length := by
        split at last <;> omega
      have here := kept i short
      by_cases before : tailPos + i < r.cap
      · have copied := covered i (by omega)
        rw [Nat.zero_add] at copied
        rw [others i (.inl (by omega)), copied, same i (by omega), ← here, if_pos before]
      · rw [if_neg before] at here
        have copied := covered' (tailPos + i - r.cap) (by omega)
        have place : r.cap - tailPos + (tailPos + i - r.cap) = i := by omega
        rw [place] at copied
        rw [copied, same' _ (by omega), ← here, Nat.zero_add]

/-- Enlarging keeps the elements. -/
theorem enlargeBuffer [Inhabited α] (holds : r.Holds elems) (full : r.full)
    (less : r.cap ≠ 2 ^ 32) : ∃ r', r.enlargeBuffer = .ok r' ∧ r'.Holds elems ∧
      r'.eltSize = r.eltSize ∧ r'.cap = r.cap * 2 ∧ r'.tail = 0 := by
  have filled := holds.full_iff.mp full
  have half := holds.cap_le_half less
  have large : r.cap ≤ (List.replicate (r.cap * 2) (default : α)).length := by
    rw [List.length_replicate]
    omega
  obtain ⟨array, copied, length, same⟩ := holds.unroll large
  rw [List.length_replicate] at length
  rw [← holds.headPos, ← holds.tailPos] at copied
  have head : (UInt32.ofNat (r.cap * 2 / 2 - 1)).toNat = elems.length := by
    rw [UInt32.toNat_ofNat', Nat.mod_eq_of_lt (by omega)]
    omega
  refine ⟨_, bind_eq_ok.mpr ⟨(), check_pass _ full, bind_eq_ok.mpr ⟨array, copied, rfl⟩⟩,
    ?_, rfl, rfl, rfl⟩
  obtain ⟨k, positive, few, cap⟩ := holds.pow
  refine ⟨⟨k + 1, by omega, ?_, ?_⟩, length, ?_, ?_, ?_, ?_⟩
  · by_contra many
    have whole : k = 32 := by omega
    exact less (by rw [cap, whole])
  · rw [Nat.pow_succ, ← cap]
  · change elems.length < r.cap * 2
    omega
  · change (UInt32.ofNat (r.cap * 2 / 2 - 1)).toNat = _
    rw [head, UInt32.toNat_zero]
    omega
  · intro i short
    have straight : slot (r.cap * 2) (0 : UInt32).toNat i = i := by
      rw [UInt32.toNat_zero, slot, Nat.zero_add]
      exact Nat.mod_eq_of_lt (by omega)
    change array[slot (r.cap * 2) (0 : UInt32).toNat i]? = elems[i]?
    rw [straight]
    exact same i short
  · intro _
    change (0 : UInt32).toNat + elems.length < 2 ^ 32
    rw [UInt32.toNat_zero]
    omega

/-- Writing at the head, where there is room. -/
theorem append (holds : r.Holds elems) (room : elems.length + 1 < r.cap)
    (straight : r.cap = 2 ^ 32 → r.tail.toNat + elems.length + 1 < 2 ^ 32) (a : α) :
    ∃ array, Buffer.writeAt SeqRingFailure.outOfBounds r.array (mask r.cap r.head).toNat [a] =
        .ok array ∧ { r with array := array, head := r.head + 1 }.Holds (elems ++ [a]) := by
  have slots := holds.slots
  have bound := holds.cap_le
  have place : slot r.cap r.tail.toNat elems.length < r.cap := slot_lt (by omega)
  rw [holds.headPos]
  have inside : slot r.cap r.tail.toNat elems.length + [a].length ≤ r.array.length := by
    rw [List.length_singleton]
    omega
  obtain ⟨array, written, length, covered, others⟩ :=
    Buffer.writeAt_get SeqRingFailure.outOfBounds inside
  refine ⟨array, written, holds.pow, length.trans slots, ?_, ?_, ?_, ?_⟩
  · rw [List.length_append, List.length_singleton]
    exact room
  · have counted : (r.head + 1).toNat = (r.tail.toNat + (elems.length + 1)) % 2 ^ 32 := by
      rw [UInt32.toNat_add, UInt32.toNat_one, holds.count]
      omega
    rw [List.length_append, List.length_singleton]
    exact counted
  · intro i short
    rw [List.length_append, List.length_singleton] at short
    rcases Nat.lt_succ_iff_lt_or_eq.mp short with old | rfl
    · have apart : slot r.cap r.tail.toNat i ≠ slot r.cap r.tail.toNat elems.length :=
        fun same => (Nat.ne_of_lt old) ((slot_inj (by omega) (by omega)).mp same)
      have same := others (slot r.cap r.tail.toNat i) (by rw [List.length_singleton]; omega)
      exact same.trans ((holds.kept i old).trans (List.getElem?_append_left old).symm)
    · have here := covered 0 (by rw [List.length_singleton]; omega)
      rw [Nat.add_zero] at here
      rw [List.getElem?_append_right (Nat.le_refl _), Nat.sub_self]
      exact here
  · intro all
    rw [List.length_append, List.length_singleton]
    exact straight all

/-- A push adds its element at the back, unless it goes to the last of all slots. -/
theorem pushBack [Inhabited α] (holds : r.Holds elems)
    (more : r.Room) (a : α) :
    ∃ r', r.pushBack a = .ok r' ∧ r'.Holds (elems ++ [a]) ∧ r'.eltSize = r.eltSize := by
  have counted : r.cap = 2 ^ 32 → r.head.toNat = r.tail.toNat + elems.length := by
    intro all
    rw [holds.count, Nat.mod_eq_of_lt (holds.straight all)]
  by_cases full : r.full
  · have filled := holds.full_iff.mp full
    have less : r.cap ≠ 2 ^ 32 := by
      intro all
      have := more all
      have := counted all
      omega
    have half := holds.cap_le_half less
    obtain ⟨large, enlarged, holds', width, cap, tail⟩ := holds.enlargeBuffer full less
    have began : large.tail.toNat = 0 := by rw [tail]; rfl
    obtain ⟨array, written, holds''⟩ := holds'.append (by omega) (by omega) a
    have grown : r.maybeEnlarge = .ok large := by rw [maybeEnlarge, if_pos full, enlarged]
    exact ⟨_, bind_eq_ok.mpr ⟨large, grown, bind_eq_ok.mpr ⟨array, written, rfl⟩⟩, holds'', width⟩
  · have space : elems.length + 1 < r.cap := by
      have room := holds.room
      have differ := mt holds.full_iff.mpr full
      omega
    obtain ⟨array, written, holds'⟩ := holds.append space (fun all => by
      have := more all
      have := counted all
      omega) a
    have same : r.maybeEnlarge = .ok r := by rw [maybeEnlarge, if_neg full]; rfl
    exact ⟨_, bind_eq_ok.mpr ⟨r, same, bind_eq_ok.mpr ⟨array, written, rfl⟩⟩, holds', rfl⟩

theorem front_eq (holds : r.Holds elems) : r.front = slot r.cap r.tail.toNat 0 * r.eltSize := by
  rw [front, holds.tailPos]

theorem stop_eq (holds : r.Holds elems) :
    r.stop = slot r.cap r.tail.toNat elems.length * r.eltSize := by
  rw [stop, holds.headPos]

theorem position_eq (holds : r.Holds elems) (i : Nat) :
    r.position i = slot r.cap r.tail.toNat i * r.eltSize := by
  have rounds := holds.rounds
  rw [position, mask_toNat holds.pow, UInt32.toNat_add, UInt32.toNat_ofNat', Nat.add_mod_mod,
    Nat.mod_mod_of_dvd _ rounds]
  rfl

theorem posOf_slot (holds : r.Holds elems) (sized : r.eltSize ≠ 0) (i : Nat) :
    r.posOf (slot r.cap r.tail.toNat i * r.eltSize) =
        .ok (UInt32.ofNat (slot r.cap r.tail.toNat i)) ∧
      (UInt32.ofNat (slot r.cap r.tail.toNat i)).toNat = slot r.cap r.tail.toNat i := by
  have positive := holds.one_lt_cap
  have bound := holds.cap_le
  have inside : slot r.cap r.tail.toNat i < r.cap := slot_lt (by omega)
  constructor
  · rw [posOf, check_pass _ sized, Nat.mul_div_cancel _ (Nat.pos_of_ne_zero sized)]
    rfl
  · rw [UInt32.toNat_ofNat', Nat.mod_eq_of_lt (by omega)]

theorem deref_slot (holds : r.Holds elems) (sized : r.eltSize ≠ 0) (short : i < elems.length) :
    r.deref (slot r.cap r.tail.toNat i * r.eltSize) = .ok elems[i] := by
  rw [deref, Nat.mul_div_cancel _ (Nat.pos_of_ne_zero sized), holds.kept i short,
    List.getElem?_eq_getElem short]

/-- From an element the next iterator is that of the next position. -/
theorem next_slot (holds : r.Holds elems) (sized : r.eltSize ≠ 0) (short : i < elems.length) :
    r.next (slot r.cap r.tail.toNat i * r.eltSize) =
      .ok (slot r.cap r.tail.toNat (i + 1) * r.eltSize) := by
  have room := holds.room
  have bound := holds.cap_le
  obtain ⟨read, exact_⟩ := holds.posOf_slot sized i
  have inside : slot r.cap r.tail.toNat i < r.cap := slot_lt (by omega)
  have word : (UInt32.ofNat (slot r.cap r.tail.toNat i) + 1).toNat =
      (slot r.cap r.tail.toNat i + 1) % 2 ^ 32 := by
    rw [UInt32.toNat_add, exact_, UInt32.toNat_one]
  have compared : (UInt32.ofNat (slot r.cap r.tail.toNat i) + 1).toNat = r.cap ↔
      slot r.cap r.tail.toNat i + 1 = r.cap := by
    rw [word]
    by_cases all : r.cap = 2 ^ 32
    · -- the comparison never holds, and the elements stop before the last slot
      have straight := holds.straight all
      have place : slot r.cap r.tail.toNat i = r.tail.toNat + i := Nat.mod_eq_of_lt (by omega)
      omega
    · have half := holds.cap_le_half all
      rw [Nat.mod_eq_of_lt (by omega)]
  rw [next, read, ok_bind, slot_succ (by omega)]
  by_cases last : slot r.cap r.tail.toNat i + 1 = r.cap
  · rw [if_pos last, if_pos (compared.mpr last), Nat.zero_mul]
    rfl
  · rw [if_neg last, if_neg (mt compared.mp last), Nat.add_mul, Nat.one_mul]
    rfl

theorem slot_eq_stop (holds : r.Holds elems) (sized : r.eltSize ≠ 0) (le : i ≤ elems.length) :
    slot r.cap r.tail.toNat i * r.eltSize = r.stop ↔ i = elems.length := by
  have room := holds.room
  rw [holds.stop_eq, Nat.mul_left_inj sized, slot_inj (by omega) (by omega)]

/-- The loop visits what is left, in order. -/
theorem visit_slot (holds : r.Holds elems) (sized : r.eltSize ≠ 0) (le : i ≤ elems.length)
    {rounds : Nat} (enough : elems.length - i < rounds) :
    r.visit rounds (slot r.cap r.tail.toNat i * r.eltSize) = .ok (elems.drop i) := by
  induction rounds generalizing i with
  | zero => omega
  | succ rounds ih =>
      rw [visit]
      by_cases last : i = elems.length
      · rw [if_pos ((holds.slot_eq_stop sized le).mpr last), last, List.drop_length]
      · have short : i < elems.length := by omega
        rw [if_neg (mt (holds.slot_eq_stop sized le).mp last), holds.deref_slot sized short,
          ok_bind, holds.next_slot sized short, ok_bind, ih (by omega) (by omega), ok_bind,
          List.drop_eq_getElem_cons short]
        rfl

theorem walk_eq (holds : r.Holds elems) (sized : elems ≠ [] → r.eltSize ≠ 0) :
    r.walk = .ok elems := by
  have room := holds.room
  by_cases empty : elems = []
  · subst empty
    have met : r.front = r.stop := by rw [holds.front_eq, holds.stop_eq, List.length_nil]
    rw [walk, visit, if_pos met]
  · rw [walk, holds.front_eq, holds.visit_slot (sized empty) (Nat.zero_le _) (by omega),
      List.drop_zero]

/-- Clearing the first slots leaves the others alone. -/
theorem clear [Inhabited α] (holds : r.Holds elems) {n : Nat} (some_ : 0 < n)
    (short : n < r.cap) {startPos endPos : UInt32}
    (first : startPos.toNat = slot r.cap r.tail.toNat 0)
    (last : endPos.toNat = slot r.cap r.tail.toNat n) :
    ∃ array, r.clear startPos endPos =
        .ok { r with array := array, tail := r.tail + UInt32.ofNat n } ∧
      array.length = r.cap ∧ ∀ i, n ≤ i → i < r.cap →
        array[slot r.cap r.tail.toNat i]? = r.array[slot r.cap r.tail.toNat i]? := by
  have slots := holds.slots
  have bound := holds.cap_le
  have start : slot r.cap r.tail.toNat 0 < r.cap := slot_lt (by omega)
  rw [SeqRing.clear]
  by_cases ahead : endPos > startPos
  · have ahead' : startPos.toNat < endPos.toNat := UInt32.lt_iff_toNat_lt.mp ahead
    have straight : endPos.toNat = startPos.toNat + n ∧ endPos.toNat < r.cap := by
      rw [slot_eq short, ← first] at last
      split at last <;> omega
    have cleared : (endPos - startPos).toNat = n := by
      rw [UInt32.toNat_sub_of_le _ _ (UInt32.le_of_lt ahead)]
      omega
    have word : endPos - startPos = UInt32.ofNat n := by
      rw [← cleared, UInt32.ofNat_toNat]
    have inside : startPos.toNat + n ≤ r.array.length := by omega
    obtain ⟨array, filled, length, others⟩ :=
      Buffer.fillAt_get SeqRingFailure.outOfBounds default inside
    refine ⟨array, ?_, by omega, fun i le inside => others _ ?_⟩
    · rw [if_pos ahead, cleared, filled, ok_bind, word]
      rfl
    · rw [slot_eq inside, ← first]
      split <;> omega
  · have behind : ¬startPos.toNat < endPos.toNat := fun less =>
      ahead (UInt32.lt_iff_toNat_lt.mpr less)
    have wrapped : endPos.toNat + r.cap = startPos.toNat + n := by
      rw [slot_eq short, ← first] at last
      split at last <;> omega
    have cleared : r.cap - startPos.toNat + endPos.toNat = n := by omega
    have back : startPos.toNat + (r.cap - startPos.toNat) ≤ r.array.length := by omega
    obtain ⟨array, filled, length, others⟩ :=
      Buffer.fillAt_get SeqRingFailure.outOfBounds default back
    have front : 0 + endPos.toNat ≤ array.length := by omega
    obtain ⟨array', filled', length', others'⟩ :=
      Buffer.fillAt_get SeqRingFailure.outOfBounds default front
    refine ⟨array', ?_, by omega, fun i le inside => ?_⟩
    · rw [if_neg ahead, filled, ok_bind, filled', ok_bind, cleared]
      rfl
    · have place : endPos.toNat ≤ slot r.cap r.tail.toNat i ∧
          slot r.cap r.tail.toNat i < startPos.toNat := by
        rw [slot_eq inside, ← first]
        split <;> omega
      rw [others' _ (.inr (by omega)), others _ (.inl place.2)]

/-- Erasing at the front takes the first elements out. -/
theorem erase [Inhabited α] (holds : r.Holds elems) {n : Nat} (le : n ≤ elems.length)
    (sized : elems ≠ [] → r.eltSize ≠ 0) :
    ∃ r', r.erase r.front (r.position n) = .ok r' ∧ r'.Holds (elems.drop n) ∧
      r'.eltSize = r.eltSize ∧ r'.cap = r.cap := by
  have room := holds.room
  have bound := holds.cap_le
  rw [SeqRing.erase, check_pass _ rfl, ok_bind]
  by_cases none_ : n = 0
  · subst none_
    have same : r.front = r.position 0 := by rw [holds.front_eq, holds.position_eq]
    rw [if_pos same]
    exact ⟨r, rfl, by rwa [List.drop_zero], rfl, rfl⟩
  · have width : r.eltSize ≠ 0 := sized (by rintro rfl; exact none_ (Nat.le_zero.mp le))
    have apart : slot r.cap r.tail.toNat 0 ≠ slot r.cap r.tail.toNat n := fun same =>
      none_ ((slot_inj (by omega) (by omega)).mp same).symm
    have differ : r.front ≠ r.position n := by
      rw [holds.front_eq, holds.position_eq]
      exact mt (Nat.mul_left_inj width).mp apart
    obtain ⟨readStart, first⟩ := holds.posOf_slot width 0
    obtain ⟨readEnd, last⟩ := holds.posOf_slot width n
    have words : UInt32.ofNat (slot r.cap r.tail.toNat n) ≠
        UInt32.ofNat (slot r.cap r.tail.toNat 0) := by
      intro same
      rw [← last, same, first] at apart
      exact apart rfl
    have inside : slot r.cap r.tail.toNat n < r.cap := slot_lt (by omega)
    obtain ⟨array, cleared, length, others⟩ :=
      holds.clear (Nat.pos_of_ne_zero none_) (by omega) first last
    have counted : (r.tail + UInt32.ofNat n).toNat = (r.tail.toNat + n) % 2 ^ 32 := by
      rw [UInt32.toNat_add, UInt32.toNat_ofNat', Nat.add_mod_mod]
    have reached : mask r.cap (r.tail + UInt32.ofNat n) =
        UInt32.ofNat (slot r.cap r.tail.toNat n) := by
      apply UInt32.toNat_inj.mp
      rw [last, mask_toNat holds.pow, counted, Nat.mod_mod_of_dvd _ holds.rounds]
      rfl
    rw [if_neg differ, holds.front_eq, readStart, ok_bind, holds.position_eq, readEnd, ok_bind,
      check_pass _ (last.trans_le (Nat.le_of_lt inside)), ok_bind, check_pass _ words, ok_bind,
      cleared, ok_bind, check_pass _ reached, ok_bind]
    refine ⟨_, rfl, ⟨holds.pow, length, ?_, ?_, ?_, ?_⟩, rfl, rfl⟩
    · change (elems.drop n).length < r.cap
      rw [List.length_drop]
      omega
    · change r.head.toNat = ((r.tail + UInt32.ofNat n).toNat + (elems.drop n).length) % 2 ^ 32
      rw [counted, holds.count, List.length_drop]
      omega
    · intro i short
      change array[slot r.cap (r.tail + UInt32.ofNat n).toNat i]? = (elems.drop n)[i]?
      rw [List.length_drop] at short
      rw [counted, slot_mod holds.rounds, slot_add, others (n + i) (by omega) (by omega),
        holds.kept _ (by omega), List.getElem?_drop]
    · intro all
      have straight := holds.straight all
      change (r.tail + UInt32.ofNat n).toNat + (elems.drop n).length < 2 ^ 32
      rw [counted, List.length_drop]
      omega

/-- The distance is right between different iterators that are less than `2 ^ 31`
    steps apart; of one and the same it is the capacity. -/
theorem dist_eq (holds : r.Holds elems) (sized : r.eltSize ≠ 0) (le : i ≤ j)
    (inside : j ≤ elems.length) :
    r.dist (r.position i) (r.position j) =
      .ok (toInt32 (if i = j then r.cap else j - i)) := by
  have room := holds.room
  have bound := holds.cap_le
  obtain ⟨readFirst, first⟩ := holds.posOf_slot sized i
  obtain ⟨readLast, last⟩ := holds.posOf_slot sized j
  have start : slot r.cap r.tail.toNat 0 < r.cap := slot_lt (by omega)
  have placeI := slot_eq (t := r.tail.toNat) (show i < r.cap by omega)
  have placeJ := slot_eq (t := r.tail.toNat) (show j < r.cap by omega)
  rw [dist, holds.position_eq, holds.position_eq, readLast, ok_bind, readFirst, ok_bind]
  generalize UInt32.ofNat (slot r.cap r.tail.toNat i) = firstPos at first
  generalize UInt32.ofNat (slot r.cap r.tail.toNat j) = lastPos at last
  rw [← first] at placeI
  rw [← last] at placeJ
  apply congrArg Except.ok
  by_cases ahead : lastPos > firstPos
  · have ahead' : firstPos.toNat < lastPos.toNat := UInt32.lt_iff_toNat_lt.mp ahead
    rw [if_pos ahead, UInt32.toNat_sub_of_le _ _ (UInt32.le_of_lt ahead)]
    congr 1
    split at placeI <;> split at placeJ <;> split <;> omega
  · have behind : ¬firstPos.toNat < lastPos.toNat := fun less =>
      ahead (UInt32.lt_iff_toNat_lt.mpr less)
    rw [if_neg ahead]
    congr 1
    split at placeI <;> split at placeJ <;> split <;> omega

end Holds

theorem pushBack_eltSize [Inhabited α] (pushed : r.pushBack a = .ok r') :
    r'.eltSize = r.eltSize := by
  obtain ⟨grown, enlarged, written⟩ := bind_eq_ok.mp pushed
  have width : grown.eltSize = r.eltSize := by
    rw [maybeEnlarge] at enlarged
    split at enlarged
    · obtain ⟨_, -, copied⟩ := bind_eq_ok.mp enlarged
      obtain ⟨_, -, done⟩ := bind_eq_ok.mp copied
      cases pure_eq_ok.mp done
      rfl
    · cases pure_eq_ok.mp enlarged
      rfl
  obtain ⟨_, -, done⟩ := bind_eq_ok.mp written
  cases pure_eq_ok.mp done
  exact width

/-- Elements of no size are all at the end. -/
theorem walk_of_no_size (none_ : r.eltSize = 0) : r.walk = .ok [] := by
  have met : r.front = r.stop := by rw [front, stop, none_, Nat.mul_zero, Nat.mul_zero]
  rw [walk, visit, if_pos met]

/-- A push onto a full ring of all slots sets both counters to zero. -/
theorem pushBack_full [Inhabited α] (full : r.full) (all : r.cap = 2 ^ 32)
    (pushed : r.pushBack a = .ok r') : r'.size = 0 := by
  obtain ⟨grown, enlarged, written⟩ := bind_eq_ok.mp pushed
  rw [maybeEnlarge, if_pos full] at enlarged
  obtain ⟨_, -, copied⟩ := bind_eq_ok.mp enlarged
  obtain ⟨_, -, done⟩ := bind_eq_ok.mp copied
  cases pure_eq_ok.mp done
  obtain ⟨_, -, done⟩ := bind_eq_ok.mp written
  cases pure_eq_ok.mp done
  have around : UInt32.ofNat (2 ^ 32 * 2 / 2 - 1) + 1 - 0 = 0 := by decide
  rw [size, all]
  exact congrArg UInt32.toNat around

/-- The counters start over in a larger buffer. -/
theorem pushBack_tail [Inhabited α] (began : r.tail = 0) (pushed : r.pushBack a = .ok r') :
    r'.tail = 0 := by
  obtain ⟨grown, enlarged, written⟩ := bind_eq_ok.mp pushed
  have tail : grown.tail = 0 := by
    rw [maybeEnlarge] at enlarged
    split at enlarged
    · obtain ⟨_, -, copied⟩ := bind_eq_ok.mp enlarged
      obtain ⟨_, -, done⟩ := bind_eq_ok.mp copied
      cases pure_eq_ok.mp done
      rfl
    · cases pure_eq_ok.mp enlarged
      exact began
  obtain ⟨_, -, done⟩ := bind_eq_ok.mp written
  cases pure_eq_ok.mp done
  exact tail

/-- That push goes through, and leaves the ring empty. -/
theorem Holds.pushBack_overfull [Inhabited α] (holds : r.Holds elems) (full : r.full)
    (all : r.cap = 2 ^ 32) (a : α) :
    ∃ r', r.pushBack a = .ok r' ∧ r'.size = 0 ∧ r'.walk = .ok [] := by
  have large : r.cap ≤ (List.replicate (r.cap * 2) (default : α)).length := by
    rw [List.length_replicate]
    omega
  obtain ⟨grown, copied, length, -⟩ := holds.unroll large
  rw [List.length_replicate] at length
  rw [← holds.headPos, ← holds.tailPos] at copied
  have enlarged : r.maybeEnlarge = .ok { r with
      array := grown
      cap := r.cap * 2
      tail := 0
      head := UInt32.ofNat (r.cap * 2 / 2 - 1) } := by
    rw [maybeEnlarge, if_pos full]
    exact bind_eq_ok.mpr ⟨(), check_pass _ full, bind_eq_ok.mpr ⟨grown, copied, rfl⟩⟩
  have below := (mask (r.cap * 2) (UInt32.ofNat (r.cap * 2 / 2 - 1))).toNat_lt
  have inside : (mask (r.cap * 2) (UInt32.ofNat (r.cap * 2 / 2 - 1))).toNat + [a].length ≤
      grown.length := by
    rw [List.length_singleton]
    omega
  obtain ⟨array, written, -⟩ := Buffer.writeAt_get SeqRingFailure.outOfBounds inside
  have pushed : r.pushBack a = .ok { r with
      array := array
      cap := r.cap * 2
      tail := 0
      head := UInt32.ofNat (r.cap * 2 / 2 - 1) + 1 } :=
    bind_eq_ok.mpr ⟨_, enlarged, bind_eq_ok.mpr ⟨array, written, rfl⟩⟩
  refine ⟨_, pushed, pushBack_full full all pushed, ?_⟩
  have around : UInt32.ofNat (r.cap * 2 / 2 - 1) + 1 = 0 := by
    rw [all]
    decide
  rw [walk, visit, if_pos]
  rw [front, stop, around]

/-- When the elements reach the last of all slots, the loop leaves the buffer there. -/
theorem visit_lost (all : r.cap = 2 ^ 32) (slots : r.array.length = 2 ^ 32) (ends : r.stop = 0)
    (sized : r.eltSize ≠ 0) {p : Nat} (past : 0 < p) (inside : p ≤ 2 ^ 32) (rounds : Nat)
    (out : List α) : r.visit rounds (p * r.eltSize) ≠ .ok out := by
  induction rounds generalizing p out with
  | zero => exact nofun
  | succ rounds ih =>
      have before : p * r.eltSize ≠ r.stop := by
        rw [ends]
        exact Nat.mul_ne_zero (Nat.ne_of_gt past) sized
      have place : p * r.eltSize / r.eltSize = p := Nat.mul_div_cancel _ (Nat.pos_of_ne_zero sized)
      rw [visit, if_neg before, deref, place]
      rcases Nat.eq_or_lt_of_le inside with rfl | less
      · rw [List.getElem?_eq_none (Nat.le_of_eq slots)]
        exact nofun
      · rw [List.getElem?_eq_getElem (by omega)]
        have missed : (UInt32.ofNat p + 1).toNat ≠ r.cap := by
          have below := (UInt32.ofNat p + 1).toNat_lt
          omega
        have stepped : r.next (p * r.eltSize) = .ok ((p + 1) * r.eltSize) := by
          rw [next, posOf, check_pass _ sized, ok_bind, place]
          change Except.ok (if (UInt32.ofNat p + 1).toNat = r.cap then 0 else _) = _
          rw [if_neg missed, Nat.add_mul, Nat.one_mul]
        intro visited
        obtain ⟨_, -, visited⟩ := bind_eq_ok.mp visited
        obtain ⟨_, next_, visited⟩ := bind_eq_ok.mp visited
        cases stepped.symm.trans next_
        obtain ⟨rest, visited, -⟩ := bind_eq_ok.mp visited
        exact ih (Nat.succ_pos p) less rest visited

/-- A push onto the last of all slots is not a push onto a queue. -/
theorem Holds.pushBack_last [Inhabited α] (holds : r.Holds elems) (all : r.cap = 2 ^ 32)
    (last : ¬r.head.toNat + 1 < 2 ^ 32) (sized : r.eltSize ≠ 0)
    (pushed : r.pushBack a = .ok r') : r'.size = 0 ∨ ∀ out, r'.walk ≠ .ok out := by
  by_cases full : r.full
  · exact .inl (pushBack_full full all pushed)
  · right
    have straight := holds.straight all
    have below := r.head.toNat_lt
    have count : r.head.toNat = r.tail.toNat + elems.length := by
      rw [holds.count, Nat.mod_eq_of_lt straight]
    have room : elems.length + 1 ≠ 2 ^ 32 := fun filled =>
      full (holds.full_iff.mpr (filled.trans all.symm))
    obtain ⟨_, same, written⟩ := bind_eq_ok.mp pushed
    rw [maybeEnlarge, if_neg full] at same
    cases pure_eq_ok.mp same
    obtain ⟨array, covered, done⟩ := bind_eq_ok.mp written
    cases pure_eq_ok.mp done
    have inside : (mask r.cap r.head).toNat + [a].length ≤ r.array.length := by
      have place : (mask r.cap r.head).toNat < r.cap := by
        rw [holds.headPos]
        exact slot_lt (by omega)
      rw [holds.slots, List.length_singleton]
      omega
    obtain ⟨_, copied, kept, -⟩ :=
      Buffer.writeAt_get SeqRingFailure.outOfBounds inside
    cases copied.symm.trans covered
    have around : r.head + 1 = 0 := by
      apply UInt32.toNat_inj.mp
      rw [UInt32.toNat_add, UInt32.toNat_one, UInt32.toNat_zero]
      omega
    have began : (mask r.cap r.tail).toNat = r.tail.toNat := by
      rw [mask_toNat holds.pow, all]
      exact Nat.mod_eq_of_lt r.tail.toNat_lt
    have first : 0 < r.tail.toNat := by omega
    intro out
    rw [walk, front]
    change visit _ (r.cap + 1) ((mask r.cap r.tail).toNat * r.eltSize) ≠ _
    rw [began]
    refine visit_lost (r := { r with array := array, head := r.head + 1 }) all
      (by rw [kept, holds.slots, all]) ?_ sized first (Nat.le_of_lt r.tail.toNat_lt) _ out
    rw [stop, around]
    change (mask r.cap 0).toNat * r.eltSize = 0
    rw [mask_toNat holds.pow, UInt32.toNat_zero, Nat.zero_mod, Nat.zero_mul]

end SeqRing

end FlexRic
