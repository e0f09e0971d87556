import FlexRic.Library.Buffer
import FlexRic.Library.Machine
import FlexRic.Library.MachineInt
import Mathlib.Algebra.Group.Nat.Defs
import Mathlib.Algebra.Group.Int.Defs

/-! # The sequence array

`seq_arr_t` keeps its elements, all of one size, as bytes in a buffer. It doubles
the buffer when it is about to be full, and halves it when an erasure leaves less
than a quarter of the capacity in use; the halved buffer is allocated with the
capacity in the place of the element size.

`limit` is the largest block that the allocator gives, which is less than 2^63. Byte
counts are kept in an `int` on the way; the other sizes are at most twice that of a
buffer that exists, so no product of them overflows.
-/

namespace FlexRic

/-- What ends an operation. -/
inductive SeqArrFailure where
  /-- `len == arr->elt_size` -/
  | eltSize
  /-- `end_it >= start_it` -/
  | iterators
  /-- `num_bytes_move > -1` -/
  | numBytesMove
  /-- `num_elm_erase > 0` -/
  | numElmErase
  /-- `arr->cap > MIN_SIZE`, `arr->size <= tmp.cap` -/
  | capacity
  /-- `arr->data != NULL`, `tmp.data != NULL` -/
  | memory
  /-- A copy that leaves the buffer. -/
  | outOfBounds
  deriving DecidableEq, Repr

structure SeqArr where
  data : List UInt8
  size : Nat
  eltSize : Nat
  cap : Nat
  deriving DecidableEq

namespace SeqArr

def minSize : Nat := 8

/-- `calloc`, with the assertion that follows it. The limit is on the product of its
    arguments, and a block of no bytes is a block. -/
def calloc (limit count size : Nat) : Except SeqArrFailure (List UInt8) := do
  check (count * size ≤ limit) .memory
  pure (List.replicate (count * size) 0)

/-- `realloc`, with the assertion that follows it: a block of no bytes is `NULL`. The new
    bytes are not set. -/
def realloc (limit : Nat) (junk : UInt8) (data : List UInt8) (n : Nat) :
    Except SeqArrFailure (List UInt8) := do
  check (0 < n ∧ n ≤ limit) .memory
  pure (data.take n ++ List.replicate (n - data.length) junk)

/-- `seq_arr_init`. -/
def init (limit eltSize : Nat) : Except SeqArrFailure SeqArr := do
  let data ← calloc limit minSize eltSize
  pure { data := data, size := 0, eltSize := eltSize, cap := minSize }

def maybeExpand (limit : Nat) (junk : UInt8) (arr : SeqArr) : Except SeqArrFailure SeqArr :=
  if arr.size + 1 = arr.cap then do
    let data ← realloc limit junk arr.data (2 * arr.cap * arr.eltSize)
    pure { arr with data := data, cap := arr.cap * 2 }
  else pure arr

/-- `(float)`: the nearest number with 24 significant bits, ties to the even one. -/
def toFloat (n : Nat) : Nat :=
  let e := n.log2 - 23
  let q := n / 2 ^ e
  let r := n % 2 ^ e
  if 2 * r < 2 ^ e ∨ 2 * r = 2 ^ e ∧ q % 2 = 0 then q * 2 ^ e else (q + 1) * 2 ^ e

/-- `arr->size > MIN_SIZE && occ < 0.25`. The capacity is a power of two, so the
    quotient is exact. -/
def Sparse (size cap : Nat) : Prop := minSize < size ∧ 4 * toFloat size < cap

instance (size cap : Nat) : Decidable (Sparse size cap) := inferInstanceAs (Decidable (_ ∧ _))

def maybeShrink (limit : Nat) (arr : SeqArr) : Except SeqArrFailure SeqArr :=
  if Sparse arr.size arr.cap then do
    check (minSize < arr.cap) .capacity
    let cap := arr.cap / 2
    let data ← calloc limit cap cap
    check (arr.size ≤ cap) .capacity
    let bytes ← Buffer.readAt .outOfBounds arr.data 0 (arr.size * arr.eltSize)
    let data ← Buffer.writeAt .outOfBounds data 0 bytes
    pure { arr with data := data, cap := cap }
  else pure arr

def pushBack (limit : Nat) (junk : UInt8) (arr : SeqArr) (value : List UInt8) :
    Except SeqArrFailure SeqArr := do
  check (value.length = arr.eltSize) .eltSize
  let arr ← arr.maybeExpand limit junk
  let data ← Buffer.writeAt .outOfBounds arr.data (arr.size * arr.eltSize) value
  pure { arr with data := data, size := arr.size + 1 }

/-- `seq_arr_erase`, between the iterators at two positions. -/
def erase (limit : Nat) (arr : SeqArr) (start stop : Nat) : Except SeqArrFailure SeqArr := do
  let startIt := start * arr.eltSize
  let endIt := stop * arr.eltSize
  check (startIt ≤ endIt) .iterators
  if startIt = endIt then pure arr
  else
    let numBytesMove := toInt32 (arr.size * arr.eltSize - endIt)
    check (-1 < numBytesMove) .numBytesMove
    let moved ← Buffer.readAt .outOfBounds arr.data endIt numBytesMove.toNat
    let data ← Buffer.writeAt .outOfBounds arr.data startIt moved
    let numBytesErase := toInt32 (endIt - startIt)
    let numElmErase := toInt32 (toSizeT numBytesErase / arr.eltSize)
    check (0 < numElmErase) .numElmErase
    let size := arr.size - numElmErase.toNat
    let data ← Buffer.fillAt .outOfBounds data (size * arr.eltSize) (toSizeT numBytesErase) 0
    maybeShrink limit { arr with data := data, size := size }

/-- The bytes in use are those of the elements, in order. -/
structure Holds (arr : SeqArr) (elems : List (List UInt8)) : Prop where
  count : arr.size = elems.length
  widths : ∀ e ∈ elems, e.length = arr.eltSize
  bytes : arr.data.take (arr.size * arr.eltSize) = elems.flatten

/-- There is room for another element, and the buffer is as large as the capacity
    says. -/
structure Sound (arr : SeqArr) : Prop where
  room : arr.size < arr.cap
  doubled : ∃ k, arr.cap = minSize * 2 ^ k
  allocated : arr.cap * arr.eltSize ≤ arr.data.length

variable {limit : Nat} {arr arr' : SeqArr} {elems : List (List UInt8)} {value : List UInt8}
  {junk : UInt8}

theorem length_flatten {w : Nat} (widths : ∀ e ∈ elems, e.length = w) :
    elems.flatten.length = elems.length * w := by
  induction elems with
  | nil => simp
  | cons e elems ih =>
      rw [List.flatten_cons, List.length_append, widths e List.mem_cons_self,
        ih fun e' mem => widths e' (List.mem_cons_of_mem _ mem), List.length_cons, Nat.succ_mul,
        Nat.add_comm]

theorem init_ok {eltSize : Nat} (created : init limit eltSize = .ok arr) :
    arr.Sound ∧ arr.Holds [] ∧ arr.eltSize = eltSize ∧ arr.size = 0 ∧ arr.cap = minSize := by
  simp only [init, calloc, bind_eq_ok, check_eq_ok, pure_eq_ok] at created
  obtain ⟨_, ⟨_, -, rfl⟩, rfl⟩ := created
  refine ⟨⟨Nat.succ_pos 7, ⟨0, rfl⟩, ?_⟩, ⟨rfl, List.forall_mem_nil _, ?_⟩, rfl, rfl, rfl⟩
  · exact Nat.le_of_eq List.length_replicate.symm
  · simp

/-- The bytes in use lie in the buffer. -/
theorem Sound.used (sound : arr.Sound) : arr.size * arr.eltSize ≤ arr.data.length :=
  Nat.le_trans (Nat.mul_le_mul_right _ (Nat.le_of_lt sound.room)) sound.allocated

/-- The array is about to be full, and there is a doubled buffer for it. -/
def Expandable (limit : Nat) (arr : SeqArr) : Prop :=
  arr.size + 1 = arr.cap → 0 < arr.eltSize ∧ 2 * arr.cap * arr.eltSize ≤ limit

theorem Sound.expandable_iff (sound : arr.Sound) :
    arr.Expandable limit ↔ (arr.size + 1 = arr.cap →
      0 < 2 * arr.cap * arr.eltSize ∧ 2 * arr.cap * arr.eltSize ≤ limit) := by
  have room := sound.room
  have twice : 0 < 2 * arr.cap := by omega
  rw [Expandable, Nat.mul_pos_iff_of_pos_left twice]

theorem Expandable.of_ok (sound : arr.Sound) (expanded : arr.maybeExpand limit junk = .ok arr') :
    arr.Expandable limit := by
  rw [sound.expandable_iff]
  intro full
  simp only [maybeExpand, if_pos full, realloc, bind_eq_ok, check_eq_ok] at expanded
  obtain ⟨_, ⟨_, given, -⟩, -⟩ := expanded
  exact given

/-- An expansion keeps the elements and leaves two places free. -/
theorem Sound.expand (sound : arr.Sound) (holds : arr.Holds elems)
    (expandable : arr.Expandable limit) (junk : UInt8) :
    ∃ arr', arr.maybeExpand limit junk = .ok arr' ∧ arr'.Sound ∧ arr'.Holds elems ∧
      arr'.size + 1 < arr'.cap ∧ arr'.eltSize = arr.eltSize := by
  have room := sound.room
  have used := sound.used
  by_cases full : arr.size + 1 = arr.cap
  · have given := sound.expandable_iff.mp expandable full
    obtain ⟨k, doubled⟩ := sound.doubled
    have more : arr.size * arr.eltSize ≤ 2 * arr.cap * arr.eltSize :=
      Nat.mul_le_mul_right _ (by omega)
    have kept : arr.size * arr.eltSize ≤ (arr.data.take (2 * arr.cap * arr.eltSize)).length := by
      rw [List.length_take]
      omega
    let data := arr.data.take (2 * arr.cap * arr.eltSize) ++
      List.replicate (2 * arr.cap * arr.eltSize - arr.data.length) junk
    refine ⟨{ arr with data := data, cap := arr.cap * 2 }, ?_, ⟨?_, ⟨k + 1, ?_⟩, ?_⟩,
      ⟨holds.count, holds.widths, ?_⟩, ?_, rfl⟩
    · rw [maybeExpand, if_pos full, realloc, check_pass _ given]
      rfl
    · simp only
      omega
    · simp only [doubled, Nat.pow_succ, Nat.mul_assoc]
    · simp only [data, List.length_append, List.length_take, List.length_replicate,
        Nat.mul_comm arr.cap 2]
      omega
    · simp only [data]
      rw [← holds.bytes, List.take_append_of_le_length kept, List.take_take, Nat.min_eq_left more]
    · simp only
      omega
  · exact ⟨arr, if_neg full, sound, holds, by omega, rfl⟩

/-- A push appends its element. -/
theorem pushBack_ok (sound : arr.Sound) (holds : arr.Holds elems)
    (width : value.length = arr.eltSize) (expandable : arr.Expandable limit) (junk : UInt8) :
    ∃ arr', arr.pushBack limit junk value = .ok arr' ∧ arr'.Sound ∧
      arr'.Holds (elems ++ [value]) ∧ arr'.eltSize = arr.eltSize := by
  obtain ⟨grown, expanded, sound', holds', roomy, same⟩ := sound.expand holds expandable junk
  have width' : value.length = grown.eltSize := width.trans same.symm
  have inside : grown.size * grown.eltSize + value.length ≤ grown.data.length := by
    rw [width', ← Nat.succ_mul]
    exact Nat.le_trans (Nat.mul_le_mul_right _ (Nat.le_of_lt roomy)) sound'.allocated
  obtain ⟨data, written, length, front⟩ :=
    Buffer.writeAt_ok SeqArrFailure.outOfBounds inside
  refine ⟨_, bind_eq_ok.mpr ⟨(), check_pass _ width, bind_eq_ok.mpr ⟨grown, expanded,
    bind_eq_ok.mpr ⟨data, written, rfl⟩⟩⟩, ⟨roomy, sound'.doubled, length ▸ sound'.allocated⟩,
    ⟨?_, ?_, ?_⟩, same⟩
  · rw [holds'.count, List.length_append, List.length_singleton]
  · intro e mem
    rcases List.mem_append.mp mem with old | new
    · exact holds'.widths e old
    · rw [List.mem_singleton.mp new]
      exact width'
  · rw [width', ← Nat.succ_mul, holds'.bytes] at front
    rw [List.flatten_append, List.flatten_singleton]
    exact front

/-- An array grows to twice its elements. -/
theorem cap_pushBack (pushed : arr.pushBack limit junk value = .ok arr') :
    arr'.size = arr.size + 1 ∧ (arr'.cap = arr.cap ∨ arr'.cap = 2 * arr'.size) := by
  simp only [pushBack, bind_eq_ok, pure_eq_ok] at pushed
  obtain ⟨_, -, grown, expanded, data, -, rfl⟩ := pushed
  simp only [maybeExpand] at expanded
  split at expanded
  · rename_i full
    simp only [bind_eq_ok, pure_eq_ok] at expanded
    obtain ⟨_, -, rfl⟩ := expanded
    exact ⟨rfl, .inr ((congrArg (· * 2) full.symm).trans (Nat.mul_comm ..))⟩
  · cases expanded
    exact ⟨rfl, .inl rfl⟩

/-- Rounding loses less than half. -/
theorem le_toFloat (n : Nat) : n ≤ 2 * toFloat n := by
  rcases Nat.eq_zero_or_pos n with rfl | positive
  · exact Nat.zero_le _
  · have power : 0 < 2 ^ (n.log2 - 23) := Nat.two_pow_pos _
    have small : 2 ^ (n.log2 - 23) ≤ n :=
      Nat.le_trans (Nat.pow_le_pow_right Nat.two_pos (Nat.sub_le _ _))
        (Nat.log2_self_le (Nat.ne_of_gt positive))
    have quotient : 0 < n / 2 ^ (n.log2 - 23) := Nat.div_pos small power
    have parts := Nat.div_add_mod n (2 ^ (n.log2 - 23))
    have rest := Nat.mod_lt n power
    have down : n / 2 ^ (n.log2 - 23) * 2 ^ (n.log2 - 23) ≤ toFloat n := by
      simp only [toFloat]
      split
      · exact Nat.le_refl _
      · exact Nat.mul_le_mul_right _ (Nat.le_succ _)
    have whole : 2 ^ (n.log2 - 23) ≤ n / 2 ^ (n.log2 - 23) * 2 ^ (n.log2 - 23) :=
      Nat.le_mul_of_pos_left _ quotient
    rw [Nat.mul_comm] at parts
    omega

theorem Sparse.le_half {size cap : Nat} (sparse : Sparse size cap) :
    minSize < cap ∧ 2 * size < cap ∧ size ≤ cap / 2 := by
  have rounded := le_toFloat size
  obtain ⟨more, less⟩ := sparse
  rw [minSize] at more ⊢
  omega

/-- A capacity above the least one is twice a smaller one. -/
theorem Sound.halved (sound : arr.Sound) (large : minSize < arr.cap) :
    ∃ k, arr.cap / 2 = minSize * 2 ^ k ∧ 2 ∣ arr.cap := by
  obtain ⟨k, doubled⟩ := sound.doubled
  cases k with
  | zero => exact absurd large (doubled ▸ Nat.lt_irrefl _)
  | succ k =>
      have twice : arr.cap = minSize * 2 ^ k * 2 := by
        rw [doubled, Nat.pow_succ, Nat.mul_assoc]
      exact ⟨k, twice ▸ Nat.mul_div_cancel _ Nat.two_pos, twice ▸ Nat.dvd_mul_left 2 _⟩

/-- What a shrunk array keeps, whether or not the new buffer is large enough. -/
theorem maybeShrink_sparse (sparse : Sparse arr.size arr.cap)
    (h : arr.maybeShrink limit = .ok arr') :
    arr'.cap = arr.cap / 2 ∧ arr'.eltSize = arr.eltSize ∧
      arr'.data.length = arr.cap / 2 * (arr.cap / 2) ∧
      arr.cap / 2 * (arr.cap / 2) ≤ limit := by
  simp only [maybeShrink, if_pos sparse, calloc, bind_eq_ok, check_eq_ok, pure_eq_ok] at h
  obtain ⟨_, -, _, ⟨_, given, rfl⟩, _, -, bytes, -, data, written, rfl⟩ := h
  have inside := check_eq_ok.mp (bind_eq_ok.mp written).choose_spec.1
  obtain ⟨data', written', length, -⟩ :=
    Buffer.writeAt_ok SeqArrFailure.outOfBounds inside
  cases written.symm.trans written'
  exact ⟨rfl, rfl, by rw [length, List.length_replicate], given⟩

theorem maybeShrink_ok (sound : arr.Sound) (holds : arr.Holds elems)
    (fits : Sparse arr.size arr.cap →
      arr.eltSize ≤ arr.cap / 2 ∧ arr.cap / 2 * (arr.cap / 2) ≤ limit) :
    ∃ arr', arr.maybeShrink limit = .ok arr' ∧ arr'.Sound ∧ arr'.Holds elems ∧
      arr'.eltSize = arr.eltSize := by
  by_cases sparse : Sparse arr.size arr.cap
  · obtain ⟨short, given⟩ := fits sparse
    obtain ⟨large, twice, half⟩ := sparse.le_half
    obtain ⟨k, halves, even⟩ := sound.halved large
    have used := sound.used
    have whole : 0 + arr.size * arr.eltSize ≤ arr.data.length := by
      rw [Nat.zero_add]
      exact used
    have read := Buffer.readAt_ok SeqArrFailure.outOfBounds whole
    rw [List.drop_zero, holds.bytes] at read
    have length : elems.flatten.length = arr.size * arr.eltSize := by
      rw [length_flatten holds.widths, holds.count]
    have inside : 0 + elems.flatten.length ≤
        (List.replicate (arr.cap / 2 * (arr.cap / 2)) (0 : UInt8)).length := by
      rw [length, List.length_replicate, Nat.zero_add]
      exact Nat.mul_le_mul half short
    obtain ⟨data, written, kept, front⟩ :=
      Buffer.writeAt_ok SeqArrFailure.outOfBounds inside
    refine ⟨{ arr with data := data, cap := arr.cap / 2 }, ?_, ⟨?_, ?_, ?_⟩,
      ⟨holds.count, holds.widths, ?_⟩, rfl⟩
    · simp only [maybeShrink, if_pos sparse, check_pass _ large, calloc, check_pass _ given, pure,
        Except.pure, check_pass _ half, ok_bind, read, written]
    · rw [← Nat.mul_lt_mul_left Nat.two_pos]
      exact Nat.lt_of_lt_of_eq twice (Nat.mul_div_cancel' even).symm
    · exact ⟨k, halves⟩
    · rw [kept, List.length_replicate]
      exact Nat.mul_le_mul_left _ short
    · rw [Nat.zero_add, length, List.take_zero, List.nil_append] at front
      exact front
  · exact ⟨arr, if_neg sparse, sound, holds, rfl⟩

/-- The new buffer is too short for the elements. -/
theorem maybeShrink_overruns (sound : arr.Sound) (sparse : Sparse arr.size arr.cap)
    (given : arr.cap / 2 * (arr.cap / 2) ≤ limit)
    (long : arr.cap / 2 * (arr.cap / 2) < arr.size * arr.eltSize) :
    arr.maybeShrink limit = .error .outOfBounds := by
  obtain ⟨large, -, half⟩ := sparse.le_half
  have used := sound.used
  have whole : 0 + arr.size * arr.eltSize ≤ arr.data.length := by
    rw [Nat.zero_add]
    exact used
  have read := Buffer.readAt_ok SeqArrFailure.outOfBounds whole
  have beyond : (List.replicate (arr.cap / 2 * (arr.cap / 2)) (0 : UInt8)).length <
      0 + ((arr.data.drop 0).take (arr.size * arr.eltSize)).length := by
    rw [List.length_replicate, List.drop_zero, List.length_take, Nat.min_eq_left used, Nat.zero_add]
    exact long
  simp only [maybeShrink, if_pos sparse, check_pass _ large, calloc, check_pass _ given, pure,
    Except.pure, check_pass _ half, ok_bind, read, Buffer.writeAt_outside _ beyond, error_bind]

theorem take_flatten {w : Nat} (widths : ∀ e ∈ elems, e.length = w) (k : Nat) :
    elems.flatten.take (k * w) = (elems.take k).flatten ∧
      elems.flatten.drop (k * w) = (elems.drop k).flatten := by
  have front : (elems.take k).flatten.length = min k elems.length * w := by
    rw [length_flatten fun e mem => widths e (List.mem_of_mem_take mem), List.length_take]
  have whole : elems.flatten = (elems.take k).flatten ++ (elems.drop k).flatten := by
    rw [← List.flatten_append, List.take_append_drop]
  rcases Nat.le_total k elems.length with inside | beyond
  · rw [Nat.min_eq_left inside] at front
    rw [whole, ← front]
    exact ⟨List.take_left, List.drop_left⟩
  · have all : elems.flatten.length ≤ k * w := by
      rw [length_flatten widths]
      exact Nat.mul_le_mul_right _ beyond
    rw [List.take_of_length_le all, List.drop_of_length_le all, List.take_of_length_le beyond,
      List.drop_of_length_le beyond]
    exact ⟨rfl, rfl⟩

/-- The bytes behind the range and in it are few enough for an `int`. -/
def Counted (arr : SeqArr) (start stop : Nat) : Prop :=
  (arr.size - stop) * arr.eltSize < 2 ^ 31 ∧ (stop - start) * arr.eltSize < 2 ^ 31

/-- Up to the shrinking, an erasure takes the range out and keeps the others in order. -/
theorem erase_eq (limit : Nat) {start stop : Nat} (sound : arr.Sound) (holds : arr.Holds elems)
    (range : start < stop) (inside : stop ≤ arr.size) (positive : 0 < arr.eltSize)
    (counted : arr.Counted start stop) :
    ∃ arr' : SeqArr, arr.erase limit start stop = arr'.maybeShrink limit ∧ arr'.Sound ∧
      arr'.Holds (elems.take start ++ elems.drop stop) ∧ arr'.size = arr.size - (stop - start) ∧
      arr'.eltSize = arr.eltSize ∧ arr'.cap = arr.cap := by
  have used := sound.used
  have widths := holds.widths
  have nonempty : start * arr.eltSize < stop * arr.eltSize :=
    Nat.mul_lt_mul_of_pos_right range positive
  have within : stop * arr.eltSize ≤ arr.size * arr.eltSize := Nat.mul_le_mul_right _ inside
  have few : stop - start ≤ (stop - start) * arr.eltSize := Nat.le_mul_of_pos_right _ positive
  obtain ⟨behind, erased⟩ := counted
  have move : arr.size * arr.eltSize - stop * arr.eltSize < 2 ^ 31 := by
    rwa [← Nat.sub_mul]
  have left : (arr.size - (stop - start)) * arr.eltSize =
      start * arr.eltSize + (arr.size * arr.eltSize - stop * arr.eltSize) := by
    rw [← Nat.sub_mul, ← Nat.add_mul]
    congr 1
    omega
  have behind' : stop * arr.eltSize + (arr.size * arr.eltSize - stop * arr.eltSize) ≤
      arr.data.length := by
    omega
  have read := Buffer.readAt_ok SeqArrFailure.outOfBounds behind'
  have moved : (arr.data.drop (stop * arr.eltSize)).take
      (arr.size * arr.eltSize - stop * arr.eltSize) = (elems.drop stop).flatten := by
    rw [← (take_flatten widths stop).2, ← holds.bytes, List.drop_take]
  have length : (elems.drop stop).flatten.length =
      arr.size * arr.eltSize - stop * arr.eltSize := by
    rw [length_flatten fun e mem => widths e (List.mem_of_mem_drop mem), List.length_drop,
      ← holds.count, Nat.sub_mul]
  have target : start * arr.eltSize + (elems.drop stop).flatten.length ≤ arr.data.length := by
    omega
  obtain ⟨data, written, kept, front⟩ := Buffer.writeAt_ok SeqArrFailure.outOfBounds target
  have rest : (arr.size - (stop - start)) * arr.eltSize + (stop - start) * arr.eltSize ≤
      data.length := by
    rw [Nat.sub_mul stop start]
    omega
  obtain ⟨data', filled, kept', front'⟩ := Buffer.fillAt_ok SeqArrFailure.outOfBounds 0 rest
  refine ⟨{ arr with data := data', size := arr.size - (stop - start) }, ?_,
    ⟨?_, sound.doubled, ?_⟩, ⟨?_, ?_, ?_⟩, rfl, rfl, rfl⟩
  · have quotient : (stop - start) * arr.eltSize / arr.eltSize = stop - start :=
      Nat.mul_div_cancel _ positive
    have moves : (-1 : Int) < ((arr.size * arr.eltSize - stop * arr.eltSize : Nat) : Int) := by
      omega
    have erases : (0 : Int) < ((stop - start : Nat) : Int) := by omega
    simp only [erase, check_pass _ (Nat.le_of_lt nonempty), ok_bind, if_neg (Nat.ne_of_lt nonempty),
      toInt32_eq move, check_pass _ moves, Int.toNat_natCast, read,
      moved, written, ← Nat.sub_mul stop start, toInt32_eq erased, toSizeT_eq erased,
      quotient, toInt32_eq (Nat.lt_of_le_of_lt few erased),
      check_pass _ erases, filled]
  · have room := sound.room
    simp only
    omega
  · rw [kept', kept]
    exact sound.allocated
  · rw [List.length_append, List.length_take, List.length_drop, ← holds.count]
    simp only
    omega
  · intro e mem
    rcases List.mem_append.mp mem with early | late
    · exact widths e (List.mem_of_mem_take early)
    · exact widths e (List.mem_of_mem_drop late)
  · simp only
    rw [front', left, ← length, front, List.flatten_append, ← (take_flatten widths start).1,
      ← holds.bytes, List.take_take, Nat.min_eq_left (by omega)]

end SeqArr

end FlexRic
