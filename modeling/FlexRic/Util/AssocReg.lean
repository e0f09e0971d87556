import FlexRic.Library.LowerBound
import FlexRic.Util.Assertion
import Mathlib.Algebra.Group.Nat.Defs
import Mathlib.Data.List.Nodup
import Mathlib.Data.List.Perm.Subperm

/-! # The registry

`assoc_reg_t` hands out keys in rising order and keeps the values in an array of
buckets, in the order of their keys. An erased bucket stays where it is, without
its value, until the array is compacted, so a search bisects dead and live
buckets alike.
-/

namespace FlexRic

open Assertion

/-- `registry_bucket_t`. -/
structure RegistryBucket (ν : Type) where
  key : UInt32
  hasValue : Bool
  val : ν
  deriving DecidableEq

/-- `assoc_reg_t`, with the buckets that are occupied. -/
structure AssocReg (ν : Type) where
  arr : List (RegistryBucket ν)
  /-- The buckets with a value, as the operations count them. -/
  sz : Nat
  cap : Nat
  keyId : UInt64

namespace AssocReg

variable {ν : Type}

def minSize : Nat := 16

def init : AssocReg ν where
  arr := []
  sz := 0
  cap := minSize
  keyId := 1

/-- `copy_if`, with what it has written to the output so far. -/
def copyIf (fp : RegistryBucket ν → Bool) (out : List (RegistryBucket ν)) :
    List (RegistryBucket ν) → List (RegistryBucket ν)
  | [] => out
  | b :: rest => copyIf fp (if fp b then out ++ [b] else out) rest

/-- `partition`, which has read `i` buckets and kept `j` of them at the front:
    the array after `rounds` more, and how many it has kept. -/
def partition (fp : RegistryBucket ν → Bool) :
    Nat → Nat → Nat → List (RegistryBucket ν) → List (RegistryBucket ν) × Nat
  | 0, _, j, arr => (arr, j)
  | rounds + 1, i, j, arr =>
      match arr[i]? with
      | none => (arr, j)
      | some b =>
          if fp b then partition fp rounds (i + 1) (j + 1) (arr.set j b)
          else partition fp rounds (i + 1) j arr

/-- The front of the array that `partition` leaves. -/
def partitioned (arr : List (RegistryBucket ν)) : List (RegistryBucket ν) :=
  let (arr, idx) := partition RegistryBucket.hasValue arr.length 0 0 arr
  arr.take idx

def expandIfNeccesary (reg : AssocReg ν) : AssocReg ν :=
  if reg.arr.length < reg.cap - 1 then reg
  else { reg with arr := copyIf RegistryBucket.hasValue [] reg.arr, cap := reg.cap * 2 }

def compactIfNecessary (reg : AssocReg ν) : AssocReg ν :=
  if reg.arr.length < reg.sz * 2 then reg else { reg with arr := partitioned reg.arr }

def shrinkIfNecessary (reg : AssocReg ν) : AssocReg ν :=
  if reg.cap = minSize ∨ reg.cap < reg.sz * 4 then reg
  else { reg with arr := partitioned reg.arr, cap := reg.cap / 2 }

/-- `assoc_reg_push_back`. The counter has 64 bits, a key 32. -/
def pushBack (reg : AssocReg ν) (value : ν) : Checked (UInt32 × AssocReg ν) := do
  let reg := reg.expandIfNeccesary
  let key := reg.keyId.toUInt32
  check (reg.keyId.toNat ≠ 2 ^ 64 - 1) regKeyOverflow
  pure (key,
    { reg with
      arr := reg.arr ++ [⟨key, true, value⟩]
      sz := reg.sz + 1
      keyId := reg.keyId + 1 })

/-- `assoc_reg_front`: the first bucket with a value, or the end. -/
def front (reg : AssocReg ν) : Nat := reg.arr.findIdx RegistryBucket.hasValue

/-- `int len = sz`. From `2 ^ 31` on it is not positive, and the loop does not run. -/
def intLen (sz : Nat) : Nat := (BitVec.ofNat 32 sz).toInt.toNat

/-- `lower_bound_reg`, from `start` to the end. -/
def lowerBoundReg (reg : AssocReg ν) (start : Nat) (key : UInt32) : Checked Nat := do
  let range := reg.arr.drop start
  check (range.length < reg.cap) regRange
  pure (start + lowerBound (fun b => b.key < key) range range.length 0 (intLen range.length))

/-- `find_reg`, from the front to the end: the place of the bucket. -/
def findReg (reg : AssocReg ν) (key : UInt32) : Checked (Option Nat) := do
  check (0 < key) reservedKey
  if reg.front = reg.arr.length then pure none
  else
    let it ← reg.lowerBoundReg reg.front key
    match reg.arr[it]? with
    | none => pure none
    | some b => pure (if b.hasValue = false ∨ b.key ≠ key then none else some it)

/-- `assoc_reg_erase`, from a bucket to the next one with a value. -/
def erase (reg : AssocReg ν) (it : Nat) : AssocReg ν :=
  let erased :=
    { reg with arr := reg.arr.modify it fun b => { b with hasValue := false }, sz := reg.sz - 1 }
  erased.compactIfNecessary.shrinkIfNecessary

/-- A write through `assoc_reg_value`. -/
def update (reg : AssocReg ν) (it : Nat) (f : ν → ν) : AssocReg ν :=
  { reg with arr := reg.arr.modify it fun b => { b with val := f b.val } }

/-- The buckets that both loops keep. -/
def valued (arr : List (RegistryBucket ν)) : List (RegistryBucket ν) :=
  arr.filter RegistryBucket.hasValue

theorem copyIf_eq (fp : RegistryBucket ν → Bool) (out arr : List (RegistryBucket ν)) :
    copyIf fp out arr = out ++ arr.filter fp := by
  induction arr generalizing out with
  | nil => simp [copyIf]
  | cons b rest ih =>
      rw [copyIf, ih]
      by_cases keeps : fp b <;> simp [keeps]

/-- What the loop has kept, and what it is still to read. -/
structure Partitioned (fp : RegistryBucket ν → Bool) (orig : List (RegistryBucket ν)) (i j : Nat)
    (arr : List (RegistryBucket ν)) : Prop where
  behind : j ≤ i
  kept : arr.take j = (orig.take i).filter fp
  unread : arr.drop i = orig.drop i

/-- The next bucket to read, as it was. -/
theorem Partitioned.take_succ {fp : RegistryBucket ν → Bool} {orig arr : List (RegistryBucket ν)}
    {i j : Nat} {b : RegistryBucket ν} (inv : Partitioned fp orig i j arr)
    (here : arr[i]? = some b) : orig.take (i + 1) = orig.take i ++ [b] := by
  have same := congrArg (·[0]?) inv.unread
  have there : orig[i]? = some b := by simpa [here, eq_comm] using same
  rw [List.take_add_one, there]
  rfl

theorem Partitioned.keep {fp : RegistryBucket ν → Bool} {orig arr : List (RegistryBucket ν)}
    {i j : Nat} {b : RegistryBucket ν} (inv : Partitioned fp orig i j arr)
    (here : arr[i]? = some b) (keeps : fp b) :
    Partitioned fp orig (i + 1) (j + 1) (arr.set j b) := by
  have behind := inv.behind
  obtain ⟨bound, -⟩ := List.getElem?_eq_some_iff.mp here
  refine ⟨Nat.succ_le_succ behind, ?_, ?_⟩
  · rw [inv.take_succ here, List.filter_append, ← inv.kept, List.take_add_one,
      List.take_set_of_le (Nat.le_refl j), List.getElem?_set_self (by omega)]
    simp [keeps]
  · rw [List.drop_set_of_lt (by omega), ← List.drop_drop, inv.unread, List.drop_drop]

theorem Partitioned.skip {fp : RegistryBucket ν → Bool} {orig arr : List (RegistryBucket ν)}
    {i j : Nat} {b : RegistryBucket ν} (inv : Partitioned fp orig i j arr)
    (here : arr[i]? = some b) (drops : ¬fp b) : Partitioned fp orig (i + 1) j arr := by
  refine ⟨Nat.le_succ_of_le inv.behind, ?_, ?_⟩
  · rw [inv.take_succ here, List.filter_append, ← inv.kept]
    simp [drops]
  · rw [← List.drop_drop, inv.unread, List.drop_drop]

/-- What the loop leaves in front is what it was to keep, in order. -/
theorem partition_take (fp : RegistryBucket ν → Bool) {orig arr : List (RegistryBucket ν)}
    {rounds i j : Nat} (inv : Partitioned fp orig i j arr) (rest : i + rounds = orig.length) :
    (partition fp rounds i j arr).1.take (partition fp rounds i j arr).2 = orig.filter fp := by
  induction rounds generalizing i j arr with
  | zero =>
      rw [partition, inv.kept, List.take_of_length_le (by omega)]
  | succ rounds ih =>
      have length := congrArg List.length inv.unread
      simp only [List.length_drop] at length
      have here : arr[i]? = some arr[i] := List.getElem?_eq_getElem (by omega)
      simp only [partition, here]
      split
      · rename_i keeps
        exact ih (inv.keep here keeps) (by omega)
      · rename_i drops
        exact ih (inv.skip here drops) (by omega)

theorem expandIfNeccesary_eq (reg : AssocReg ν) :
    reg.expandIfNeccesary =
      if reg.arr.length < reg.cap - 1 then reg
      else { reg with arr := valued reg.arr, cap := reg.cap * 2 } := by
  rw [expandIfNeccesary, copyIf_eq, List.nil_append, valued]

theorem partitioned_eq (arr : List (RegistryBucket ν)) : partitioned arr = valued arr :=
  partition_take _ ⟨Nat.le_refl 0, rfl, rfl⟩ (Nat.zero_add _)

theorem compactIfNecessary_eq (reg : AssocReg ν) :
    reg.compactIfNecessary =
      if reg.arr.length < reg.sz * 2 then reg else { reg with arr := valued reg.arr } := by
  rw [compactIfNecessary, partitioned_eq]

theorem shrinkIfNecessary_eq (reg : AssocReg ν) :
    reg.shrinkIfNecessary =
      if reg.cap = minSize ∨ reg.cap < reg.sz * 4 then reg
      else { reg with arr := valued reg.arr, cap := reg.cap / 2 } := by
  rw [shrinkIfNecessary, partitioned_eq]

/-- The live keys with their values, in rising order. -/
def entries (reg : AssocReg ν) : List (UInt32 × ν) :=
  (valued reg.arr).map fun b => (b.key, b.val)

/-- Keys rise along the array and are below the next one, a bucket is free, and
    no fewer than half of the others have a value. -/
structure Ordered (reg : AssocReg ν) : Prop where
  sorted : reg.arr.Pairwise fun a b => a.key < b.key
  below : ∀ b ∈ reg.arr, b.key.toNat < reg.keyId.toNat
  room : reg.arr.length < reg.cap
  doubled : ∃ k, reg.cap = minSize * 2 ^ k
  counted : reg.sz = reg.arr.countP RegistryBucket.hasValue
  dense : reg.arr.length ≤ reg.sz * 2

variable {reg reg' : AssocReg ν} {key : UInt32} {value : ν} {it : Nat}

theorem mem_entries : (key, value) ∈ reg.entries ↔ ⟨key, true, value⟩ ∈ reg.arr := by
  simp only [entries, valued, List.mem_map, List.mem_filter, Prod.mk.injEq]
  constructor
  · rintro ⟨⟨key, hasValue, value⟩, ⟨mem, rfl⟩, rfl, rfl⟩
    exact mem
  · exact fun mem => ⟨_, ⟨mem, rfl⟩, rfl, rfl⟩

theorem ordered_init : (init : AssocReg ν).Ordered where
  sorted := List.Pairwise.nil
  below := nofun
  room := Nat.succ_pos 15
  doubled := ⟨0, rfl⟩
  counted := rfl
  dense := Nat.le_refl 0

theorem valued_idem (arr : List (RegistryBucket ν)) : valued (valued arr) = valued arr := by
  simp [valued]

theorem Ordered.length_valued (ordered : reg.Ordered) : (valued reg.arr).length = reg.sz :=
  (List.countP_eq_length_filter ..).symm.trans ordered.counted.symm

/-- Dropping the dead buckets keeps the order, whatever capacity leaves room. -/
theorem Ordered.compacted (ordered : reg.Ordered) {cap : Nat} (room : reg.sz < cap)
    (doubled : ∃ k, cap = minSize * 2 ^ k) :
    ({ reg with arr := valued reg.arr, cap := cap } : AssocReg ν).Ordered where
  sorted := ordered.sorted.filter _
  below b mem := ordered.below b (List.mem_filter.mp mem).1
  room := ordered.length_valued ▸ room
  doubled := doubled
  counted := by
    rw [List.countP_eq_length_filter, ← valued, valued_idem, ordered.length_valued]
  dense := by
    rw [ordered.length_valued]
    exact Nat.le_mul_of_pos_right _ Nat.two_pos

theorem Ordered.sz_lt (ordered : reg.Ordered) : reg.sz < reg.cap :=
  Nat.lt_of_le_of_lt (ordered.counted ▸ List.countP_le_length) ordered.room

/-- What an erasure leaves before the array is compacted. -/
structure Erased (reg : AssocReg ν) : Prop where
  sorted : reg.arr.Pairwise fun a b => a.key < b.key
  below : ∀ b ∈ reg.arr, b.key.toNat < reg.keyId.toNat
  room : reg.arr.length < reg.cap
  doubled : ∃ k, reg.cap = minSize * 2 ^ k
  counted : reg.sz = reg.arr.countP RegistryBucket.hasValue

theorem Erased.compact (erased : reg.Erased) : reg.compactIfNecessary.Ordered := by
  have length : (valued reg.arr).length = reg.sz :=
    (List.countP_eq_length_filter ..).symm.trans erased.counted.symm
  rw [compactIfNecessary_eq]
  split
  · rename_i dense
    exact ⟨erased.sorted, erased.below, erased.room, erased.doubled, erased.counted,
      Nat.le_of_lt dense⟩
  · refine ⟨erased.sorted.filter _, fun b mem => erased.below b (List.mem_filter.mp mem).1, ?_,
      erased.doubled, ?_, ?_⟩
    · exact Nat.lt_of_le_of_lt (List.length_filter_le _ _) erased.room
    · rw [List.countP_eq_length_filter, ← valued, valued_idem, length]
    · rw [length]
      exact Nat.le_mul_of_pos_right _ Nat.two_pos

theorem Ordered.shrink (ordered : reg.Ordered) : reg.shrinkIfNecessary.Ordered := by
  rw [shrinkIfNecessary_eq]
  split
  · exact ordered
  · rename_i sparse
    rw [not_or, Nat.not_lt] at sparse
    obtain ⟨k, doubled⟩ := ordered.doubled
    cases k with
    | zero => exact absurd doubled sparse.1
    | succ k =>
        have half : reg.cap / 2 = minSize * 2 ^ k := by
          rw [doubled, Nat.pow_succ, ← Nat.mul_assoc, Nat.mul_div_cancel _ Nat.two_pos]
        have positive : 0 < 2 ^ k := Nat.two_pow_pos k
        have large : minSize ≤ reg.cap / 2 := half ▸ Nat.le_mul_of_pos_right _ positive
        refine ordered.compacted ?_ ⟨k, half⟩
        rw [minSize] at large
        omega

@[simp] theorem entries_compact (reg : AssocReg ν) :
    reg.compactIfNecessary.entries = reg.entries := by
  rw [compactIfNecessary_eq]
  split
  · rfl
  · rw [entries, valued_idem, entries]

@[simp] theorem entries_shrink (reg : AssocReg ν) :
    reg.shrinkIfNecessary.entries = reg.entries := by
  rw [shrinkIfNecessary_eq]
  split
  · rfl
  · rw [entries, valued_idem, entries]

theorem keyId_expand (reg : AssocReg ν) : reg.expandIfNeccesary.keyId = reg.keyId := by
  rw [expandIfNeccesary_eq]
  split <;> rfl

theorem entries_expand (reg : AssocReg ν) : reg.expandIfNeccesary.entries = reg.entries := by
  rw [expandIfNeccesary_eq]
  split
  · rfl
  · rw [entries, valued_idem, entries]

/-- After the expansion there is room for a bucket, and one more. -/
theorem Ordered.expand (ordered : reg.Ordered) :
    reg.expandIfNeccesary.Ordered ∧
      reg.expandIfNeccesary.arr.length + 1 < reg.expandIfNeccesary.cap := by
  have size := ordered.sz_lt
  obtain ⟨k, doubled⟩ := ordered.doubled
  rw [expandIfNeccesary_eq]
  split
  · rename_i roomy
    exact ⟨ordered, by omega⟩
  · refine ⟨ordered.compacted (by omega) ⟨k + 1, ?_⟩, ?_⟩
    · rw [doubled, Nat.pow_succ, Nat.mul_assoc]
    · have positive : 0 < 2 ^ k := Nat.two_pow_pos k
      have large : minSize ≤ reg.cap := doubled ▸ Nat.le_mul_of_pos_right _ positive
      rw [minSize] at large
      simp only [ordered.length_valued]
      omega

/-- As long as the counter fits a key, the new key is above all others. -/
theorem pushBack_ok (ordered : reg.Ordered) (few : reg.keyId.toNat < 2 ^ 32)
    (h : reg.pushBack value = .ok (key, reg')) :
    key.toNat = reg.keyId.toNat ∧ reg'.keyId.toNat = reg.keyId.toNat + 1 ∧
      reg'.entries = reg.entries ++ [(key, value)] ∧ reg'.Ordered := by
  obtain ⟨expanded, room⟩ := ordered.expand
  have same := keyId_expand reg
  simp only [pushBack, bind_eq_ok, check_eq_ok, pure_eq_ok, Prod.mk.injEq] at h
  obtain ⟨_, -, rfl, rfl⟩ := h
  have key_eq : reg.expandIfNeccesary.keyId.toUInt32.toNat = reg.keyId.toNat := by
    rw [same, UInt64.toNat_toUInt32, Nat.mod_eq_of_lt few]
  have next : (reg.expandIfNeccesary.keyId + 1).toNat = reg.keyId.toNat + 1 := by
    rw [same, UInt64.toNat_add, UInt64.toNat_one, Nat.mod_eq_of_lt (by omega)]
  refine ⟨key_eq, next, ?_, ?_, ?_, ?_, expanded.doubled, ?_, ?_⟩
  · rw [← entries_expand reg]
    simp [entries, valued]
  · refine List.pairwise_append.mpr ⟨expanded.sorted, List.pairwise_singleton _ _, ?_⟩
    intro b mem b' last
    rw [List.mem_singleton.mp last, UInt32.lt_iff_toNat_lt, key_eq, ← same]
    exact expanded.below b mem
  · intro b mem
    rw [next]
    rcases List.mem_append.mp mem with old | last
    · have := expanded.below b old
      rw [same] at this
      exact Nat.lt_succ_of_lt this
    · rw [List.mem_singleton.mp last, key_eq]
      exact Nat.lt_succ_self _
  · simpa using room
  · simp [expanded.counted]
  · have dense := expanded.dense
    simp only [List.length_append, List.length_singleton]
    omega

theorem intLen_of_lt {sz : Nat} (small : sz < 2 ^ 31) : intLen sz = sz := by
  rw [intLen, BitVec.toInt_eq_toNat_cond, BitVec.toNat_ofNat]
  split <;> omega

/-- From the first live bucket on there are no more buckets than an `int` counts. -/
def Short (reg : AssocReg ν) : Prop := reg.arr.length - reg.front < 2 ^ 31

instance (reg : AssocReg ν) : Decidable reg.Short := inferInstanceAs (Decidable (_ < _))

/-- The keys are different numbers below the next one. -/
theorem Ordered.length_le (ordered : reg.Ordered) : reg.arr.length ≤ reg.keyId.toNat := by
  have nodup : (reg.arr.map fun b => b.key.toNat).Nodup := by
    apply List.pairwise_map.mpr
    exact ordered.sorted.imp fun less => Nat.ne_of_lt (UInt32.lt_iff_toNat_lt.mp less)
  have within : (reg.arr.map fun b => b.key.toNat) ⊆ List.range reg.keyId.toNat := by
    intro k mem
    obtain ⟨b, stored, rfl⟩ := List.mem_map.mp mem
    exact List.mem_range.mpr (ordered.below b stored)
  simpa using (List.subperm_of_subset nodup within).length_le

theorem Ordered.short (ordered : reg.Ordered) (few : reg.keyId.toNat < 2 ^ 31) : reg.Short :=
  Nat.lt_of_le_of_lt (Nat.le_trans (Nat.sub_le _ _) ordered.length_le) few

/-- A live key is found at its place. -/
theorem findReg_of_live {before after : List (RegistryBucket ν)} (ordered : reg.Ordered)
    (short : reg.Short) (positive : 0 < key)
    (split : reg.arr = before ++ ⟨key, true, value⟩ :: after) :
    reg.findReg key = .ok (some before.length) := by
  have live : reg.front ≤ before.length := by
    have here : before.length < reg.arr.length := by simp [split]
    apply Nat.le_of_not_lt
    intro later
    have dead := List.not_of_lt_findIdx later
    simp [split] at dead
  have range :
      reg.arr.drop reg.front = before.drop reg.front ++ ⟨key, true, value⟩ :: after := by
    rw [split, List.drop_append_of_le_length live]
  have sorted := ordered.sorted.sublist (List.drop_sublist reg.front reg.arr)
  rw [range] at sorted
  have cut := lowerBound_append (p := fun b => decide (b.key < key))
    (sorted.imp fun {a b} less below => by
      simpa using UInt32.lt_trans less (by simpa using below))
    (fun b mem => by simpa using (List.pairwise_append.mp sorted).2.2 b mem _ List.mem_cons_self)
    (by simp)
  have inside : reg.front ≠ reg.arr.length := by
    rw [split, List.length_append, List.length_cons]
    omega
  have room : (reg.arr.drop reg.front).length < reg.cap :=
    Nat.lt_of_le_of_lt (by simp) ordered.room
  have at_ : reg.front + (before.length - reg.front) = before.length := by omega
  have there : reg.arr[before.length]? = some ⟨key, true, value⟩ := by simp [split]
  simp only [findReg, lowerBoundReg, check_pass _ positive, check_pass _ room, ok_bind,
    if_neg inside]
  rw [intLen_of_lt (by simpa [Short] using short), range, cut, List.length_drop, at_]
  simp [there, pure, Except.pure, bind, Except.bind]

/-- Whatever the search finds is live under the key. -/
theorem live_of_findReg (h : reg.findReg key = .ok (some it)) :
    ∃ value, reg.arr[it]? = some ⟨key, true, value⟩ := by
  simp only [findReg, bind_eq_ok, check_eq_ok] at h
  obtain ⟨_, -, h⟩ := h
  split at h
  · cases h
  · simp only [bind_eq_ok] at h
    obtain ⟨lower, -, h⟩ := h
    split at h
    · cases h
    · rename_i b there
      split at h
      · cases h
      · rename_i live
        simp only [pure_eq_ok, Option.some.injEq] at h
        cases h
        obtain ⟨key', hasValue, value⟩ := b
        simp only [not_or, Bool.not_eq_false, not_not] at live
        obtain ⟨rfl, rfl⟩ := live
        exact ⟨value, there⟩

theorem pos_of_findReg {found : Option Nat} (h : reg.findReg key = .ok found) : 0 < key := by
  simp only [findReg, bind_eq_ok, check_eq_ok] at h
  exact h.choose_spec.1

/-- In an ordered registry the search is exact. -/
theorem findReg_some (ordered : reg.Ordered) (short : reg.Short) (positive : 0 < key) :
    reg.findReg key = .ok (some it) ↔ ∃ value, reg.arr[it]? = some ⟨key, true, value⟩ := by
  constructor
  · exact live_of_findReg
  · intro stored
    obtain ⟨value, there⟩ := stored
    obtain ⟨bound, at_⟩ := List.getElem?_eq_some_iff.mp there
    have split : reg.arr = reg.arr.take it ++ ⟨key, true, value⟩ :: reg.arr.drop (it + 1) := by
      rw [← at_, ← List.drop_eq_getElem_cons bound, List.take_append_drop]
    rw [findReg_of_live ordered short positive split, List.length_take,
      Nat.min_eq_left (Nat.le_of_lt bound)]

theorem findReg_none (ordered : reg.Ordered) (short : reg.Short) (positive : 0 < key) :
    reg.findReg key = .ok none ↔ ∀ e ∈ reg.entries, e.1 ≠ key := by
  constructor
  · rintro missed ⟨key', value⟩ mem rfl
    obtain ⟨it, there⟩ := List.getElem?_of_mem (mem_entries.mp mem)
    cases missed.symm.trans ((findReg_some ordered short positive).mpr ⟨value, there⟩)
  · intro missing
    have room : (reg.arr.drop reg.front).length < reg.cap :=
      Nat.lt_of_le_of_lt (by simp) ordered.room
    cases found : reg.findReg key with
    | ok it =>
        cases it with
        | none => rfl
        | some it =>
            obtain ⟨value, there⟩ := live_of_findReg found
            exact absurd rfl (missing _ (mem_entries.mpr (List.mem_of_getElem? there)))
    | error e =>
        simp only [findReg, lowerBoundReg, check_pass _ positive, check_pass _ room, ok_bind,
          pure_bind] at found
        split at found
        · cases found
        · split at found <;> cases found

/-- Changing a bucket other than in its key keeps the keys. -/
theorem keys_modify (arr : List (RegistryBucket ν)) (it : Nat)
    {f : RegistryBucket ν → RegistryBucket ν} (same : ∀ b, (f b).key = b.key) :
    (arr.modify it f).map RegistryBucket.key = arr.map RegistryBucket.key := by
  apply List.ext_getElem?
  intro i
  simp only [List.getElem?_map, List.getElem?_modify]
  split <;> cases arr[i]? <;> simp [same]

theorem sorted_of_keys {arr arr' : List (RegistryBucket ν)}
    (keys : arr'.map RegistryBucket.key = arr.map RegistryBucket.key)
    (sorted : arr.Pairwise fun a b => a.key < b.key) :
    arr'.Pairwise fun a b => a.key < b.key := by
  have listed := List.pairwise_map.mpr sorted
  rw [← keys] at listed
  exact List.pairwise_map.mp listed

theorem below_of_keys {arr arr' : List (RegistryBucket ν)} {n : Nat}
    (keys : arr'.map RegistryBucket.key = arr.map RegistryBucket.key)
    (below : ∀ b ∈ arr, b.key.toNat < n) : ∀ b ∈ arr', b.key.toNat < n := by
  intro b mem
  have listed : b.key ∈ arr'.map RegistryBucket.key := List.mem_map.mpr ⟨b, mem, rfl⟩
  rw [keys] at listed
  obtain ⟨b', mem', key⟩ := List.mem_map.mp listed
  exact key ▸ below b' mem'

theorem modify_split {b : RegistryBucket ν} (there : reg.arr[it]? = some b)
    (f : RegistryBucket ν → RegistryBucket ν) :
    ∃ before after, reg.arr = before ++ b :: after ∧
      reg.arr.modify it f = before ++ f b :: after := by
  obtain ⟨bound, at_⟩ := List.getElem?_eq_some_iff.mp there
  obtain ⟨before, b', after, split, rfl, modified⟩ := List.exists_of_modify f bound
  have same : b' = b := by simpa [split] using there
  exact ⟨before, after, same ▸ split, same ▸ modified⟩

/-- Erasing takes out the entry of the key, and only that. -/
theorem erase_entries (there : reg.arr[it]? = some ⟨key, true, value⟩) :
    ∃ before after, reg.entries = before ++ (key, value) :: after ∧
      (reg.erase it).entries = before ++ after := by
  obtain ⟨before, after, split, modified⟩ :=
    modify_split there fun b => { b with hasValue := false }
  refine ⟨(valued before).map fun b => (b.key, b.val), (valued after).map fun b => (b.key, b.val),
    ?_, ?_⟩
  · simp [entries, valued, split]
  · rw [erase, entries_shrink, entries_compact]
    simp [entries, valued, modified]

theorem Ordered.erase (ordered : reg.Ordered) (there : reg.arr[it]? = some ⟨key, true, value⟩) :
    (reg.erase it).Ordered := by
  have keys := keys_modify reg.arr it (f := fun b => { b with hasValue := false })
    fun _ => rfl
  obtain ⟨before, after, split, modified⟩ :=
    modify_split there fun b => { b with hasValue := false }
  rw [AssocReg.erase]
  apply Ordered.shrink
  apply Erased.compact
  refine ⟨sorted_of_keys keys ordered.sorted, below_of_keys keys ordered.below, ?_,
    ordered.doubled, ?_⟩
  · simpa using ordered.room
  · rw [ordered.counted, modified, split]
    simp

@[simp] theorem keyId_erase (reg : AssocReg ν) (it : Nat) : (reg.erase it).keyId = reg.keyId := by
  simp only [erase, compactIfNecessary_eq, shrinkIfNecessary_eq]
  split <;> split <;> rfl

theorem update_entries (there : reg.arr[it]? = some ⟨key, true, value⟩) (f : ν → ν) :
    ∃ before after, reg.entries = before ++ (key, value) :: after ∧
      (reg.update it f).entries = before ++ (key, f value) :: after := by
  obtain ⟨before, after, split, modified⟩ :=
    modify_split there fun b => { b with val := f b.val }
  refine ⟨(valued before).map fun b => (b.key, b.val), (valued after).map fun b => (b.key, b.val),
    ?_, ?_⟩
  · simp [entries, valued, split]
  · simp [update, entries, valued, modified]

theorem Ordered.update (ordered : reg.Ordered) (f : ν → ν) : (reg.update it f).Ordered := by
  have keys := keys_modify reg.arr it (f := fun b => { b with val := f b.val })
    fun _ => rfl
  have values : (reg.arr.modify it fun b => { b with val := f b.val }).map
      RegistryBucket.hasValue = reg.arr.map RegistryBucket.hasValue := by
    apply List.ext_getElem?
    intro i
    simp only [List.getElem?_map, List.getElem?_modify]
    split <;> cases reg.arr[i]? <;> simp
  refine ⟨sorted_of_keys keys ordered.sorted, below_of_keys keys ordered.below, ?_,
    ordered.doubled, ?_, ?_⟩
  · simpa [AssocReg.update] using ordered.room
  · have count := congrArg (List.countP id) values
    rw [List.countP_map, List.countP_map] at count
    exact ordered.counted.trans count.symm
  · simpa [AssocReg.update] using ordered.dense

/-- No key is live twice. -/
theorem Ordered.eq_of_key (ordered : reg.Ordered) {a b : UInt32 × ν} (memA : a ∈ reg.entries)
    (memB : b ∈ reg.entries) (same : a.1 = b.1) : a = b := by
  have sorted : (reg.entries.map Prod.fst).Pairwise (· < ·) :=
    List.pairwise_map.mpr (List.pairwise_map.mpr (ordered.sorted.filter _))
  have nodup : (reg.entries.map Prod.fst).Nodup := sorted.imp fun less => UInt32.ne_of_lt less
  exact List.inj_on_of_nodup_map nodup memA memB same

end AssocReg

end FlexRic
