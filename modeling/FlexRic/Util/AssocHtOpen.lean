import FlexRic.Library.Checked
import FlexRic.Library.Probing
import Mathlib.Algebra.Group.Nat.Defs
import Mathlib.Data.List.Perm.Basic

/-! # The open-addressing hash table

`assoc_ht_open_t` keeps its entries in an array of slots and looks for a key from
the place that its hash says, slot by slot, up to one that was never used. A
removed entry stays dirty, so that the keys behind it are still found. Before an
insertion or a removal the table grows when more than half of the slots are
dirty, and shrinks when less than a quarter have a value.

The counters have 32 bits, and so do their doubles.
-/

namespace FlexRic

/-- `key_eq` and `hash_func`: any equality of keys, and any hash that respects it. -/
structure KeyFuncs (κ : Type) where
  keyEq : κ → κ → Bool
  hashFunc : κ → UInt32
  refl : ∀ k, keyEq k k = true
  symm : ∀ {a b}, keyEq a b = true → keyEq b a = true
  trans : ∀ {a b c}, keyEq a b = true → keyEq b c = true → keyEq a c = true
  consistent : ∀ {a b}, keyEq a b = true → hashFunc a = hashFunc b

/-- What ends an operation. -/
inductive AssocHtOpenFailure where
  /-- `"Impossible code path. There must be a free entry."` -/
  | impossible
  /-- `is_dirty == true` of an entry with a value -/
  | dirty
  /-- `has_value == false` of a clean entry -/
  | cleanValue
  /-- `"Different keys?"` -/
  | differentKeys
  /-- `htab->sz * 2 <= htab->cap`, `htab->num_dirty * 2 <= htab->cap` -/
  | load
  /-- `idx < htab->cap` -/
  | index
  /-- A remainder by a capacity of zero. -/
  | divisionByZero
  deriving DecidableEq, Repr

/-- `hentry_t`. The key and value of an entry without one are not read. -/
structure HEntry (κ ν : Type) where
  kv : Option (κ × ν)
  hash : UInt32
  isDirty : Bool
  hasValue : Bool
  deriving DecidableEq

/-- `assoc_ht_open_t`, for these functions. -/
structure AssocHtOpen {κ : Type} (K : KeyFuncs κ) (ν : Type) where
  arr : List (HEntry κ ν)
  sz : UInt32
  cap : UInt32
  numDirty : UInt32

namespace AssocHtOpen

variable {κ ν : Type} {K : KeyFuncs κ}

abbrev Result (α : Type) := Except AssocHtOpenFailure α

def minSizeHt : UInt32 := 16

/-- A slot as `calloc` leaves it. -/
def clean : HEntry κ ν := ⟨none, 0, false, false⟩

def init : AssocHtOpen K ν where
  arr := List.replicate minSizeHt.toNat clean
  sz := 0
  cap := minSizeHt
  numDirty := 0

/-- `entry->has_value && key_eq(key, entry->kv.key)` -/
def matches_ (K : KeyFuncs κ) (key : κ) (entry : HEntry κ ν) : Bool :=
  entry.hasValue && entry.kv.any fun kv => K.keyEq key kv.1

/-- What ends the loop of a search. -/
def stops (K : KeyFuncs κ) (key : κ) (entry : HEntry κ ν) : Bool :=
  !entry.isDirty || matches_ K key entry

/-- The loop of `find_idx` and of `find_entry`, which goes once around the table. -/
def search (htab : AssocHtOpen K ν) (key : κ) (hash : UInt32) : Result Nat := do
  check (htab.cap ≠ 0) .divisionByZero
  match probe (stops K key) htab.arr htab.cap.toNat (hash % htab.cap).toNat with
  | none => .error .impossible
  | some idx => pure idx

def findIdx (htab : AssocHtOpen K ν) (key : κ) (hash : UInt32) : Result Nat :=
  htab.search key hash

/-- The loop body of `rehash_table`, for an entry with a value. -/
def moveEntry (htab : AssocHtOpen K ν) (entry : HEntry κ ν) : Result (AssocHtOpen K ν) := do
  check (entry.isDirty = true) .dirty
  match entry.kv with
  | none => .error .differentKeys
  | some (key, _) =>
      let idx ← htab.findIdx key entry.hash
      pure { htab with arr := htab.arr.set idx entry, numDirty := htab.numDirty + 1 }

def rehashTable (htab : AssocHtOpen K ν) (cap : UInt32) : Result (AssocHtOpen K ν) :=
  htab.arr.foldlM
    (fun new entry => if entry.hasValue = true then moveEntry new entry else pure new)
    { arr := List.replicate cap.toNat clean, sz := htab.sz, cap := cap, numDirty := 0 }

def expandOrShrinkIfNeccesary (htab : AssocHtOpen K ν) : Result (AssocHtOpen K ν) := do
  let htab ←
    if htab.numDirty * 2 > htab.cap then htab.rehashTable (htab.cap * 2)
    else if htab.sz * 4 < htab.cap ∧ htab.cap > minSizeHt then htab.rehashTable (htab.cap / 2)
    else pure htab
  check (htab.sz * 2 ≤ htab.cap) .load
  check (htab.numDirty * 2 ≤ htab.cap) .load
  pure htab

/-- `assoc_ht_open_insert`. A key that is there keeps its own copy and gets the value. -/
def insert (htab : AssocHtOpen K ν) (key : κ) (value : ν) : Result (AssocHtOpen K ν) := do
  let htab ← htab.expandOrShrinkIfNeccesary
  let hash := K.hashFunc key
  let idx ← htab.findIdx key hash
  match htab.arr[idx]? with
  | none => .error .index
  | some entry =>
      let numDirty := if entry.isDirty = false then htab.numDirty + 1 else htab.numDirty
      if entry.hasValue = true then do
        check (entry.isDirty = true) .dirty
        check ((entry.kv.any fun kv => K.keyEq key kv.1) = true) .differentKeys
        let kv := entry.kv.map fun kv => (kv.1, value)
        pure { htab with arr := htab.arr.set idx ⟨kv, hash, true, true⟩, numDirty := numDirty }
      else
        pure { htab with
          arr := htab.arr.set idx ⟨some (key, value), hash, true, true⟩
          sz := htab.sz + 1
          numDirty := numDirty }

/-- `find_entry`: the place of the entry, if there is one. -/
def findEntry (htab : AssocHtOpen K ν) (key : κ) : Result (Option Nat) := do
  let idx ← htab.search key (K.hashFunc key)
  match htab.arr[idx]? with
  | none => .error .index
  | some entry =>
      if entry.isDirty = false then do
        check (entry.hasValue = false) .cleanValue
        pure none
      else pure (some idx)

def removeValueHtab (htab : AssocHtOpen K ν) (key : κ) : Result (AssocHtOpen K ν) := do
  let htab ← htab.expandOrShrinkIfNeccesary
  match ← htab.findEntry key with
  | none => pure htab
  | some idx =>
      match htab.arr[idx]? with
      | none => .error .index
      | some entry => do
          check (entry.isDirty = true ∧ entry.hasValue = true) .dirty
          pure { htab with
            arr := htab.arr.set idx { entry with hasValue := false }, sz := htab.sz - 1 }

/-- `assoc_ht_open_value`: the value of the key, or `NULL`. -/
def value (htab : AssocHtOpen K ν) (key : κ) : Result (Option ν) := do
  match ← htab.findEntry key with
  | none => pure none
  | some idx => pure (htab.arr[idx]?.bind fun entry => entry.kv.map Prod.snd)

/-- The keys with a value, in the order of their slots. -/
def pairs (arr : List (HEntry κ ν)) : List (κ × ν) :=
  (arr.filter HEntry.hasValue).filterMap HEntry.kv

/-- Every entry with a value can be reached from the place that its hash says,
    through dirty slots alone, and no two have equal keys. -/
structure Probed (K : KeyFuncs κ) (arr : List (HEntry κ ν)) : Prop where
  dirty : ∀ entry ∈ arr, entry.hasValue = true → entry.isDirty = true
  keyed : ∀ entry ∈ arr, entry.hasValue = true →
    ∃ k v, entry.kv = some (k, v) ∧ entry.hash = K.hashFunc k
  reached : ∀ i entry, arr[i]? = some entry → entry.hasValue = true →
    ∃ d, i = (entry.hash.toNat + d) % arr.length ∧
      ∀ d' < d, ∀ e ∈ met arr entry.hash.toNat d', e.isDirty = true
  distinct : (pairs arr).Pairwise fun a b => ¬K.keyEq a.1 b.1

variable {arr : List (HEntry κ ν)} {entry : HEntry κ ν} {key k : κ} {v : ν} {idx : Nat}

theorem mem_pairs :
    (k, v) ∈ pairs arr ↔ ∃ entry ∈ arr, entry.hasValue = true ∧ entry.kv = some (k, v) := by
  simp [pairs, and_assoc]

theorem stops_live (live : entry.hasValue = true) (there : entry.kv = some (k, v))
    (same : K.keyEq key k = true) : stops K key entry = true := by
  simp [stops, matches_, live, there, same]

/-- What a search in a table with a clean slot finds: the entry of a key that
    equals, or the clean slot where it goes. -/
theorem Probed.find (probed : Probed K arr) (free : ∃ entry ∈ arr, entry.isDirty = false)
    (key : κ) :
    ∃ d entry, met arr (K.hashFunc key).toNat d = some entry ∧
      probe (stops K key) arr arr.length ((K.hashFunc key).toNat % arr.length) =
        some (((K.hashFunc key).toNat + d) % arr.length) ∧
      (∀ d' < d, ∀ e ∈ met arr (K.hashFunc key).toNat d', e.isDirty = true) ∧
      (entry.isDirty = false ∧ (∀ p ∈ pairs arr, ¬K.keyEq key p.1) ∨
        entry.isDirty = true ∧ entry.hasValue = true ∧
          ∃ k v, entry.kv = some (k, v) ∧ K.keyEq key k = true) := by
  obtain ⟨unused, mem, isClean⟩ := free
  have ends : ∃ entry ∈ arr, stops K key entry := ⟨unused, mem, by simp [stops, isClean]⟩
  obtain ⟨d, entry, -, here, stop, passed, found⟩ := exists_probe ends (K.hashFunc key).toNat
  have dirtyBefore : ∀ d' < d, ∀ e ∈ met arr (K.hashFunc key).toNat d', e.isDirty = true := by
    intro d' before e at_
    have goesOn := passed d' before e at_
    simp only [stops, Bool.or_eq_true, not_or, Bool.not_eq_true'] at goesOn
    simpa using goesOn.1
  refine ⟨d, entry, here, found, dirtyBefore, ?_⟩
  cases isDirty : entry.isDirty with
  | false =>
      refine .inl ⟨rfl, fun p listed same => ?_⟩
      obtain ⟨k, v⟩ := p
      obtain ⟨e, stored, live, there⟩ := mem_pairs.mp listed
      obtain ⟨i, at_⟩ := List.getElem?_of_mem stored
      obtain ⟨k', v', there', hashed⟩ := probed.keyed e stored live
      cases there.symm.trans there'
      rw [← K.consistent same] at hashed
      obtain ⟨d', rfl, before⟩ := probed.reached i e at_ live
      rw [hashed] at at_ before
      rcases Nat.lt_trichotomy d d' with less | rfl | more
      · cases isDirty.symm.trans (before d less entry here)
      · cases here.symm.trans at_
        cases isDirty.symm.trans (probed.dirty entry stored live)
      · exact passed d' more e at_ (stops_live live there same)
  | true =>
      simp only [stops, isDirty, matches_, Bool.not_true, Bool.false_or, Bool.and_eq_true,
        Option.any_eq_true] at stop
      obtain ⟨live, ⟨k, v⟩, there, same⟩ := stop
      exact .inr ⟨rfl, live, k, v, there, same⟩

theorem pairs_append (l r : List (HEntry κ ν)) : pairs (l ++ r) = pairs l ++ pairs r := by
  simp [pairs]

theorem pairs_live {l : List (HEntry κ ν)} (live : entry.hasValue = true)
    (there : entry.kv = some (k, v)) : pairs (entry :: l) = (k, v) :: pairs l := by
  simp [pairs, live, there]

theorem pairs_dead {l : List (HEntry κ ν)} (dead : entry.hasValue = false) :
    pairs (entry :: l) = pairs l := by
  simp [pairs, dead]

theorem set_split (at_ : arr[idx]? = some entry) :
    ∃ before after, arr = before ++ entry :: after ∧
      ∀ e, arr.set idx e = before ++ e :: after := by
  obtain ⟨bound, rfl⟩ := List.getElem?_eq_some_iff.mp at_
  refine ⟨arr.take idx, arr.drop (idx + 1), ?_, fun e => ?_⟩
  · rw [← List.drop_eq_getElem_cons bound, List.take_append_drop]
  · rw [List.set_eq_take_append_cons_drop, if_pos bound]

theorem mem_met_set {e new : HEntry κ ν} {start d : Nat}
    (at_ : e ∈ met (arr.set idx new) start d) : e = new ∨ e ∈ met arr start d := by
  rw [met, List.length_set, List.getElem?_set] at at_
  split at at_
  · split at at_
    · exact .inl (Option.some.inj at_).symm
    · cases at_
  · exact .inr at_

/-- Writing a slot that stays dirty, or becomes so, cuts no other entry off. -/
theorem Probed.set (probed : Probed K arr) {new : HEntry κ ν} (dirty : new.isDirty = true)
    (keyed : new.hasValue = true → ∃ k v, new.kv = some (k, v) ∧ new.hash = K.hashFunc k)
    (reached : new.hasValue = true → ∃ d, idx = (new.hash.toNat + d) % arr.length ∧
      ∀ d' < d, ∀ e ∈ met arr new.hash.toNat d', e.isDirty = true)
    (distinct : (pairs (arr.set idx new)).Pairwise fun a b => ¬K.keyEq a.1 b.1) :
    Probed K (arr.set idx new) where
  dirty e mem live := by
    rcases List.mem_or_eq_of_mem_set mem with old | rfl
    · exact probed.dirty e old live
    · exact dirty
  keyed e mem live := by
    rcases List.mem_or_eq_of_mem_set mem with old | rfl
    · exact probed.keyed e old live
    · exact keyed live
  reached i e at_ live := by
    have path : ∃ d, i = (e.hash.toNat + d) % arr.length ∧
        ∀ d' < d, ∀ e' ∈ met arr e.hash.toNat d', e'.isDirty = true := by
      rw [List.getElem?_set] at at_
      split at at_
      · rename_i same
        split at at_
        · cases at_
          exact same ▸ reached live
        · cases at_
      · exact probed.reached i e at_ live
    obtain ⟨d, there, before⟩ := path
    refine ⟨d, by rw [List.length_set, there], fun d' less e' met' => ?_⟩
    rcases mem_met_set met' with rfl | old
    · exact dirty
    · exact before d' less e' old
  distinct := distinct

/-- A new entry in the clean slot that the search for its key has found. -/
theorem Probed.place (probed : Probed K arr) {d : Nat} {old new : HEntry κ ν}
    (here : met arr (K.hashFunc key).toNat d = some old) (isClean : old.isDirty = false)
    (before : ∀ d' < d, ∀ e ∈ met arr (K.hashFunc key).toNat d', e.isDirty = true)
    (absent : ∀ p ∈ pairs arr, ¬K.keyEq key p.1) (live : new.hasValue = true)
    (dirty : new.isDirty = true) (there : new.kv = some (key, v))
    (hashed : new.hash = K.hashFunc key) :
    Probed K (arr.set (((K.hashFunc key).toNat + d) % arr.length) new) ∧
      (pairs (arr.set (((K.hashFunc key).toNat + d) % arr.length) new)).Perm
        ((key, v) :: pairs arr) ∧
      (arr.set (((K.hashFunc key).toNat + d) % arr.length) new).countP HEntry.isDirty =
        arr.countP HEntry.isDirty + 1 := by
  have dead : old.hasValue = false := by
    rw [← Bool.not_eq_true]
    intro oldLive
    cases isClean.symm.trans (probed.dirty old (List.mem_of_getElem? here) oldLive)
  obtain ⟨l, r, split, written⟩ := set_split here
  have perm : (pairs (arr.set (((K.hashFunc key).toNat + d) % arr.length) new)).Perm
      ((key, v) :: pairs arr) := by
    rw [written, split, pairs_append, pairs_append, pairs_live live there, pairs_dead dead]
    exact List.perm_middle
  refine ⟨probed.set dirty (fun _ => ⟨key, v, there, hashed⟩)
    (fun _ => ⟨d, by rw [hashed], by rw [hashed]; exact before⟩) ?_, perm, ?_⟩
  · refine (perm.pairwise_iff (R := fun a b => ¬K.keyEq a.1 b.1)
      fun apart same => apart (K.symm same)).mpr ?_
    exact List.pairwise_cons.mpr ⟨absent, probed.distinct⟩
  · rw [written, split]
    simp [dirty, isClean]
    omega

/-- The entry loses its value and stays dirty. -/
theorem Probed.vacate (probed : Probed K arr) (at_ : arr[idx]? = some entry)
    (live : entry.hasValue = true) (there : entry.kv = some (k, v)) :
    Probed K (arr.set idx { entry with hasValue := false }) ∧
      (pairs arr).Perm ((k, v) :: pairs (arr.set idx { entry with hasValue := false })) ∧
      (arr.set idx { entry with hasValue := false }).countP HEntry.isDirty =
        arr.countP HEntry.isDirty := by
  have dirty := probed.dirty entry (List.mem_of_getElem? at_) live
  obtain ⟨l, r, split, written⟩ := set_split at_
  have perm : (pairs arr).Perm
      ((k, v) :: pairs (arr.set idx { entry with hasValue := false })) := by
    have vacant : pairs ({ entry with hasValue := false } :: r) = pairs r := pairs_dead rfl
    rw [written, split, pairs_append, pairs_append, pairs_live live there, vacant]
    exact List.perm_middle
  refine ⟨probed.set dirty nofun nofun ?_, perm, ?_⟩
  · have apart := (perm.pairwise_iff (R := fun a b => ¬K.keyEq a.1 b.1)
      fun apart same => apart (K.symm same)).mp probed.distinct
    exact (List.pairwise_cons.mp apart).2
  · rw [written, split]
    simp [dirty]

end AssocHtOpen

end FlexRic
