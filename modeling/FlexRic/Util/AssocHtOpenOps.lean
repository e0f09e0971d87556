import FlexRic.Util.AssocHtOpen

/-! # What the operations of a hash table keep

The counters count, the capacity is a power of two, and at most one slot more
than half of them is dirty, so that every search ends. Growing and shrinking
move the entries with a value, in the order of their slots, to a new array.
-/

namespace FlexRic

namespace AssocHtOpen

variable {κ ν : Type} {K : KeyFuncs κ}

/-- The counters count, and at most one slot more than half of them is dirty. -/
structure Sound (htab : AssocHtOpen K ν) : Prop where
  length : htab.arr.length = htab.cap.toNat
  doubled : ∃ k, htab.cap.toNat = minSizeHt.toNat * 2 ^ k
  probed : Probed K htab.arr
  dirties : htab.numDirty.toNat = htab.arr.countP HEntry.isDirty
  size : htab.sz.toNat = (pairs htab.arr).length
  load : htab.numDirty.toNat * 2 ≤ htab.cap.toNat + 2

/-- What holds once the table has grown or shrunk. -/
structure Settled (htab : AssocHtOpen K ν) : Prop extends Sound htab where
  half : htab.numDirty.toNat * 2 ≤ htab.cap.toNat

variable {htab htab' : AssocHtOpen K ν} {key k : κ} {v val : ν}

theorem Sound.large (sound : htab.Sound) :
    16 ≤ htab.cap.toNat ∧ (htab.cap.toNat ≤ 2 ^ 30 ∨ htab.cap.toNat = 2 ^ 31) := by
  obtain ⟨k, doubled⟩ := sound.doubled
  have wide := htab.cap.toNat_lt
  have base : minSizeHt.toNat = 16 := rfl
  rw [base] at doubled
  have positive : 0 < 2 ^ k := Nat.two_pow_pos k
  have few : k < 28 := by
    rw [← Nat.pow_lt_pow_iff_right (a := 2) (by omega)]
    omega
  rcases Nat.lt_or_eq_of_le (Nat.le_of_lt_succ few) with less | rfl
  · have most : 2 ^ k ≤ 2 ^ 26 := Nat.pow_le_pow_right Nat.two_pos (Nat.le_of_lt_succ less)
    omega
  · omega

theorem pairs_length_le {arr : List (HEntry κ ν)} (probed : Probed K arr) :
    (pairs arr).length ≤ arr.countP HEntry.isDirty := by
  have live : (pairs arr).length ≤ arr.countP HEntry.hasValue := by
    rw [List.countP_eq_length_filter]
    exact List.length_filterMap_le _ _
  exact Nat.le_trans live (List.countP_mono_left fun e mem => probed.dirty e mem)

theorem exists_clean {arr : List (HEntry κ ν)} (few : arr.countP HEntry.isDirty < arr.length) :
    ∃ entry ∈ arr, entry.isDirty = false := by
  by_contra none
  apply Nat.ne_of_lt few
  apply List.countP_eq_length.mpr
  intro entry mem
  by_contra isClean
  exact none ⟨entry, mem, by simpa using isClean⟩

/-- There is always a slot for a search to end at. -/
theorem Sound.free (sound : htab.Sound) : ∃ entry ∈ htab.arr, entry.isDirty = false := by
  apply exists_clean
  have large := sound.large.1
  have load := sound.load
  rw [← sound.dirties, sound.length]
  omega

theorem sound_init : (init : AssocHtOpen K ν).Sound where
  length := rfl
  doubled := ⟨0, rfl⟩
  probed := by
    have unused (entry : HEntry κ ν) (mem : entry ∈ (init : AssocHtOpen K ν).arr) :
        entry.hasValue ≠ true := by
      rw [List.eq_of_mem_replicate mem]
      exact Bool.false_ne_true
    refine ⟨fun e mem live => absurd live (unused e mem),
      fun e mem live => absurd live (unused e mem),
      fun i e at_ live => absurd live (unused e (List.mem_of_getElem? at_)), List.Pairwise.nil⟩
  dirties := rfl
  size := rfl
  load := Nat.zero_le _

/-- A search in a table that has a clean slot ends. -/
theorem search_ok {arr : List (HEntry κ ν)} {cap : UInt32} (sz numDirty : UInt32)
    (length : arr.length = cap.toNat) (positive : 0 < cap.toNat) (probed : Probed K arr)
    (free : ∃ entry ∈ arr, entry.isDirty = false) (key : κ) :
    ∃ d entry, met arr (K.hashFunc key).toNat d = some entry ∧
      (⟨arr, sz, cap, numDirty⟩ : AssocHtOpen K ν).search key (K.hashFunc key) =
        .ok (((K.hashFunc key).toNat + d) % arr.length) ∧
      (∀ d' < d, ∀ e ∈ met arr (K.hashFunc key).toNat d', e.isDirty = true) ∧
      (entry.isDirty = false ∧ (∀ p ∈ pairs arr, ¬K.keyEq key p.1) ∨
        entry.isDirty = true ∧ entry.hasValue = true ∧
          ∃ k v, entry.kv = some (k, v) ∧ K.keyEq key k = true) := by
  obtain ⟨d, entry, here, found, before, which⟩ := probed.find free key
  refine ⟨d, entry, here, ?_, before, which⟩
  have nonzero : cap ≠ 0 := by
    rintro rfl
    exact absurd positive (Nat.lt_irrefl 0)
  have start : (K.hashFunc key % cap).toNat = (K.hashFunc key).toNat % arr.length := by
    rw [UInt32.toNat_mod, length]
  simp only [search, check_pass _ nonzero, ok_bind, start, ← length, found]
  rfl

/-- A table that is being filled, with what it was filled with so far. -/
structure Filled (cap sz : UInt32) (new : AssocHtOpen K ν) (done : List (HEntry κ ν)) : Prop where
  sameCap : new.cap = cap
  sameSz : new.sz = sz
  length : new.arr.length = cap.toNat
  probed : Probed K new.arr
  dirties : new.numDirty.toNat = new.arr.countP HEntry.isDirty
  count : new.numDirty.toNat = (pairs done).length
  perm : (pairs new.arr).Perm (pairs done)

theorem Filled.move {cap sz : UInt32} {new : AssocHtOpen K ν} {done rest : List (HEntry κ ν)}
    {entry : HEntry κ ν} (filled : Filled cap sz new done) (live : entry.hasValue = true)
    (dirty : entry.isDirty = true) (there : entry.kv = some (k, v))
    (hashed : entry.hash = K.hashFunc k)
    (distinct : (pairs (done ++ entry :: rest)).Pairwise fun a b => ¬K.keyEq a.1 b.1)
    (room : (pairs (done ++ entry :: rest)).length ≤ cap.toNat) :
    ∃ new', moveEntry new entry = .ok new' ∧ Filled cap sz new' (done ++ [entry]) := by
  obtain ⟨arr, sz', cap', numDirty⟩ := new
  obtain ⟨rfl, rfl, length, probed, dirties, count, perm⟩ := filled
  rw [pairs_append, pairs_live live there] at distinct room
  rw [List.length_append, List.length_cons] at room
  have wide := cap'.toNat_lt
  simp only at length probed dirties count perm wide room
  have free : ∃ e ∈ arr, e.isDirty = false := exists_clean (by omega)
  obtain ⟨d, old, here, found, before, which⟩ :=
    search_ok sz' numDirty length (by omega) probed free k
  have absent : ∀ p ∈ pairs arr, ¬K.keyEq k p.1 := by
    intro p mem same
    have across := (List.pairwise_append.mp distinct).2.2 p (perm.mem_iff.mp mem) (k, v)
      List.mem_cons_self
    exact across (K.symm same)
  have isClean : old.isDirty = false := by
    rcases which with unused | ⟨-, oldLive, k', v', oldThere, same⟩
    · exact unused.1
    · exact absurd same (absent (k', v')
        (mem_pairs.mpr ⟨old, List.mem_of_getElem? here, oldLive, oldThere⟩))
  obtain ⟨probed', perm', dirties'⟩ :=
    probed.place here isClean before absent live dirty there hashed
  have next : (numDirty + 1).toNat = numDirty.toNat + 1 := by
    rw [UInt32.toNat_add, UInt32.toNat_one, Nat.mod_eq_of_lt (by omega)]
  have goes : moveEntry (⟨arr, sz', cap', numDirty⟩ : AssocHtOpen K ν) entry =
      .ok (⟨arr.set (((K.hashFunc k).toNat + d) % arr.length) entry, sz', cap', numDirty + 1⟩ :
        AssocHtOpen K ν) := by
    simp only [moveEntry, check_pass _ dirty, ok_bind, there, hashed, findIdx, found]
    rfl
  refine ⟨_, goes, rfl, rfl, ?_, probed', ?_, ?_, ?_⟩
  · rw [List.length_set, length]
  · rw [next, dirties', dirties]
  · rw [next, count, pairs_append, pairs_live live there, List.length_append]
    rfl
  · rw [pairs_append, pairs_live live there]
    exact perm'.trans ((perm.cons _).trans (List.perm_append_singleton _ _).symm)

/-- The loop of the rehashing, over the rest of the old table. -/
theorem Filled.rehash {cap sz : UInt32} {new : AssocHtOpen K ν} {done rest : List (HEntry κ ν)}
    (filled : Filled cap sz new done)
    (dirty : ∀ e ∈ rest, e.hasValue = true → e.isDirty = true)
    (keyed : ∀ e ∈ rest, e.hasValue = true → ∃ k v, e.kv = some (k, v) ∧ e.hash = K.hashFunc k)
    (distinct : (pairs (done ++ rest)).Pairwise fun a b => ¬K.keyEq a.1 b.1)
    (room : (pairs (done ++ rest)).length ≤ cap.toNat) :
    ∃ new', rest.foldlM
        (fun new entry => if entry.hasValue = true then moveEntry new entry else pure new) new =
          .ok new' ∧ Filled cap sz new' (done ++ rest) := by
  induction rest generalizing new done with
  | nil => exact ⟨new, rfl, by rwa [List.append_nil]⟩
  | cons entry rest ih =>
      have snoc : done ++ entry :: rest = (done ++ [entry]) ++ rest := by simp
      have dirty' : ∀ e ∈ rest, e.hasValue = true → e.isDirty = true :=
        fun e mem => dirty e (List.mem_cons_of_mem _ mem)
      have keyed' : ∀ e ∈ rest, e.hasValue = true →
          ∃ k v, e.kv = some (k, v) ∧ e.hash = K.hashFunc k :=
        fun e mem => keyed e (List.mem_cons_of_mem _ mem)
      rw [List.foldlM_cons]
      by_cases live : entry.hasValue = true
      · obtain ⟨k, v, there, hashed⟩ := keyed entry List.mem_cons_self live
        obtain ⟨moved, goes, filled'⟩ := filled.move live (dirty entry List.mem_cons_self live)
          there hashed distinct room
        rw [snoc] at distinct room ⊢
        rw [if_pos live, goes, ok_bind]
        exact ih filled' dirty' keyed' distinct room
      · have dead : entry.hasValue = false := by simpa using live
        have same : pairs (done ++ [entry]) = pairs done := by
          rw [pairs_append, pairs_dead dead]
          simp [pairs]
        have filled' : Filled cap sz new (done ++ [entry]) :=
          ⟨filled.sameCap, filled.sameSz, filled.length, filled.probed, filled.dirties,
            same ▸ filled.count, same ▸ filled.perm⟩
        rw [snoc] at distinct room ⊢
        rw [if_neg live, pure_bind]
        exact ih filled' dirty' keyed' distinct room

theorem Filled.start (cap sz : UInt32) :
    Filled cap sz
      ({ arr := List.replicate cap.toNat clean, sz := sz, cap := cap, numDirty := 0 } :
        AssocHtOpen K ν) [] := by
  have unused (e : HEntry κ ν) (mem : e ∈ List.replicate cap.toNat clean) : e = clean :=
    List.eq_of_mem_replicate mem
  have dead (e : HEntry κ ν) (mem : e ∈ List.replicate cap.toNat clean) : e.hasValue ≠ true := by
    rw [unused e mem]
    exact Bool.false_ne_true
  have empty : pairs (List.replicate cap.toNat (clean : HEntry κ ν)) = [] := by
    rw [pairs, List.filter_eq_nil_iff.mpr dead]
    rfl
  have none : (List.replicate cap.toNat (clean : HEntry κ ν)).countP HEntry.isDirty = 0 := by
    apply List.countP_eq_zero.mpr
    intro e mem
    rw [unused e mem]
    exact Bool.false_ne_true
  refine ⟨rfl, rfl, List.length_replicate, ?_, none.symm, rfl, empty ▸ .rfl⟩
  refine ⟨fun e mem live => absurd live (dead e mem), fun e mem live => absurd live (dead e mem),
    fun i e at_ live => absurd live (dead e (List.mem_of_getElem? at_)), ?_⟩
  rw [empty]
  exact List.Pairwise.nil

/-- A table that has room for them gets all the entries of the old one. -/
theorem rehash_ok (sound : htab.Sound) {cap : UInt32} (room : htab.sz.toNat ≤ cap.toNat) :
    ∃ new, htab.rehashTable cap = .ok new ∧ Filled cap htab.sz new htab.arr := by
  have start : Filled cap htab.sz _ [] := Filled.start (K := K) (ν := ν) cap htab.sz
  exact start.rehash sound.probed.dirty sound.probed.keyed sound.probed.distinct
    (sound.size ▸ room)

theorem moveEntry_kept {new : AssocHtOpen K ν} {entry : HEntry κ ν}
    (moved : moveEntry new entry = .ok htab') : htab'.cap = new.cap ∧ htab'.sz = new.sz := by
  unfold moveEntry at moved
  obtain ⟨_, -, moved⟩ := bind_eq_ok.mp moved
  split at moved
  · cases moved
  · obtain ⟨idx, -, moved⟩ := bind_eq_ok.mp moved
    cases pure_eq_ok.mp moved
    exact ⟨rfl, rfl⟩

theorem rehash_kept {cap : UInt32} (rehashed : htab.rehashTable cap = .ok htab') :
    htab'.cap = cap ∧ htab'.sz = htab.sz := by
  have kept (rest : List (HEntry κ ν)) (new : AssocHtOpen K ν)
      (goes : rest.foldlM
        (fun new entry => if entry.hasValue = true then moveEntry new entry else pure new) new =
          .ok htab') : htab'.cap = new.cap ∧ htab'.sz = new.sz := by
    induction rest generalizing new with
    | nil =>
        cases pure_eq_ok.mp goes
        exact ⟨rfl, rfl⟩
    | cons entry rest ih =>
        rw [List.foldlM_cons] at goes
        obtain ⟨next, moved, goes⟩ := bind_eq_ok.mp goes
        obtain ⟨cap', sz'⟩ := ih next goes
        split at moved
        · obtain ⟨sameCap, sameSz⟩ := moveEntry_kept moved
          exact ⟨cap'.trans sameCap, sz'.trans sameSz⟩
        · cases pure_eq_ok.mp moved
          exact ⟨cap', sz'⟩
  exact kept htab.arr _ rehashed

/-- The doubles that decide about growing and shrinking fit 32 bits. -/
def DoublesFit (htab : AssocHtOpen K ν) : Prop :=
  htab.cap.toNat < 2 ^ 31 ∨ htab.numDirty.toNat ≤ 2 ^ 30 ∧ htab.sz.toNat < 2 ^ 30

instance (htab : AssocHtOpen K ν) : Decidable htab.DoublesFit :=
  inferInstanceAs (Decidable (_ ∨ _))

theorem Filled.settled {cap sz : UInt32} {done : List (HEntry κ ν)}
    (filled : Filled cap sz htab' done) (size : sz.toNat = (pairs done).length)
    (doubled : ∃ k, cap.toNat = minSizeHt.toNat * 2 ^ k)
    (half : sz.toNat * 2 ≤ cap.toNat) : htab'.Settled := by
  have few : htab'.numDirty.toNat = sz.toNat := filled.count.trans size.symm
  have size' : htab'.sz.toNat = (pairs htab'.arr).length := by
    rw [filled.sameSz, size, filled.perm.length_eq]
  have half' : htab'.numDirty.toNat * 2 ≤ htab'.cap.toNat := by
    rw [few, filled.sameCap]
    exact half
  refine ⟨⟨?_, ?_, filled.probed, filled.dirties, size', Nat.le_add_right_of_le half'⟩, half'⟩
  · rw [filled.length, filled.sameCap]
  · rw [filled.sameCap]
    exact doubled

theorem Sound.size_le (sound : htab.Sound) : htab.sz.toNat ≤ htab.numDirty.toNat := by
  rw [sound.size, sound.dirties]
  exact pairs_length_le sound.probed

theorem double_le {n cap : UInt32} (half : n.toNat * 2 ≤ cap.toNat) : n * 2 ≤ cap := by
  have wide := cap.toNat_lt
  have two : (2 : UInt32).toNat = 2 := rfl
  rw [UInt32.le_iff_toNat_le, UInt32.toNat_mul, two, Nat.mod_eq_of_lt (by omega)]
  exact half

/-- The table is resized first and checked then. -/
theorem expand_eq_ok : htab.expandOrShrinkIfNeccesary = .ok htab' ↔
    (if htab.numDirty * 2 > htab.cap then htab.rehashTable (htab.cap * 2)
      else if htab.sz * 4 < htab.cap ∧ htab.cap > minSizeHt then htab.rehashTable (htab.cap / 2)
      else pure htab) = .ok htab' ∧
    htab'.sz * 2 ≤ htab'.cap ∧ htab'.numDirty * 2 ≤ htab'.cap := by
  unfold expandOrShrinkIfNeccesary
  split
  · simp only [bind_eq_ok, check_eq_ok, pure_eq_ok]
    grind
  · split
    · simp only [bind_eq_ok, check_eq_ok, pure_eq_ok]
      grind
    · simp only [bind_eq_ok, check_eq_ok, pure_eq_ok]
      grind

theorem Settled.checked (settled : htab'.Settled) :
    htab'.sz * 2 ≤ htab'.cap ∧ htab'.numDirty * 2 ≤ htab'.cap := by
  have half := settled.half
  have few := settled.size_le
  exact ⟨double_le (by omega), double_le half⟩

/-- A table whose doubles fit grows or shrinks when it has to, and keeps its pairs. -/
theorem expand_ok (sound : htab.Sound) (fit : htab.DoublesFit) :
    ∃ htab', htab.expandOrShrinkIfNeccesary = .ok htab' ∧ htab'.Settled ∧
      (pairs htab'.arr).Perm (pairs htab.arr) ∧
      htab'.numDirty.toNat ≤ htab.numDirty.toNat := by
  have large := sound.large
  have load := sound.load
  have few := sound.size_le
  have base : minSizeHt.toNat = 16 := rfl
  have two : (2 : UInt32).toNat = 2 := rfl
  have four : (4 : UInt32).toNat = 4 := rfl
  obtain ⟨k, doubled⟩ := sound.doubled
  simp only [DoublesFit] at fit
  have dirties2 : (htab.numDirty * 2).toNat = htab.numDirty.toNat * 2 := by
    rw [UInt32.toNat_mul, two, Nat.mod_eq_of_lt (by omega)]
  have sz4 : (htab.sz * 4).toNat = htab.sz.toNat * 4 := by
    rw [UInt32.toNat_mul, four, Nat.mod_eq_of_lt (by omega)]
  have tidier {cap : UInt32} {new : AssocHtOpen K ν} (filled : Filled cap htab.sz new htab.arr) :
      new.numDirty.toNat ≤ htab.numDirty.toNat := by
    rw [filled.count, ← sound.size]
    exact few
  by_cases grows : htab.numDirty * 2 > htab.cap
  · have above := UInt32.lt_iff_toNat_lt.mp grows
    have cap2 : (htab.cap * 2).toNat = htab.cap.toNat * 2 := by
      rw [UInt32.toNat_mul, two, Nat.mod_eq_of_lt (by omega)]
    have room : htab.sz.toNat ≤ (htab.cap * 2).toNat := by omega
    obtain ⟨new, rehashed, filled⟩ := rehash_ok sound room
    have settled := filled.settled sound.size
      ⟨k + 1, by rw [cap2, doubled, Nat.pow_succ, Nat.mul_assoc]⟩ (by omega)
    exact ⟨new, expand_eq_ok.mpr ⟨by rw [if_pos grows, rehashed], settled.checked⟩, settled,
      filled.perm, tidier filled⟩
  have under := mt UInt32.lt_iff_toNat_lt.mpr grows
  by_cases shrinks : htab.sz * 4 < htab.cap ∧ htab.cap > minSizeHt
  · have less := UInt32.lt_iff_toNat_lt.mp shrinks.1
    have more := UInt32.lt_iff_toNat_lt.mp shrinks.2
    have cap2 : (htab.cap / 2).toNat = htab.cap.toNat / 2 := by
      rw [UInt32.toNat_div, two]
    have halved : ∃ k, (htab.cap / 2).toNat = minSizeHt.toNat * 2 ^ k := by
      cases k with
      | zero => omega
      | succ k =>
          refine ⟨k, ?_⟩
          rw [cap2, doubled, Nat.pow_succ, ← Nat.mul_assoc, Nat.mul_div_cancel _ Nat.two_pos]
    have room : htab.sz.toNat ≤ (htab.cap / 2).toNat := by omega
    obtain ⟨new, rehashed, filled⟩ := rehash_ok sound room
    have settled := filled.settled sound.size halved (by omega)
    exact ⟨new, expand_eq_ok.mpr ⟨by rw [if_neg grows, if_pos shrinks, rehashed], settled.checked⟩,
      settled, filled.perm, tidier filled⟩
  · have settled : htab.Settled := ⟨sound, by omega⟩
    exact ⟨htab, expand_eq_ok.mpr ⟨by rw [if_neg grows, if_neg shrinks]; rfl, settled.checked⟩,
      settled, .rfl, Nat.le_refl _⟩

/-- A table whose doubles wrap is left without any slot, if it is left at all. -/
theorem expand_wraps (sound : htab.Sound) (wraps : ¬htab.DoublesFit)
    (goes : htab.expandOrShrinkIfNeccesary = .ok htab') : htab'.cap = 0 := by
  have large := sound.large
  have load := sound.load
  have few := sound.size_le
  have two : (2 : UInt32).toNat = 2 := rfl
  simp only [DoublesFit] at wraps
  have full : htab.cap = 2147483648 := UInt32.toNat_inj.mp (by show _ = 2147483648; omega)
  obtain ⟨resized, fits, -⟩ := expand_eq_ok.mp goes
  by_cases grows : htab.numDirty * 2 > htab.cap
  · rw [if_pos grows] at resized
    rw [(rehash_kept resized).1, full]
    rfl
  · have under := mt UInt32.lt_iff_toNat_lt.mpr grows
    rw [UInt32.toNat_mul, two, Nat.mod_eq_of_lt (by omega)] at under
    have size : htab.sz = 1073741824 := UInt32.toNat_inj.mp (by show _ = 1073741824; omega)
    rw [if_neg grows, if_pos (by rw [full, size]; decide)] at resized
    obtain ⟨cap', sz'⟩ := rehash_kept resized
    rw [cap', sz', full, size] at fits
    exact absurd fits (by decide)

theorem Sound.search (sound : htab.Sound) (key : κ) :
    ∃ d entry, met htab.arr (K.hashFunc key).toNat d = some entry ∧
      htab.search key (K.hashFunc key) =
        .ok (((K.hashFunc key).toNat + d) % htab.arr.length) ∧
      (∀ d' < d, ∀ e ∈ met htab.arr (K.hashFunc key).toNat d', e.isDirty = true) ∧
      (entry.isDirty = false ∧ (∀ p ∈ pairs htab.arr, ¬K.keyEq key p.1) ∨
        entry.isDirty = true ∧ entry.hasValue = true ∧
          ∃ k v, entry.kv = some (k, v) ∧ K.keyEq key k = true) := by
  have large := sound.large.1
  exact search_ok _ _ sound.length (by omega) sound.probed sound.free key

/-- A key that is absent gets its pair, next to what was there. -/
theorem insert_ok (settled : htab.Settled) (expanded : htab'.expandOrShrinkIfNeccesary = .ok htab)
    (absent : ∀ p ∈ pairs htab.arr, ¬K.keyEq key p.1) (val : ν) :
    ∃ new, htab'.insert key val = .ok new ∧ new.Sound ∧
      (pairs new.arr).Perm ((key, val) :: pairs htab.arr) ∧
      new.numDirty.toNat = htab.numDirty.toNat + 1 := by
  obtain ⟨d, entry, here, found, before, which⟩ := settled.search key
  have isClean : entry.isDirty = false := by
    rcases which with unused | ⟨-, live, k, v, there, same⟩
    · exact unused.1
    · exact absurd same
        (absent (k, v) (mem_pairs.mpr ⟨entry, List.mem_of_getElem? here, live, there⟩))
  have dead : entry.hasValue ≠ true := by
    intro live
    cases isClean.symm.trans (settled.probed.dirty entry (List.mem_of_getElem? here) live)
  let new : HEntry κ ν := ⟨some (key, val), K.hashFunc key, true, true⟩
  have there : new.kv = some (key, val) := rfl
  obtain ⟨probed, perm, dirties⟩ :=
    settled.probed.place here isClean before absent rfl rfl there rfl
  have large := settled.large
  have half := settled.half
  have few := settled.size_le
  have next : (htab.numDirty + 1).toNat = htab.numDirty.toNat + 1 := by
    rw [UInt32.toNat_add, UInt32.toNat_one, Nat.mod_eq_of_lt (by omega)]
  have next' : (htab.sz + 1).toNat = htab.sz.toNat + 1 := by
    rw [UInt32.toNat_add, UInt32.toNat_one, Nat.mod_eq_of_lt (by omega)]
  rw [met] at here
  refine ⟨{ htab with
    arr := htab.arr.set (((K.hashFunc key).toNat + d) % htab.arr.length) new
    sz := htab.sz + 1
    numDirty := htab.numDirty + 1 }, ?_, ⟨?_, settled.doubled, probed, ?_, ?_, ?_⟩, perm, next⟩
  · simp only [insert, expanded, ok_bind, findIdx, found, here, isClean, if_true]
    rw [if_neg dead]
    rfl
  · rw [List.length_set]
    exact settled.length
  · rw [next, dirties, settled.dirties]
  · rw [next', perm.length_eq, List.length_cons, settled.size]
  · show (htab.numDirty + 1).toNat * 2 ≤ htab.cap.toNat + 2
    omega

/-- `find_entry` finds the entry of the key, if it has one. -/
theorem findEntry_ok (sound : htab.Sound) (key : κ) :
    (htab.findEntry key = .ok none ∧ ∀ p ∈ pairs htab.arr, ¬K.keyEq key p.1) ∨
      ∃ idx entry k v, htab.findEntry key = .ok (some idx) ∧ htab.arr[idx]? = some entry ∧
        entry.hasValue = true ∧ entry.kv = some (k, v) ∧ K.keyEq key k = true := by
  obtain ⟨d, entry, here, found, -, which⟩ := sound.search key
  rw [met] at here
  rcases which with ⟨isClean, absent⟩ | ⟨isDirty, live, k, v, there, same⟩
  · have dead : entry.hasValue = false := by
      rw [← Bool.not_eq_true]
      intro live
      cases isClean.symm.trans (sound.probed.dirty entry (List.mem_of_getElem? here) live)
    refine .inl ⟨?_, absent⟩
    simp only [findEntry, found, ok_bind, here, isClean, if_true, check_pass _ dead]
    rfl
  · refine .inr ⟨_, entry, k, v, ?_, here, live, there, same⟩
    simp only [findEntry, found, ok_bind, here, isDirty, Bool.true_eq_false, if_false]
    rfl

/-- Only one pair has a key that equals. -/
theorem Probed.only {arr : List (HEntry κ ν)} {rest : List (κ × ν)} {p : κ × ν}
    (probed : Probed K arr) (perm : (pairs arr).Perm ((k, v) :: rest))
    (same : K.keyEq key k = true) : p ∈ rest ↔ p ∈ pairs arr ∧ ¬K.keyEq key p.1 := by
  have apart := (perm.pairwise_iff (R := fun a b => ¬K.keyEq a.1 b.1)
    fun apart same => apart (K.symm same)).mp probed.distinct
  rw [perm.mem_iff, List.mem_cons]
  constructor
  · intro mem
    refine ⟨.inr mem, fun equals => ?_⟩
    exact (List.pairwise_cons.mp apart).1 p mem (K.trans (K.symm same) equals)
  · intro kept
    rcases kept.1 with rfl | mem
    · exact absurd same kept.2
    · exact mem

/-- A removal takes out the pair of the key, if there is one. -/
theorem removeValueHtab_ok (settled : htab.Settled)
    (expanded : htab'.expandOrShrinkIfNeccesary = .ok htab) (key : κ) :
    ∃ new, htab'.removeValueHtab key = .ok new ∧ new.Sound ∧
      ∀ p, p ∈ pairs new.arr ↔ p ∈ pairs htab.arr ∧ ¬K.keyEq key p.1 := by
  rcases findEntry_ok settled.toSound key with
    ⟨found, absent⟩ | ⟨idx, entry, k, v, found, here, live, there, same⟩
  · refine ⟨htab, ?_, settled.toSound, fun p => ⟨fun mem => ⟨mem, absent p mem⟩, And.left⟩⟩
    simp only [removeValueHtab, expanded, ok_bind, found]
    rfl
  · obtain ⟨probed, perm, dirties⟩ := settled.probed.vacate here live there
    have dirty := settled.probed.dirty entry (List.mem_of_getElem? here) live
    have positive : (1 : UInt32).toNat ≤ htab.sz.toNat := by
      rw [settled.size, perm.length_eq]
      exact Nat.succ_pos _
    have less : (htab.sz - 1).toNat = htab.sz.toNat - 1 := by
      rw [UInt32.toNat_sub_of_le _ _ (UInt32.le_iff_toNat_le.mpr positive), UInt32.toNat_one]
    refine ⟨{ htab with
      arr := htab.arr.set idx { entry with hasValue := false }
      sz := htab.sz - 1 }, ?_, ⟨?_, settled.doubled, probed, ?_, ?_, settled.load⟩,
      fun p => settled.probed.only perm same⟩
    · simp only [removeValueHtab, expanded, ok_bind, found, here,
        check_pass _ (And.intro dirty live)]
      rfl
    · rw [List.length_set]
      exact settled.length
    · rw [dirties]
      exact settled.dirties
    · rw [less, settled.size, perm.length_eq]
      rfl

/-- What a table holds, as a map that equal keys share. -/
def Holds (htab : AssocHtOpen K ν) (m : κ → Option ν) : Prop :=
  ∀ key v, m key = some v ↔ ∃ k, (k, v) ∈ pairs htab.arr ∧ K.keyEq key k = true

theorem Holds.insert {m : κ → Option ν} (holds : htab.Holds m)
    (absent : ∀ p ∈ pairs htab.arr, ¬K.keyEq key p.1)
    (perm : (pairs htab'.arr).Perm ((key, val) :: pairs htab.arr)) :
    htab'.Holds fun k => if K.keyEq k key = true then some val else m k := by
  intro k v
  simp only [perm.mem_iff, List.mem_cons, Prod.mk.injEq]
  split
  · rename_i same
    constructor
    · intro mapped
      exact ⟨key, .inl ⟨rfl, (Option.some.inj mapped).symm⟩, same⟩
    · intro listed
      obtain ⟨k', ⟨-, rfl⟩ | mem, equals⟩ := listed
      · rfl
      · exact absurd (K.trans (K.symm same) equals) (absent (k', v) mem)
  · rename_i other
    rw [holds k v]
    constructor
    · intro listed
      obtain ⟨k', mem, equals⟩ := listed
      exact ⟨k', .inr mem, equals⟩
    · intro listed
      obtain ⟨k', ⟨rfl, -⟩ | mem, equals⟩ := listed
      · exact absurd equals other
      · exact ⟨k', mem, equals⟩

theorem Holds.remove {m : κ → Option ν} (holds : htab.Holds m)
    (left : ∀ p, p ∈ pairs htab'.arr ↔ p ∈ pairs htab.arr ∧ ¬K.keyEq key p.1) :
    htab'.Holds fun k => if K.keyEq k key = true then none else m k := by
  intro k v
  simp only [left]
  split
  · rename_i same
    constructor
    · intro mapped
      cases mapped
    · intro listed
      obtain ⟨k', ⟨-, apart⟩, equals⟩ := listed
      exact absurd (K.trans (K.symm same) equals) apart
  · rename_i other
    rw [holds k v]
    constructor
    · intro listed
      obtain ⟨k', mem, equals⟩ := listed
      exact ⟨k', ⟨mem, fun same => other (K.trans equals (K.symm same))⟩, equals⟩
    · intro listed
      obtain ⟨k', ⟨mem, -⟩, equals⟩ := listed
      exact ⟨k', mem, equals⟩

/-- A lookup finds the value of the key, if it has one. -/
theorem value_ok (sound : htab.Sound) {m : κ → Option ν} (holds : htab.Holds m) (key : κ) :
    htab.value key = .ok (m key) := by
  rcases findEntry_ok sound key with
    ⟨found, absent⟩ | ⟨idx, entry, k, v, found, here, live, there, same⟩
  · have none : m key = none := by
      cases mapped : m key with
      | none => rfl
      | some v =>
          obtain ⟨k, mem, equals⟩ := (holds key v).mp mapped
          exact absurd equals (absent (k, v) mem)
    rw [none]
    simp only [value, found, ok_bind]
    rfl
  · have listed := mem_pairs.mpr ⟨entry, List.mem_of_getElem? here, live, there⟩
    rw [(holds key v).mpr ⟨k, listed, same⟩]
    simp only [value, found, ok_bind, here, there, Option.bind_some, Option.map_some]
    rfl

end AssocHtOpen

end FlexRic
