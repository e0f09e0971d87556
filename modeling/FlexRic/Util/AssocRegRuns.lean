import FlexRic.Library.EntryMap
import FlexRic.Library.Machine
import FlexRic.Util.AssocRegIter

/-! # Runs of a registry

Users push values back, erase what lies between two iterators and remove what
satisfies a predicate. A registry then holds the finite map from the ids handed
out to the values still there, and only a search among `2 ^ 31` buckets or more
goes wrong.
-/

namespace FlexRic

inductive RegEvent (ν : Type) where
  | pushBack (value : ν)
  | erase (start stop : Nat)
  | removeIfRange (f : ν → Bool)

def RegEvent.isPush {ν : Type} : RegEvent ν → Bool
  | .pushBack _ => true
  | _ => false

namespace AssocReg

variable {ν : Type}

/-- Ranges go from an iterator to the same or a later one. -/
def Enabled (reg : AssocReg ν) : RegEvent ν → Prop
  | .erase start stop => reg.IsIter start ∧ reg.IsIter stop ∧ start ≤ stop
  | .pushBack _ | .removeIfRange _ => True

instance (reg : AssocReg ν) : (e : RegEvent ν) → Decidable (reg.Enabled e)
  | .erase .. => inferInstanceAs (Decidable (_ ∧ _))
  | .pushBack _ | .removeIfRange _ => .isTrue trivial

/-- An operation, with the ids that it returns. -/
def step (reg : AssocReg ν) : RegEvent ν → Checked (AssocReg ν × List UInt32)
  | .pushBack value => do
      let (key, reg) ← reg.pushBack value
      pure (reg, [key])
  | .erase start stop => do
      let reg ← reg.eraseRange start stop
      pure (reg, [])
  | .removeIfRange f => pure (reg.removeIfRangeReg f)

def machine (ν : Type) :
    Machine (AssocReg ν) (RegEvent ν) Assertion (List UInt32) where
  init := .init
  enabled := Enabled
  step := step

instance (reg : AssocReg ν) (e : RegEvent ν) : Decidable ((machine ν).enabled reg e) :=
  inferInstanceAs (Decidable (reg.Enabled e))

abbrev History (ν : Type) := List (Entry (AssocReg ν) (RegEvent ν) (List UInt32))

/-- The finite map that a history leaves. -/
def contents : History ν → UInt32 → Option ν
  | [], _ => none
  | x :: h, key =>
      match x.event with
      | .pushBack value => if key ∈ x.output then some value else contents h key
      | .erase start stop => (contents h key).filter fun _ => ¬x.before.InRange start stop key
      | .removeIfRange f => (contents h key).filter fun value => ¬f value

def pushes (h : History ν) : Nat := h.countP fun x => x.event.isPush

/-- The ids handed out, the newest first. -/
def ids (h : History ν) : List UInt32 := (h.filter fun x => x.event.isPush).flatMap (·.output)

/-- A search finds the entry of an id where there is one, and only there. -/
def Exact (reg : AssocReg ν) (m : UInt32 → Option ν) : Prop :=
  ∀ key, 0 < key →
    (m key = none → reg.findReg key = .ok none) ∧
    ∀ value, m key = some value →
      ∃ it, reg.findReg key = .ok (some it) ∧ reg.at_ it = .ok (key, value)

structure Refines (reg : AssocReg ν) (h : History ν) : Prop where
  holds : Represents reg.entries (contents h)
  size : reg.sz = reg.entries.length
  rising : reg.entries.Pairwise fun a b => a.1 < b.1
  fresh : (ids h).Pairwise fun later earlier => earlier < later
  iterates : reg.walk = .ok reg.entries
  searches : reg.Exact (contents h)
  invariants : reg.testInvariantsRegistryHold = .ok ()
  goesThrough : ∀ e, reg.Enabled e → ∃ reg' out, reg.step e = .ok (reg', out)

/-- What a history says about the registry. -/
structure Kept (reg : AssocReg ν) (h : History ν) : Prop where
  ordered : reg.Ordered
  counter : reg.keyId.toNat = pushes h + 1
  holds : Represents reg.entries (contents h)
  positive : ∀ e ∈ reg.entries, 0 < e.1
  fresh : (ids h).Pairwise fun later earlier => earlier < later
  handedOut : ∀ id ∈ ids h, id.toNat < reg.keyId.toNat

variable {reg reg' : AssocReg ν} {h : History ν}

theorem kept_init : (init : AssocReg ν).Kept [] where
  ordered := ordered_init
  counter := rfl
  holds := .nil
  positive := by simp [init, entries, valued]
  fresh := List.Pairwise.nil
  handedOut := by simp [ids]

theorem Ordered.rising (ordered : reg.Ordered) : reg.entries.Pairwise fun a b => a.1 < b.1 :=
  List.pairwise_map.mpr (ordered.sorted.filter _)

theorem Ordered.entries_below (ordered : reg.Ordered) :
    ∀ e ∈ reg.entries, e.1.toNat < reg.keyId.toNat :=
  fun _ mem => ordered.below _ (mem_entries.mp mem)

/-- A push hands out the next id, above all others. -/
theorem Kept.push (kept : reg.Kept h) {value : ν} {key : UInt32} (few : pushes h + 1 < 2 ^ 32)
    (goes : reg.pushBack value = .ok (key, reg')) :
    reg'.Kept (⟨reg, .pushBack value, [key], reg'⟩ :: h) := by
  have counter := kept.counter
  obtain ⟨key_eq, next, entries', ordered⟩ := pushBack_ok kept.ordered (by omega) goes
  have new : contents h key = none := by
    rw [kept.holds.eq_none_iff]
    intro mem
    obtain ⟨e, stored, same⟩ := List.mem_map.mp mem
    have below := kept.ordered.entries_below e stored
    rw [same] at below
    omega
  refine ⟨ordered, ?_, ?_, ?_, ?_, ?_⟩
  · rw [next, counter]
    simp [pushes, RegEvent.isPush]
  · have added := (kept.holds.cons new value).perm (List.perm_append_singleton _ _).symm
    rw [entries']
    convert added using 1
    funext k
    by_cases same : k = key <;> simp [contents, same]
  · intro e mem
    rw [entries'] at mem
    rcases List.mem_append.mp mem with old | last
    · exact kept.positive e old
    · rw [List.mem_singleton.mp last, UInt32.lt_iff_toNat_lt, key_eq, counter]
      exact Nat.succ_pos _
  · refine List.pairwise_cons.mpr ⟨fun id handed => ?_, kept.fresh⟩
    rw [UInt32.lt_iff_toNat_lt, key_eq]
    exact kept.handedOut id handed
  · intro id mem
    rw [next]
    rcases List.mem_cons.mp mem with rfl | old
    · exact key_eq ▸ Nat.lt_succ_self _
    · exact Nat.lt_succ_of_lt (kept.handedOut id old)

/-- What takes entries out and keeps the counter, as the map says. -/
theorem Kept.shed (kept : reg.Kept h) {e : RegEvent ν} {out : List UInt32}
    (quiet : e.isPush = false) (ordered : reg'.Ordered) (counter : reg'.keyId = reg.keyId)
    (sub : reg'.entries ⊆ reg.entries)
    (holds : Represents reg'.entries (contents (⟨reg, e, out, reg'⟩ :: h))) :
    reg'.Kept (⟨reg, e, out, reg'⟩ :: h) where
  ordered := ordered
  counter := by
    rw [counter, kept.counter]
    simp [pushes, quiet]
  holds := holds
  positive e mem := kept.positive e (sub mem)
  fresh := by simpa [ids, quiet] using kept.fresh
  handedOut := by simpa [ids, quiet, counter] using kept.handedOut

theorem Kept.step (kept : reg.Kept h) {e : RegEvent ν} {out : List UInt32}
    (enabled : reg.Enabled e) (goes : reg.step e = .ok (reg', out))
    (few : pushes (⟨reg, e, out, reg'⟩ :: h) < 2 ^ 32) :
    reg'.Kept (⟨reg, e, out, reg'⟩ :: h) := by
  cases e with
  | pushBack value =>
      simp only [AssocReg.step, bind_eq_ok, pure_eq_ok, Prod.mk.injEq] at goes
      obtain ⟨⟨key, _⟩, goes, rfl, rfl⟩ := goes
      exact kept.push (by simpa [pushes, RegEvent.isPush] using few) goes
  | erase start stop =>
      obtain ⟨iterStart, iterStop, le⟩ := enabled
      obtain ⟨_, erased, ordered, counter, -, entries'⟩ :=
        eraseRange_ok kept.ordered iterStart iterStop le
      simp only [AssocReg.step, erased, ok_bind, pure_eq_ok, Prod.mk.injEq] at goes
      obtain ⟨rfl, rfl⟩ := goes
      refine kept.shed rfl ordered counter (entries' ▸ List.filter_subset_self _) ?_
      rw [entries']
      exact kept.holds.filter fun key _ => ¬reg.InRange start stop key
  | removeIfRange f =>
      obtain ⟨ordered, counter, -, entries', -⟩ := removeIfRangeReg_spec kept.ordered f
      simp only [AssocReg.step, pure_eq_ok] at goes
      rw [goes] at ordered counter entries'
      refine kept.shed rfl ordered counter (entries' ▸ List.filter_subset_self _) ?_
      rw [entries']
      exact kept.holds.filter fun _ value => ¬f value

theorem pushes_le (x : Entry (AssocReg ν) (RegEvent ν) (List UInt32)) (h : History ν) :
    pushes h ≤ pushes (x :: h) :=
  (List.sublist_cons_self x h).countP_le

theorem kept_run (run : (machine ν).Run reg h) (few : pushes h < 2 ^ 32) : reg.Kept h := by
  induction run with
  | start => exact kept_init
  | next _ enabled goes ih =>
      exact (ih (Nat.lt_of_le_of_lt (pushes_le _ _) few)).step enabled goes few

theorem Kept.goesThrough (kept : reg.Kept h) (few : pushes h < 2 ^ 32) {e : RegEvent ν}
    (enabled : reg.Enabled e) : ∃ reg' out, reg.step e = .ok (reg', out) := by
  cases e with
  | pushBack value =>
      have counter := kept.counter
      have same := keyId_expand reg
      refine ⟨_, _, bind_eq_ok.mpr ⟨_, bind_eq_ok.mpr ⟨(), check_pass _ ?_, rfl⟩, rfl⟩⟩
      rw [same]
      omega
  | erase start stop =>
      obtain ⟨iterStart, iterStop, le⟩ := enabled
      obtain ⟨reg', erased, -⟩ := eraseRange_ok kept.ordered iterStart iterStop le
      exact ⟨reg', [], bind_eq_ok.mpr ⟨reg', erased, rfl⟩⟩
  | removeIfRange f => exact ⟨_, _, rfl⟩

/-- The live ids are different numbers from 1 to the last one handed out. -/
theorem Kept.size_le (kept : reg.Kept h) : reg.sz ≤ pushes h := by
  have length : reg.entries.length = reg.sz := by
    rw [entries, List.length_map, kept.ordered.length_valued]
  have nodup : (0 :: reg.entries.map fun e => e.1.toNat).Nodup := by
    refine List.nodup_cons.mpr ⟨fun mem => ?_, ?_⟩
    · obtain ⟨e, stored, zero⟩ := List.mem_map.mp mem
      have positive := UInt32.lt_iff_toNat_lt.mp (kept.positive e stored)
      exact absurd positive (zero ▸ Nat.lt_irrefl _)
    · exact List.pairwise_map.mpr (kept.ordered.rising.imp fun less =>
        Nat.ne_of_lt (UInt32.lt_iff_toNat_lt.mp less))
  have within : (0 :: reg.entries.map fun e => e.1.toNat) ⊆ List.range (pushes h + 1) := by
    intro k mem
    rw [List.mem_range, ← kept.counter]
    rcases List.mem_cons.mp mem with rfl | listed
    · rw [kept.counter]
      exact Nat.succ_pos _
    · obtain ⟨e, stored, rfl⟩ := List.mem_map.mp listed
      exact kept.ordered.entries_below e stored
  have most := (List.subperm_of_subset nodup within).length_le
  rw [List.length_cons, List.length_map, length, List.length_range] at most
  exact Nat.le_of_succ_le_succ most

theorem at_of_live {it : Nat} {key : UInt32} {value : ν}
    (there : reg.arr[it]? = some ⟨key, true, value⟩) : reg.at_ it = .ok (key, value) := by
  rw [at_, there]
  exact bind_eq_ok.mpr ⟨(), check_pass _ rfl, rfl⟩

theorem Kept.exact (kept : reg.Kept h) (short : reg.Short) : reg.Exact (contents h) := by
  intro key positive
  refine ⟨fun none => ?_, fun value some => ?_⟩
  · apply (findReg_none kept.ordered short positive).mpr
    intro e mem same
    exact kept.holds.eq_none_iff.mp none (List.mem_map.mpr ⟨e, mem, same⟩)
  · have stored := mem_entries.mp ((kept.holds.mem_iff key value).mpr some)
    obtain ⟨it, there⟩ := List.getElem?_of_mem stored
    exact ⟨it, (findReg_some kept.ordered short positive).mpr ⟨value, there⟩, at_of_live there⟩

/-- A length that an `int` takes for none. -/
theorem intLen_of_ge {sz : Nat} (large : 2 ^ 31 ≤ sz) (few : sz ≤ 2 ^ 32) : intLen sz = 0 := by
  rw [intLen, BitVec.toInt_eq_toNat_cond, BitVec.toNat_ofNat]
  split <;> omega

/-- Among too many buckets a search looks at the first one alone. -/
theorem findReg_long {key : UInt32} {it : Nat} (long : ¬reg.Short) (few : reg.arr.length ≤ 2 ^ 32)
    (found : reg.findReg key = .ok (some it)) : it = reg.front := by
  have zero : intLen (reg.arr.drop reg.front).length = 0 := by
    rw [List.length_drop]
    exact intLen_of_ge (Nat.le_of_not_lt long) (Nat.le_trans (Nat.sub_le _ _) few)
  simp only [findReg, lowerBoundReg, zero, bind_eq_ok, check_eq_ok] at found
  obtain ⟨_, -, found⟩ := found
  split at found
  · cases found
  · simp only [bind_eq_ok, check_eq_ok, pure_eq_ok] at found
    obtain ⟨lower, ⟨_, -, rfl⟩, found⟩ := found
    split at found
    · cases found
    · split at found
      · cases found
      · cases found
        cases (reg.arr.drop reg.front).length <;> rfl

/-- With that many buckets at least two ids are live, and one of them is missed. -/
theorem Kept.short (kept : reg.Kept h) (few : pushes h < 2 ^ 32)
    (exact : reg.Exact (contents h)) : reg.Short := by
  apply Decidable.by_contra
  intro long
  have counter := kept.counter
  have length := kept.ordered.length_le
  have dense := kept.ordered.dense
  have size : reg.entries.length = reg.sz := by
    rw [entries, List.length_map, kept.ordered.length_valued]
  have two : 2 ≤ reg.entries.length := by
    have many : 2 ^ 31 ≤ reg.arr.length - reg.front := Nat.le_of_not_lt long
    omega
  have first : ∀ e ∈ reg.entries, ∃ value, reg.arr[reg.front]? = some ⟨e.1, true, value⟩ := by
    intro e mem
    obtain ⟨it, found, -⟩ := (exact e.1 (kept.positive e mem)).2 e.2
      ((kept.holds.mem_iff e.1 e.2).mp mem)
    rw [← findReg_long long (by omega) found]
    exact live_of_findReg found
  obtain ⟨_, here⟩ := first _ (List.getElem_mem (by omega : 0 < reg.entries.length))
  obtain ⟨_, here'⟩ := first _ (List.getElem_mem (by omega : 1 < reg.entries.length))
  have less := List.pairwise_iff_getElem.mp kept.ordered.rising 0 1 (by omega) (by omega)
    Nat.one_pos
  have same := here.symm.trans here'
  simp only [Option.some.injEq, RegistryBucket.mk.injEq] at same
  exact UInt32.ne_of_lt less same.1

/-- A registry refines the map of its history, and everything it should, as long
    as an `int` counts the buckets from the first live one on. -/
theorem refines_iff (run : (machine ν).Run reg h) (few : pushes h < 2 ^ 32) :
    reg.Refines h ↔ reg.Short := by
  have kept := kept_run run few
  have counter := kept.counter
  have length := kept.ordered.length_le
  constructor
  · intro refines
    exact kept.short few refines.searches
  · intro short
    refine ⟨kept.holds, ?_, kept.ordered.rising, kept.fresh, reg.walk_ok, kept.exact short, ?_,
      fun e enabled => kept.goesThrough few enabled⟩
    · rw [entries, List.length_map, kept.ordered.length_valued]
    · apply testInvariantsRegistryHold_ok kept.ordered
      have size := kept.size_le
      omega

def fivePushes : List (RegEvent Nat) :=
  [.pushBack 10, .pushBack 20, .pushBack 30, .erase 1 2, .pushBack 40,
    .removeIfRange (30 < ·), .pushBack 50]

theorem refines_iff_fivePushes :
    ((machine Nat).replay fivePushes).1.Refines ((machine Nat).replay fivePushes).2 ↔
      ((machine Nat).replay fivePushes).1.Short :=
  refines_iff ((machine Nat).run_replay fivePushes) (by decide +kernel)

/-- Pushes alone leave no dead bucket behind. -/
theorem exists_pushes (n : Nat) (few : n < 2 ^ 32) :
    ∃ (reg : AssocReg Unit) (h : History Unit), (machine Unit).Run reg h ∧ pushes h = n ∧
      reg.arr.length = n ∧ ∀ b ∈ reg.arr, b.hasValue = true := by
  induction n with
  | zero => exact ⟨.init, [], .start, rfl, rfl, by simp [init]⟩
  | succ n ih =>
      obtain ⟨reg, h, run, count, length, live⟩ := ih (Nat.lt_of_succ_lt few)
      have kept := kept_run run (count ▸ Nat.lt_of_succ_lt few)
      have enabled : reg.Enabled (.pushBack ()) := trivial
      obtain ⟨reg', out, goes⟩ := kept.goesThrough (count ▸ Nat.lt_of_succ_lt few) enabled
      have same : reg.expandIfNeccesary.arr = reg.arr := by
        rw [expandIfNeccesary_eq]
        split
        · rfl
        · exact List.filter_eq_self.mpr live
      have next : (machine Unit).Run reg' (⟨reg, .pushBack (), out, reg'⟩ :: h) :=
        run.next enabled goes
      refine ⟨reg', _, next, ?_, ?_⟩
      · simp [pushes, RegEvent.isPush, ← count]
      · simp only [AssocReg.step, pushBack, bind_eq_ok, pure_eq_ok, Prod.mk.injEq] at goes
        obtain ⟨_, ⟨_, -, rfl⟩, rfl, -⟩ := goes
        rw [same]
        exact ⟨by simp [length], by simpa [or_imp, forall_and] using live⟩

/-- After `2 ^ 31` pushes the registry holds ids that a search does not find. -/
theorem search_misses : ∃ (reg : AssocReg Unit) (h : History Unit),
    (machine Unit).Run reg h ∧ pushes h = 2 ^ 31 ∧ ¬reg.Refines h := by
  obtain ⟨reg, h, run, count, length, live⟩ := exists_pushes (2 ^ 31) (by omega)
  refine ⟨reg, h, run, count, fun refines => ?_⟩
  have few : pushes h < 2 ^ 32 := by omega
  have short := (kept_run run few).short few refines.searches
  have first : reg.front = 0 := by
    rw [front]
    cases arr : reg.arr with
    | nil => rfl
    | cons b rest => simp [List.findIdx_cons, live b (by simp [arr])]
  rw [Short, first, length] at short
  exact absurd short (Nat.lt_irrefl _)

end AssocReg

end FlexRic
