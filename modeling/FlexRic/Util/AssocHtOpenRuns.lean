import FlexRic.Library.Machine
import FlexRic.Util.AssocHtOpenOps

/-! # Runs of an open-addressing hash table

Users insert keys that are absent, remove and look up keys. The table is a
finite map, and there is a clean slot for every search to end at, until the
doubles of its counters leave their 32 bits.
-/

namespace FlexRic

namespace AssocHtOpen

variable {κ ν : Type} {K : KeyFuncs κ} {htab htab' : AssocHtOpen K ν}

inductive HtEvent (κ ν : Type) where
  | insert (key : κ) (value : ν)
  | remove (key : κ)
  | lookup (key : κ)

/-- Only keys that are absent are inserted. -/
def Enabled (htab : AssocHtOpen K ν) : HtEvent κ ν → Prop
  | .insert key _ => ∀ p ∈ pairs htab.arr, ¬K.keyEq key p.1
  | .remove _ | .lookup _ => True

instance (htab : AssocHtOpen K ν) : (e : HtEvent κ ν) → Decidable (htab.Enabled e)
  | .insert .. => inferInstanceAs (Decidable (∀ _ ∈ _, _))
  | .remove _ | .lookup _ => .isTrue trivial

/-- An operation, with the value that a lookup returns. -/
def step (htab : AssocHtOpen K ν) : HtEvent κ ν → Result (AssocHtOpen K ν × Option ν)
  | .insert key value => do
      let htab ← htab.insert key value
      pure (htab, none)
  | .remove key => do
      let htab ← htab.removeValueHtab key
      pure (htab, none)
  | .lookup key => do
      let found ← htab.value key
      pure (htab, found)

def machine (K : KeyFuncs κ) (ν : Type) :
    Machine (AssocHtOpen K ν) (HtEvent κ ν) AssocHtOpenFailure (Option ν) where
  init := .init
  enabled := Enabled
  step := step

instance (htab : AssocHtOpen K ν) (e : HtEvent κ ν) : Decidable ((machine K ν).enabled htab e) :=
  inferInstanceAs (Decidable (htab.Enabled e))

/-- The map that a history leaves. -/
def contents : List (Entry (AssocHtOpen K ν) (HtEvent κ ν) (Option ν)) → κ → Option ν
  | [], _ => none
  | x :: h, k =>
      match x.event with
      | .insert key value => if K.keyEq k key = true then some value else contents h k
      | .remove key => if K.keyEq k key = true then none else contents h k
      | .lookup _ => contents h k

/-- An operation that changes the table needs its doubles to fit. -/
def Fits (htab : AssocHtOpen K ν) : HtEvent κ ν → Prop
  | .insert .. | .remove _ => htab.DoublesFit
  | .lookup _ => True

instance (htab : AssocHtOpen K ν) : (e : HtEvent κ ν) → Decidable (htab.Fits e)
  | .insert .. | .remove _ => inferInstanceAs (Decidable htab.DoublesFit)
  | .lookup _ => .isTrue trivial

/-- Growing and shrinking keeps all pairs. -/
def Resizes (htab : AssocHtOpen K ν) : Prop :=
  ∃ htab', htab.expandOrShrinkIfNeccesary = .ok htab' ∧ (pairs htab'.arr).Perm (pairs htab.arr)

/-- An operation goes through; a lookup finds what the map has, and the others
    resize the table first. -/
def Served (htab : AssocHtOpen K ν) (m : κ → Option ν) : HtEvent κ ν → Prop
  | .lookup key => htab.step (.lookup key) = .ok (htab, m key)
  | e => htab.Resizes ∧ ∃ htab' out, htab.step e = .ok (htab', out)

/-- What is true of a table after every run. -/
structure Refines (htab : AssocHtOpen K ν) (m : κ → Option ν) : Prop where
  holds : htab.Holds m
  once : (pairs htab.arr).Pairwise fun a b => ¬K.keyEq a.1 b.1
  size : htab.sz.toNat = (pairs htab.arr).length
  free : ∃ entry ∈ htab.arr, entry.isDirty = false
  found : ∀ key, htab.value key = .ok (m key)

variable {e : HtEvent κ ν} {h : List (Entry (AssocHtOpen K ν) (HtEvent κ ν) (Option ν))}

/-- A table without slots stops every search. -/
theorem search_capless {htab : AssocHtOpen K ν} (capless : htab.cap = 0) (key : κ)
    (hash : UInt32) (idx : Nat) : htab.search key hash ≠ .ok idx := by
  intro goes
  obtain ⟨_, checked, -⟩ := bind_eq_ok.mp goes
  exact check_eq_ok.mp checked capless

/-- What goes through had doubles that fit. -/
theorem Fits.of_step (sound : htab.Sound) {out : Option ν}
    (goes : htab.step e = .ok (htab', out)) : htab.Fits e := by
  cases e with
  | lookup key => trivial
  | insert key value =>
      apply Decidable.by_contra
      intro wraps
      simp only [AssocHtOpen.step, insert, bind_eq_ok] at goes
      obtain ⟨_, ⟨new, expanded, idx, found, -⟩, -⟩ := goes
      exact search_capless (expand_wraps sound wraps expanded) _ _ _ found
  | remove key =>
      apply Decidable.by_contra
      intro wraps
      simp only [AssocHtOpen.step, removeValueHtab, findEntry, bind_eq_ok] at goes
      obtain ⟨_, ⟨new, expanded, _, ⟨idx, found, -⟩, -⟩, -⟩ := goes
      exact search_capless (expand_wraps sound wraps expanded) _ _ _ found

/-- What an operation does whose doubles fit. -/
theorem Sound.step (sound : htab.Sound) (holds : htab.Holds (contents h))
    (enabled : htab.Enabled e) (fits : htab.Fits e) :
    htab.Served (contents h) e ∧ ∃ htab' out, htab.step e = .ok (htab', out) ∧ htab'.Sound ∧
      htab'.Holds (contents (⟨htab, e, out, htab'⟩ :: h)) := by
  cases e with
  | lookup key =>
      have goes : htab.step (.lookup key) = .ok (htab, contents h key) :=
        bind_eq_ok.mpr ⟨_, value_ok sound holds key, rfl⟩
      exact ⟨goes, htab, _, goes, sound, holds⟩
  | insert key value =>
      obtain ⟨grown, expanded, settled, kept, -⟩ := expand_ok sound fits
      obtain ⟨new, inserted, sound', perm, -⟩ := insert_ok settled expanded
        (fun p mem => enabled p (kept.mem_iff.mp mem)) value
      have holds' := holds.insert enabled (perm.trans (kept.cons _))
      have goes : htab.step (.insert key value) = .ok (new, none) :=
        bind_eq_ok.mpr ⟨new, inserted, rfl⟩
      exact ⟨⟨⟨grown, expanded, kept⟩, new, none, goes⟩, new, none, goes, sound', holds'⟩
  | remove key =>
      obtain ⟨grown, expanded, settled, kept, -⟩ := expand_ok sound fits
      obtain ⟨new, removed, sound', left⟩ := removeValueHtab_ok settled expanded key
      have holds' := holds.remove fun p => (left p).trans (and_congr_left' kept.mem_iff)
      have goes : htab.step (.remove key) = .ok (new, none) :=
        bind_eq_ok.mpr ⟨new, removed, rfl⟩
      exact ⟨⟨⟨grown, expanded, kept⟩, new, none, goes⟩, new, none, goes, sound', holds'⟩

/-- What every run keeps. -/
structure Kept (htab : AssocHtOpen K ν)
    (h : List (Entry (AssocHtOpen K ν) (HtEvent κ ν) (Option ν))) : Prop where
  sound : htab.Sound
  holds : htab.Holds (contents h)

theorem kept_run (run : (machine K ν).Run htab h) : htab.Kept h := by
  induction run with
  | start => exact ⟨sound_init, fun key v => by simp [contents, machine, init, pairs, clean]⟩
  | next _ enabled goes ih =>
      obtain ⟨-, htab', out, goes', sound, holds⟩ :=
        ih.sound.step ih.holds enabled (.of_step ih.sound goes)
      cases goes'.symm.trans goes
      exact ⟨sound, holds⟩

/-- After every run the table is the map of its history, with a slot for every
    search to end at; and the next operation goes through as it should just when the
    doubles of the counters fit. -/
theorem refines_map (run : (machine K ν).Run htab h) :
    htab.Refines (contents h) ∧
      ∀ e, htab.Enabled e → (htab.Served (contents h) e ↔ htab.Fits e) := by
  have kept := kept_run run
  refine ⟨⟨kept.holds, kept.sound.probed.distinct, kept.sound.size, kept.sound.free,
    value_ok kept.sound kept.holds⟩, fun e enabled => ⟨fun served => ?_, fun fits => ?_⟩⟩
  · cases e with
    | lookup key => trivial
    | insert key value =>
        obtain ⟨-, htab', out, goes⟩ := served
        exact .of_step kept.sound goes
    | remove key =>
        obtain ⟨-, htab', out, goes⟩ := served
        exact .of_step kept.sound goes
  · exact (kept.sound.step kept.holds enabled fits).1

/-- Numbers that collide whenever they agree modulo three. -/
def numberKeys : KeyFuncs Nat where
  keyEq a b := a == b
  hashFunc a := (a % 3).toUInt32
  refl := by simp
  symm := by simp
  trans := by simp
  consistent := by simp

def grownAndThinned : List (HtEvent Nat String) :=
  (List.range 12).map (fun i => .insert i "x") ++
    [.remove 3, .remove 6, .insert 30 "y", .remove 3, .lookup 30, .lookup 3]

theorem refines_map_grownAndThinned :
    let reached := (machine numberKeys String).replay grownAndThinned
    reached.1.Refines (contents reached.2) ∧
      ∀ e, reached.1.Enabled e → (reached.1.Served (contents reached.2) e ↔ reached.1.Fits e) :=
  refines_map ((machine numberKeys String).run_replay grownAndThinned)

/-- Words that hash to themselves. -/
def wordKeys : KeyFuncs UInt32 where
  keyEq a b := a == b
  hashFunc a := a
  refl := by simp
  symm := by simp
  trans := by simp
  consistent := by simp

/-- Inserting the words in turn fills the table without leaving dirty slots behind. -/
theorem exists_inserts (n : Nat) (few : n ≤ 2 ^ 30) :
    ∃ (htab : AssocHtOpen wordKeys Unit) (h : _), (machine wordKeys Unit).Run htab h ∧
      h.length = n ∧ htab.numDirty.toNat ≤ n ∧ (pairs htab.arr).length = n ∧
      ∀ p ∈ pairs htab.arr, p.1.toNat < n := by
  induction n with
  | zero => exact ⟨.init, [], .start, rfl, Nat.le_refl 0, rfl, nofun⟩
  | succ n ih =>
      obtain ⟨htab, h, run, count, dirties, length, below⟩ := ih (Nat.le_of_succ_le few)
      have kept := kept_run run
      have word : n.toUInt32.toNat = n := Nat.mod_eq_of_lt (show n < 2 ^ 32 by omega)
      have enabled : htab.Enabled (.insert n.toUInt32 ()) := by
        intro p mem same
        have less := below p mem
        rw [← eq_of_beq same, word] at less
        exact Nat.lt_irrefl n less
      have fits : htab.DoublesFit := .inr ⟨by omega, by rw [kept.sound.size]; omega⟩
      obtain ⟨grown, expanded, settled, perm, tidier⟩ := expand_ok kept.sound fits
      obtain ⟨new, inserted, sound', perm', next⟩ := insert_ok settled expanded
        (fun p mem => enabled p (perm.mem_iff.mp mem)) ()
      have goes : htab.step (.insert n.toUInt32 ()) = .ok (new, none) :=
        bind_eq_ok.mpr ⟨new, inserted, rfl⟩
      have run' : (machine wordKeys Unit).Run new
          (⟨htab, .insert n.toUInt32 (), none, new⟩ :: h) := run.next enabled goes
      have all := perm'.trans (perm.cons _)
      refine ⟨new, _, run', by rw [List.length_cons, count], by omega, ?_, ?_⟩
      · rw [all.length_eq, List.length_cons, length]
      · intro p mem
        rcases List.mem_cons.mp (all.mem_iff.mp mem) with rfl | old
        · exact Nat.lt_succ_of_le (Nat.le_of_eq word)
        · exact Nat.lt_succ_of_lt (below p old)

/-- A table of `2 ^ 30` pairs takes no other one. -/
theorem insert_stops : ∃ (htab : AssocHtOpen wordKeys Unit) (h : _) (e : HtEvent UInt32 Unit),
    (machine wordKeys Unit).Run htab h ∧ h.length = 2 ^ 30 ∧ htab.Enabled e ∧
      ¬htab.Served (contents h) e := by
  obtain ⟨htab, h, run, count, dirties, length, below⟩ := exists_inserts (2 ^ 30) (Nat.le_refl _)
  have sound := (kept_run run).sound
  have size := sound.size
  have few := sound.size_le
  have load := sound.load
  have large := sound.large
  refine ⟨htab, h, .insert (2 ^ 30) (), run, count, ?_, fun served => ?_⟩
  · intro p mem same
    have less := below p mem
    rw [← eq_of_beq same] at less
    exact absurd less (by decide)
  · obtain ⟨-, htab', out, goes⟩ := served
    have fits : htab.DoublesFit := Fits.of_step sound goes
    simp only [DoublesFit] at fits
    omega

end AssocHtOpen

end FlexRic
