import FlexRic.Library.Canonical

/-! # What the bytes have to cover

A reader that never goes on behind the end needs, at each place that it comes to, the bytes of
what is next there: so many, or as many as a number before them tells of. What a format asks
for is put together from what its parts ask for, as the reader is from the parts' readers.
-/

namespace FlexRic.Wire

variable {α β : Type}

/-- Whether the bytes cover what is at their front, when `next` tells it of what comes behind. -/
abbrev Cover := (Bytes → Bool) → Bytes → Bool

namespace Cover

/-- So many bytes. -/
def skip (k : Nat) : Cover := fun next bytes => k ≤ bytes.length && next (bytes.drop k)

/-- A number, and what it tells of. -/
def word (part : UInt32 → Cover) : Cover := fun next bytes =>
  4 ≤ bytes.length && part (UInt32.ofNat (valueOf (bytes.take 4))) next (bytes.drop 4)

/-- One part after the other. -/
def many (part : Cover) : Nat → Cover
  | 0 => id
  | n + 1 => part ∘ many part n

/-- A number, and as many parts. -/
def counted (part : Cover) : Cover := word fun n => many part n.toNat

/-- A reader stops here. -/
def refused : Cover := fun _ _ => true

/-- No bytes are enough. -/
def never : Cover := fun _ _ => false

/-- What comes behind a tag, and nothing behind a number that is none. -/
def tagged [Tag α] (part : α → Cover) : Cover := word fun v =>
  match Tag.ofCode v with
  | some a => part a
  | none => refused

/-- Where nothing is left a reader stops. -/
def left : Cover := fun next bytes => bytes.isEmpty || next bytes

end Cover

/-- None of these faults is met. -/
def Stays (bad : Fault → Prop) (outcome : Except Fault α) : Prop :=
  ∀ e, outcome = .error e → ¬bad e

/-- A read behind the end. -/
def Overrun (e : Fault) : Prop := e = .short

/-- That, or something written into a chunk that is too small for it. -/
def Astray (e : Fault) : Prop := e = .short ∨ e = .outOfChunk

section
variable {bad : Fault → Prop}

theorem Stays.ok (a : α) : Stays bad (.ok a : Except Fault α) := by
  intro e absurd
  cases absurd

theorem stays_error {e : Fault} : Stays bad (.error e : Except Fault α) ↔ ¬bad e := by
  constructor
  · intro stays
    exact stays e rfl
  · intro fine e' same
    cases same
    exact fine

/-- Whatever is read after it, the reader and what is read after it stay clear of these faults
    just where the bytes cover them. -/
def Covered (bad : Fault → Prop) (read : Reader α) (cover : Cover) : Prop :=
  ∀ (β : Type) (after : α → Reader β) (next : Bytes → Bool),
    (∀ a rest, Stays bad ((after a).run rest) ↔ next rest) →
      ∀ bytes, Stays bad ((read >>= after).run bytes) ↔ cover next bytes

theorem pure_covered (a : α) : Covered bad (pure a) id := by
  intro β after next behind bytes
  rw [pure_bind]
  exact behind a bytes

theorem Covered.bind {first : Reader α} {second : α → Reader β} {one other : Cover}
    (here : Covered bad first one) (there : ∀ a, Covered bad (second a) other) :
    Covered bad (first >>= second) (one ∘ other) := by
  intro γ after next behind bytes
  rw [bind_assoc]
  exact here γ _ _ (fun a rest => there a γ after next behind rest) bytes

/-- The last part of a record. -/
theorem Covered.last {first : Reader α} {one : Cover} (here : Covered bad first one) (f : α → β) :
    Covered bad (first >>= fun a => pure (f a)) one :=
  here.bind fun a => pure_covered (f a)

theorem throw_covered {e : Fault} (fine : ¬bad e) (second : α → Reader β) :
    Covered bad (throw e >>= second) Cover.refused := by
  intro γ after next _ bytes
  exact iff_of_true (stays_error.mpr fine) rfl

theorem bad_covered {e : Fault} (wrong : bad e) : Covered bad (throw e : Reader α) Cover.never := by
  intro β after next _ bytes
  exact iff_of_false (fun stays => stays_error.mp stays wrong) Bool.false_ne_true

theorem more_covered (fine : ¬bad .outOfChunk) : Covered bad more Cover.left := by
  intro β after next behind bytes
  rw [StateT.run_bind, Cover.left]
  cases bytes with
  | nil => exact iff_of_true (stays_error.mpr fine) rfl
  | cons b rest =>
      rw [more_run (List.cons_ne_nil b rest), ok_bind]
      exact behind () (b :: rest)

section
variable (overrun : bad .short)
include overrun

theorem Takes.covered {read : Reader α} {k : Nat} (takes : Takes read k) :
    Covered bad read (Cover.skip k) := by
  intro β after next behind bytes
  rw [StateT.run_bind, Cover.skip, Bool.and_eq_true, decide_eq_true_eq]
  by_cases enough : k ≤ bytes.length
  · obtain ⟨a, taken⟩ := takes.enough bytes enough
    rw [taken, ok_bind, and_iff_right enough]
    exact behind a (bytes.drop k)
  · rw [takes.short bytes (Nat.lt_of_not_le enough), error_bind, stays_error]
    exact iff_of_false (fun fine => fine overrun) fun both => enough both.1

theorem Covered.word {second : UInt32 → Reader β} {part : UInt32 → Cover}
    (there : ∀ v, Covered bad (second v) (part v)) :
    Covered bad (readU32 >>= second) (Cover.word part) := by
  intro γ after next behind bytes
  rw [bind_assoc, StateT.run_bind, Cover.word, Bool.and_eq_true, decide_eq_true_eq]
  by_cases begun : 4 ≤ bytes.length
  · have taken : readU32.run bytes =
        .ok (UInt32.ofNat (valueOf (bytes.take 4)), bytes.drop 4) := by
      rw [readU32, StateT.run_bind, StateT.run, readBytes, if_pos begun]
      rfl
    rw [taken, ok_bind, and_iff_right begun]
    exact there _ γ after next behind _
  · rw [readU32_takes.short bytes (Nat.lt_of_not_le begun), error_bind, stays_error]
    exact iff_of_false (fun fine => fine overrun) fun both => begun both.1

omit overrun in
theorem Covered.many {read : Reader α} {part : Cover} (each : Covered bad read part) (n : Nat) :
    Covered bad (readMany read n) (Cover.many part n) := by
  induction n with
  | zero => exact pure_covered _
  | succ n ih => exact each.bind fun a => ih.last (List.Vector.cons a)

theorem Covered.counted {read : Reader α} {part : Cover} (each : Covered bad read part) :
    Covered bad (readCounted read) (Cover.counted part) :=
  Covered.word overrun fun len => (each.many len.toNat).last (Counted.mk len)

theorem Covered.tagged [Tag α] {second : α → Reader β} {part : α → Cover}
    (unknown : ¬bad .unknownTag) (there : ∀ a, Covered bad (second a) (part a)) :
    Covered bad (readTag >>= second) (Cover.tagged part) := by
  rw [readTag, bind_assoc]
  apply Covered.word overrun
  intro v
  cases (Tag.ofCode v : Option α) with
  | none => exact throw_covered unknown second
  | some a =>
      rw [pure_bind]
      exact there a

omit overrun in
/-- A reader that leaves what it does not need. -/
theorem Covered.run_iff {read : Reader α} {cover : Cover} (covered : Covered bad read cover)
    (bytes : Bytes) : Stays bad (read.run bytes) ↔ cover (fun _ => true) bytes := by
  have alone := covered α pure (fun _ => true) (fun a rest => iff_of_true (Stays.ok (a, rest)) rfl)
    bytes
  rwa [bind_pure] at alone

omit overrun in
/-- A payload that is read as a whole. -/
theorem Covered.readAll_iff {read : Reader α} {cover : Cover} (covered : Covered bad read cover)
    (mismatch : ¬bad .mismatch) (bytes : Bytes) :
    Stays bad (readAll read bytes) ↔ cover (fun _ => true) bytes := by
  rw [← covered.run_iff bytes, readAll]
  cases taken : read.run bytes with
  | error e => rw [error_bind, stays_error, stays_error]
  | ok both =>
      rw [ok_bind]
      apply iff_of_true
      · intro e stopped
        rcases bind_eq_error.mp stopped with refused | ⟨_, -, absurd⟩
        · rw [← (check_eq_error.mp refused).2]
          exact mismatch
        · cases absurd
      · exact Stays.ok both

end

end

end FlexRic.Wire
