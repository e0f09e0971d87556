import FlexRic.Library.Octets

/-! # Readers that take only what is written

A reader of a plain format is exact when whatever bytes it takes for a value are those
written for the value. A payload that an exact reader takes as a whole is then the one
payload of its value, and nothing can follow it.
-/

namespace FlexRic.Wire

open Octets (bytesOf_valueOf)

variable {α β : Type} {n : Nat}

/-- The bytes that the reader takes for a value are those written for it. -/
def Canonical (read : Reader α) (write : α → Bytes) : Prop :=
  ∀ bytes a rest, read.run bytes = .ok (a, rest) → bytes = write a ++ rest

/-- The reader takes bytes for a value just when the value fits and they were written for it. -/
def Exact (read : Reader α) (write : α → Bytes) (Fits : α → Prop) : Prop :=
  ∀ bytes a rest, read.run bytes = .ok (a, rest) ↔ Fits a ∧ bytes = write a ++ rest

theorem Inverts.exact {read : Reader α} {write : α → Bytes} {Fits : α → Prop} {e : Fault}
    (inverts : Inverts read write Fits e) (canonical : Canonical read write) :
    Exact read write Fits := by
  intro bytes a rest
  constructor
  · intro taken
    have written := canonical bytes a rest taken
    rw [written] at taken
    exact ⟨(inverts.reads_iff a rest).mp taken, written⟩
  · rintro ⟨fits, rfl⟩
    exact (inverts.reads_iff a rest).mpr fits

theorem Exact.canonical {read : Reader α} {write : α → Bytes} {Fits : α → Prop}
    (exact : Exact read write Fits) : Canonical read write :=
  fun bytes a rest taken => ((exact bytes a rest).mp taken).2

theorem run_bind_eq_ok {first : Reader α} {next : α → Reader β} {bytes rest : Bytes} {b : β} :
    (first >>= next).run bytes = .ok (b, rest) ↔
      ∃ a left, first.run bytes = .ok (a, left) ∧ (next a).run left = .ok (b, rest) := by
  rw [StateT.run_bind, bind_eq_ok, Prod.exists]

theorem run_pure_eq_ok {a b : α} {bytes rest : Bytes} :
    (pure a : Reader α).run bytes = .ok (b, rest) ↔ a = b ∧ bytes = rest := by
  rw [StateT.run_pure, pure_eq_ok, Prod.mk.injEq]

theorem more_eq_ok {bytes rest : Bytes} {u : Unit} :
    more.run bytes = .ok (u, rest) ↔ bytes ≠ [] ∧ bytes = rest := by
  by_cases empty : bytes = []
  · subst empty
    constructor
    · intro read
      cases read
    · intro both
      exact absurd rfl both.1
  · rw [more_run empty, Except.ok.injEq, Prod.mk.injEq]
    exact and_congr_left fun _ => iff_of_true rfl empty

/-- A part under a constructor. -/
theorem Canonical.under {read : Reader α} {write : α → Bytes} (canonical : Canonical read write)
    {wrap : α → β} {bytes rest : Bytes} {b : β}
    (taken : (read >>= fun a => pure (wrap a)).run bytes = .ok (b, rest)) :
    ∃ a, wrap a = b ∧ bytes = write a ++ rest := by
  simp only [run_bind_eq_ok, run_pure_eq_ok] at taken
  obtain ⟨a, _, part, rfl, rfl⟩ := taken
  exact ⟨a, rfl, canonical _ _ _ part⟩

theorem readBytes_eq_ok {k : Nat} {bytes front rest : Bytes} :
    (readBytes k).run bytes = .ok (front, rest) ↔ front.length = k ∧ bytes = front ++ rest := by
  constructor
  · intro read
    simp only [StateT.run, readBytes] at read
    split at read
    case isTrue enough =>
      obtain ⟨rfl, rfl⟩ := Prod.mk.inj (Except.ok.inj read)
      exact ⟨List.length_take_of_le enough, (List.take_append_drop k bytes).symm⟩
    case isFalse => cases read
  · rintro ⟨width, rfl⟩
    exact readBytes_run width rest

/-- A number of `k` bytes. -/
theorem bytesOf_of_valueOf {k : Nat} {front : Bytes} (width : front.length = k) :
    bytesOf k (valueOf front) = front ∧ valueOf front < 256 ^ k := by
  subst width
  have same := bytesOf_valueOf front
  refine ⟨same, ?_⟩
  have modulo := valueOf_bytesOf front.length (valueOf front)
  rw [same] at modulo
  rw [modulo]
  exact Nat.mod_lt _ (Nat.pow_pos (by decide))

theorem readU16_eq_ok {bytes rest : Bytes} {v : UInt16} :
    readU16.run bytes = .ok (v, rest) ↔ bytes = u16 v ++ rest := by
  constructor
  · intro read
    simp only [readU16, run_bind_eq_ok, readBytes_eq_ok, run_pure_eq_ok] at read
    obtain ⟨front, _, ⟨width, rfl⟩, rfl, rfl⟩ := read
    obtain ⟨same, small⟩ := bytesOf_of_valueOf width
    rw [u16, UInt16.toNat_ofNat_of_lt' small, same]
  · rintro rfl
    exact readU16_run v rest

theorem readU32_eq_ok {bytes rest : Bytes} {v : UInt32} :
    readU32.run bytes = .ok (v, rest) ↔ bytes = u32 v ++ rest := by
  constructor
  · intro read
    simp only [readU32, run_bind_eq_ok, readBytes_eq_ok, run_pure_eq_ok] at read
    obtain ⟨front, _, ⟨width, rfl⟩, rfl, rfl⟩ := read
    obtain ⟨same, small⟩ := bytesOf_of_valueOf width
    rw [u32, UInt32.toNat_ofNat_of_lt' small, same]
  · rintro rfl
    exact readU32_run v rest

theorem readI32_eq_ok {bytes rest : Bytes} {v : Int32} :
    readI32.run bytes = .ok (v, rest) ↔ bytes = i32 v ++ rest := by
  constructor
  · intro read
    simp only [readI32, run_bind_eq_ok, readU32_eq_ok, run_pure_eq_ok] at read
    obtain ⟨word, _, rfl, rfl, rfl⟩ := read
    rfl
  · rintro rfl
    exact readI32_run v rest

theorem readI64_eq_ok {bytes rest : Bytes} {v : Int64} :
    readI64.run bytes = .ok (v, rest) ↔ bytes = i64 v ++ rest := by
  constructor
  · intro read
    simp only [readI64, run_bind_eq_ok, readBytes_eq_ok, run_pure_eq_ok] at read
    obtain ⟨front, _, ⟨width, rfl⟩, rfl, rfl⟩ := read
    obtain ⟨same, small⟩ := bytesOf_of_valueOf width
    rw [i64, UInt64.toUInt64_toInt64, UInt64.toNat_ofNat_of_lt' small, same]
  · rintro rfl
    exact readI64_run v rest

theorem readU8_eq_ok {bytes rest : Bytes} {b : UInt8} :
    readU8.run bytes = .ok (b, rest) ↔ bytes = [b] ++ rest := by
  cases bytes with
  | nil =>
      constructor
      · intro read
        cases read
      · intro same
        cases same
  | cons first others =>
      rw [StateT.run, readU8, Except.ok.injEq, Prod.mk.injEq, List.singleton_append,
        List.cons.injEq]

/-- No number but its own stands for a member. -/
class ExactTag (α : Type) [Tag α] : Prop where
  code_of_ofCode : ∀ (v : UInt32) (a : α), Tag.ofCode v = some a → Tag.code a = v

theorem readTag_eq_ok [Tag α] [ExactTag α] {bytes rest : Bytes} {a : α} :
    readTag.run bytes = .ok (a, rest) ↔ bytes = tag a ++ rest := by
  constructor
  · intro read
    simp only [readTag, run_bind_eq_ok, readU32_eq_ok] at read
    obtain ⟨v, _, rfl, read⟩ := read
    cases known : (Tag.ofCode v : Option α) with
    | none =>
        rw [known] at read
        cases read
    | some member =>
        rw [known, run_pure_eq_ok] at read
        obtain ⟨rfl, rfl⟩ := read
        rw [tag, ExactTag.code_of_ofCode v member known]
  · rintro rfl
    exact readTag_run a rest

theorem Canonical.many {read : Reader α} {write : α → Bytes} (canonical : Canonical read write) :
    Canonical (readMany read n) (writeMany write) := by
  induction n with
  | zero =>
      intro bytes items rest taken
      rw [readMany, run_pure_eq_ok] at taken
      obtain ⟨rfl, rfl⟩ := taken
      rfl
  | succ n ih =>
      intro bytes items rest taken
      simp only [readMany, run_bind_eq_ok, run_pure_eq_ok] at taken
      obtain ⟨a, left, first, others, _, after, rfl, rfl⟩ := taken
      rw [canonical _ _ _ first, ih _ _ _ after, writeMany_cons, List.append_assoc]

theorem readMany_u8_canonical (n : Nat) : Canonical (readMany readU8 n) List.Vector.toList := by
  have byte : Canonical readU8 fun b => [b] := fun _ _ _ taken => readU8_eq_ok.mp taken
  intro bytes items rest taken
  rw [byte.many _ _ _ taken, writeMany, List.flatMap_singleton']

theorem Canonical.counted {read : Reader α} {write : α → Bytes} (canonical : Canonical read write) :
    Canonical (readCounted read) fun items => u32 items.len ++ writeMany write items.items := by
  intro bytes items rest taken
  simp only [readCounted, run_bind_eq_ok, run_pure_eq_ok, readU32_eq_ok] at taken
  obtain ⟨len, _, rfl, items, _, each, rfl, rfl⟩ := taken
  rw [canonical.many _ _ _ each, List.append_assoc]

theorem Canonical.readAll_eq {read : Reader α} {write : α → Bytes}
    (canonical : Canonical read write) {bytes : Bytes} {a : α}
    (accepted : readAll read bytes = .ok a) : bytes = write a := by
  rw [readAll, bind_eq_ok] at accepted
  obtain ⟨⟨b, rest⟩, taken, all⟩ := accepted
  simp only [bind_eq_ok, check_eq_ok, pure_eq_ok] at all
  obtain ⟨_, rfl, rfl⟩ := all
  rw [canonical _ _ _ taken, List.append_nil]

theorem Exact.readAll_iff {read : Reader α} {write : α → Bytes} {Fits : α → Prop}
    (exact : Exact read write Fits) (bytes : Bytes) (a : α) :
    readAll read bytes = .ok a ↔ Fits a ∧ bytes = write a := by
  constructor
  · intro accepted
    have written := exact.canonical.readAll_eq accepted
    rw [readAll, bind_eq_ok] at accepted
    obtain ⟨⟨b, rest⟩, taken, all⟩ := accepted
    simp only [bind_eq_ok, pure_eq_ok] at all
    obtain ⟨_, -, rfl⟩ := all
    exact ⟨((exact bytes b rest).mp taken).1, written⟩
  · rintro ⟨fits, rfl⟩
    exact readAll_ok ((exact _ a []).mpr ⟨fits, (List.append_nil _).symm⟩)

/-- The reader takes `k` bytes where there are as many, and reads past the end elsewhere. -/
structure Takes (read : Reader α) (k : Nat) : Prop where
  enough : ∀ bytes : Bytes, k ≤ bytes.length → ∃ a, read.run bytes = .ok (a, bytes.drop k)
  short : ∀ bytes : Bytes, bytes.length < k → read.run bytes = .error .short

theorem readBytes_takes (k : Nat) : Takes (readBytes k) k where
  enough bytes enough := ⟨bytes.take k, if_pos enough⟩
  short _ few := if_neg (Nat.not_le.mpr few)

theorem pure_takes (a : α) : Takes (pure a) 0 where
  enough _ _ := ⟨a, rfl⟩
  short _ few := absurd few (Nat.not_lt_zero _)

theorem Takes.bind {first : Reader α} {next : α → Reader β} {j k : Nat} (one : Takes first j)
    (other : ∀ a, Takes (next a) k) : Takes (first >>= next) (j + k) where
  enough bytes enough := by
    obtain ⟨a, read⟩ := one.enough bytes (by omega)
    obtain ⟨b, rest⟩ := (other a).enough (bytes.drop j) (by rw [List.length_drop]; omega)
    refine ⟨b, ?_⟩
    rw [StateT.run_bind, read, ok_bind, rest, List.drop_drop]
  short bytes few := by
    rw [StateT.run_bind]
    by_cases begun : j ≤ bytes.length
    · obtain ⟨a, read⟩ := one.enough bytes begun
      rw [read, ok_bind]
      apply (other a).short
      rw [List.length_drop]
      omega
    · rw [one.short bytes (Nat.not_le.mp begun), error_bind]

theorem readU32_takes : Takes readU32 4 := (readBytes_takes 4).bind fun _ => pure_takes _

theorem readU16_takes : Takes readU16 2 := (readBytes_takes 2).bind fun _ => pure_takes _

theorem readI32_takes : Takes readI32 4 := readU32_takes.bind fun _ => pure_takes _

theorem readI64_takes : Takes readI64 8 := (readBytes_takes 8).bind fun _ => pure_takes _

theorem readU8_takes : Takes readU8 1 where
  enough bytes enough := by
    cases bytes with
    | nil => exact absurd enough (Nat.not_succ_le_zero 0)
    | cons b rest => exact ⟨b, rfl⟩
  short bytes few := by
    rw [List.length_eq_zero_iff.mp (Nat.lt_one_iff.mp few)]
    rfl

theorem Takes.many {read : Reader α} {k : Nat} (takes : Takes read k) (n : Nat) :
    Takes (readMany read n) (k * n) := by
  induction n with
  | zero => exact pure_takes _
  | succ n ih =>
      rw [Nat.mul_succ, Nat.add_comm (k * n) k]
      exact takes.bind fun a => ih.bind fun items => pure_takes _

theorem readMany_u8_takes (n : Nat) : Takes (readMany readU8 n) n := by
  have bytes := readU8_takes.many n
  rwa [Nat.one_mul] at bytes

end FlexRic.Wire
