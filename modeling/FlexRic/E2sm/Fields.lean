import FlexRic.Asn.Pdu
import FlexRic.Library.Translation

/-! # Fields of service models

Integers are widened to a `long` and narrowed again, enumerations go by their numbers,
and some parts are left to a codec of their own.
-/

namespace FlexRic.E2sm

open Asn (Fault)

/-- Two bytes into a `long` that is zero. -/
def longOf16 (x : UInt16) : Int64 := x.toUInt64.toInt64

/-- The lowest two bytes of a `long`. -/
def low16 (x : Int64) : UInt16 := x.toUInt64.toUInt16

/-- Four bytes into a `long` that is zero. -/
def longOf32 (x : UInt32) : Int64 := x.toUInt64.toInt64

/-- The lowest four bytes of a `long`. -/
def low32 (x : Int64) : UInt32 := x.toUInt64.toUInt32

@[simp] theorem low16_longOf16 (x : UInt16) : low16 (longOf16 x) = x := by
  simp [low16, longOf16]

@[simp] theorem low32_longOf32 (x : UInt32) : low32 (longOf32 x) = x := by
  simp [low32, longOf32]

@[simp] theorem low32_toUInt64 (x : UInt32) : x.toUInt64.toUInt32 = x := by simp

theorem toInt_longOf16 (x : UInt16) : (longOf16 x).toInt = x.toNat := by
  have small : x.toNat < 2 ^ 16 := x.toNat_lt
  have word : x.toUInt64.toBitVec.toNat = x.toNat := UInt16.toNat_toUInt64 x
  change x.toUInt64.toBitVec.toInt = x.toNat
  rw [BitVec.toInt_eq_toNat_of_lt (by omega), word]

/-- Two bytes are a positive `long` just when they are positive. -/
@[simp] theorem longOf16_pos (x : UInt16) : 0 < longOf16 x ↔ 0 < x := by
  rw [Int64.lt_iff_toInt_lt, toInt_longOf16, UInt16.lt_iff_toNat_lt]
  exact Int.natCast_pos

@[simp] theorem longOf16_lt (x : UInt16) : longOf16 x < 65536 := by
  have small : x.toNat < 2 ^ 16 := x.toNat_lt
  rw [Int64.lt_iff_toInt_lt, toInt_longOf16]
  exact Int.ofNat_lt.mpr small

/-- Four bytes are a positive `unsigned long` just when they are positive. -/
@[simp] theorem toUInt64_pos (x : UInt32) : 0 < x.toUInt64 ↔ 0 < x := by
  rw [UInt64.lt_iff_toNat_lt, UInt32.toNat_toUInt64, UInt32.lt_iff_toNat_lt]
  rfl

@[simp] theorem toUInt64_lt (x : UInt32) : x.toUInt64 < 4294967296 := by
  rw [UInt64.lt_iff_toNat_lt, UInt32.toNat_toUInt64]
  exact x.toNat_lt

/-- A chain of comparisons, which takes a number for the first item that has it. -/
def fromNumber {α : Type} (number : α → Int64) (items : List α) (n : Int64) : Except Fault α :=
  match items.find? (number · = n) with
  | some a => .ok a
  | none => .error .notImplemented

/-- A part of which nothing matters but whether it is there. -/
inductive Unread where
  | there
  deriving DecidableEq

/-- An encoder and a decoder that are given. -/
structure SharedCodec (α Asn : Type) where
  enc : α → Except Fault Asn
  dec : Asn → Except Fault α

namespace SharedCodec

variable {α Asn : Type} (codec : SharedCodec α Asn)

/-- The decoder inverts the encoder. -/
def Inverse : Prop := ∀ a asn, codec.enc a = .ok asn → codec.dec asn = .ok a

/-- What comes back through the codec. -/
def Keeps (Kept : α → Prop) : Prop := ∀ a, (codec.enc a >>= codec.dec) = .ok a ↔ Kept a

/-- The value comes back. -/
def Returns (a : α) : Prop := (codec.enc a >>= codec.dec) = .ok a

/-- The encoder takes the value. -/
def Taken (a : α) : Prop := ∃ asn, codec.enc a = .ok asn

variable {codec}

/-- What is taken comes back, then. -/
theorem Inverse.keeps (inverse : codec.Inverse) : codec.Keeps codec.Taken := by
  intro a
  rw [bind_eq_ok]
  exact exists_congr fun asn => and_iff_left_of_imp (inverse a asn)

theorem keeps_returns : codec.Keeps codec.Returns :=
  fun _ => Iff.rfl

variable {Kept : α → Prop}

theorem Keeps.exists_iff (keeps : codec.Keeps Kept) (a : α) :
    (∃ asn, codec.enc a = .ok asn ∧ codec.dec asn = .ok a) ↔ Kept a := by
  rw [← keeps a, bind_eq_ok]

theorem Keeps.returns_eq (keeps : codec.Keeps Kept) : codec.Returns = Kept :=
  funext fun a => propext (keeps a)

end SharedCodec

end FlexRic.E2sm
