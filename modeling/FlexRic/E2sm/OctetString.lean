import FlexRic.Asn.Pdu

/-! # Octet strings

The service models fill octet strings with a function that takes the length as an
`int`.
-/

namespace FlexRic.E2sm

open Asn (Fault)
open Wire (Bytes)

/-- The allocation of `len` octets and one more, counted as an `int`, and the copy. -/
def allocated (str : Bytes) (len : Nat) : Except Fault Bytes := do
  check (len + 1 < 2 ^ 31) .bound
  pure (str.take len)

/-- `OCTET_STRING_fromBuf`. A length that is negative as an `int` is replaced by that up to
    the first zero, which may lie behind the end. -/
def octetStringFromBuf (str : Bytes) : Except Fault Bytes :=
  if str.length % 2 ^ 32 < 2 ^ 31 then allocated str (str.length % 2 ^ 32)
  else if 0 ∈ str then allocated str ((str.takeWhile (· ≠ 0)).length % 2 ^ 32)
  else .error .bound

/-- The length of the string and one more is an `int`. -/
def LengthFits (str : Bytes) : Prop := str.length + 1 < 2 ^ 31

instance (str : Bytes) : Decidable (LengthFits str) :=
  inferInstanceAs (Decidable (str.length + 1 < 2 ^ 31))

theorem allocated_fits {str octets : Bytes} {len : Nat} (taken : allocated str len = .ok octets) :
    LengthFits octets := by
  obtain ⟨_, short, copied⟩ := bind_eq_ok.mp taken
  have room := check_eq_ok.mp short
  obtain rfl := Except.ok.inj copied
  have atMost := List.length_take_le len str
  rw [LengthFits]
  omega

theorem octetStringFromBuf_back_iff (str : Bytes) :
    octetStringFromBuf str = .ok str ↔ LengthFits str := by
  constructor
  · intro taken
    rw [octetStringFromBuf] at taken
    split at taken
    · exact allocated_fits taken
    · split at taken
      · exact allocated_fits taken
      · cases taken
  · intro fits
    have room : str.length + 1 < 2 ^ 31 := fits
    have short : str.length < 2 ^ 31 := Nat.lt_of_succ_lt room
    have whole : str.length % 2 ^ 32 = str.length :=
      Nat.mod_eq_of_lt (Nat.lt_trans short (by decide))
    rw [octetStringFromBuf, whole, if_pos short, allocated, check_pass _ room, ok_bind,
      List.take_length]
    rfl

end FlexRic.E2sm
