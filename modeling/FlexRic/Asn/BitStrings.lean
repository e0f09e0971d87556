import FlexRic.Asn.Conversions

/-! # Identifiers survive as bit strings

Every field comes back from its bit string and every bit string from its field, the
NR cell id apart: the octet that holds its bits 24 to 31 is widened with its sign.
-/

namespace FlexRic.Asn

open Wire (Bytes)

/-- The identifiers that are sent as bit strings. -/
inductive IdField
  | amfSetId
  | amfPtr
  | nrCellId
  | gnbId
  | eutraCellId
  | macroEnbId
  | homeEnbId
  | shortMacroEnbId
  | longMacroEnbId
  | macroNgEnbId
  | shortMacroNgEnbId
  | longMacroNgEnbId
  deriving DecidableEq, Repr

namespace IdField

def Value : IdField → Type
  | amfSetId => UInt16
  | amfPtr => UInt8
  | nrCellId => UInt64
  | gnbId => GnbId
  | eutraCellId | macroEnbId | homeEnbId | shortMacroEnbId | longMacroEnbId | macroNgEnbId
  | shortMacroNgEnbId | longMacroNgEnbId => UInt32

def toBitString : (f : IdField) → f.Value → Except Fault BitString
  | amfSetId => cpAmfSetIdToBitString
  | amfPtr => cpAmfPtrToBitString
  | nrCellId => cpNrCellIdToBitString
  | gnbId => cpGnbIdToBitString
  | eutraCellId => cpEutraCellIdToBitString
  | macroEnbId => cpMacroEnbIdToBitString
  | homeEnbId => cpHomeEnbIdToBitString
  | shortMacroEnbId => cpShortMacroEnbIdToBitString
  | longMacroEnbId => cpLongMacroEnbIdToBitString
  | macroNgEnbId => cpMacroNgEnbIdToBitString
  | shortMacroNgEnbId => cpShortMacroNgEnbIdToBitString
  | longMacroNgEnbId => cpLongMacroNgEnbIdToBitString

def ofBitString : (f : IdField) → BitString → Except Fault f.Value
  | amfSetId => cpAmfSetIdToU16
  | amfPtr => cpAmfPtrToU8
  | nrCellId => cpNrCellIdToU64
  | gnbId => cpBitStringToGnbId
  | eutraCellId => cpEutraCellIdToU32
  | macroEnbId => cpMacroEnbIdToU32
  | homeEnbId => cpHomeEnbIdToU32
  | shortMacroEnbId => cpShortMacroEnbIdToU32
  | longMacroEnbId => cpLongMacroEnbIdToU32
  | macroNgEnbId => cpMacroNgEnbIdToU32
  | shortMacroNgEnbId => cpShortMacroNgEnbIdToU32
  | longMacroNgEnbId => cpLongMacroNgEnbIdToU32

/-- How many bits the field may have. -/
def Width : IdField → Nat → Prop
  | amfSetId, n => n = 10
  | amfPtr, n => n = 6
  | nrCellId, n => n = 36
  | gnbId, n => 22 ≤ n ∧ n ≤ 32
  | eutraCellId, n | homeEnbId, n => n = 28
  | macroEnbId, n | macroNgEnbId, n => n = 20
  | shortMacroEnbId, n | shortMacroNgEnbId, n => n = 18
  | longMacroEnbId, n | longMacroNgEnbId, n => n = 21

/-- The value fits its bits. A site says itself how many they are. -/
def InRange : (f : IdField) → f.Value → Prop
  | amfSetId, v => UInt16.toNat v < 2 ^ 10
  | amfPtr, v => UInt8.toNat v < 2 ^ 6
  | nrCellId, v => UInt64.toNat v < 2 ^ 36
  | gnbId, v => SiteInRange v
  | eutraCellId, v | homeEnbId, v => UInt32.toNat v < 2 ^ 28
  | macroEnbId, v | macroNgEnbId, v => UInt32.toNat v < 2 ^ 20
  | shortMacroEnbId, v | shortMacroNgEnbId, v => UInt32.toNat v < 2 ^ 18
  | longMacroEnbId, v | longMacroNgEnbId, v => UInt32.toNat v < 2 ^ 21

/-- The bits of the field, in as few octets as hold them, with zeros behind. -/
structure RightBits (f : IdField) (bits : BitString) : Prop where
  fewUnused : bits.bitsUnused < 8
  width : f.Width (8 * bits.buf.length - bits.bitsUnused)
  zeros : ∀ last ∈ bits.buf.getLast?, last.toNat % 2 ^ bits.bitsUnused = 0

/-- Bit 31 is the sign of an octet shifted by 24. -/
def SignClear : (f : IdField) → f.Value → Prop
  | nrCellId, v => UInt64.toNat v / 2 ^ 31 % 2 = 0
  | _, _ => True

/-- The bit that `SignClear` is about, where it is sent. -/
def SignClearIn : IdField → BitString → Prop
  | nrCellId, bits => ∀ octet ∈ bits.buf[3]?, octet.toNat < 128
  | _, _ => True

end IdField

/-- The bits in front of the unused ones of the last octet. -/
theorem shifted_octet {q u : Nat} (few : u < 8) (fits : q < 2 ^ (8 - u)) :
    (UInt8.ofNat (q <<< u)).toNat = q * 2 ^ u := by
  have bound : q * 2 ^ u < 2 ^ 8 := by
    calc q * 2 ^ u < 2 ^ (8 - u) * 2 ^ u := Nat.mul_lt_mul_of_pos_right fits (Nat.two_pow_pos u)
      _ = 2 ^ 8 := by rw [← Nat.pow_add, Nat.sub_add_cancel (Nat.le_of_lt few)]
  rw [Nat.shiftLeft_eq, UInt8.toNat_ofNat', Nat.mod_eq_of_lt bound]

/-- The octet a number ends in. -/
theorem octet_of_eq {n : Nat} {b : UInt8} (ends : n % 2 ^ 8 = b.toNat) : UInt8.ofNat n = b := by
  rw [← UInt8.toNat_inj, UInt8.toNat_ofNat', ends]

theorem octet_shifted_back {b : UInt8} {u : Nat} (zeros : b.toNat % 2 ^ u = 0) :
    UInt8.ofNat ((b.toNat / 2 ^ u) <<< u) = b := by
  rw [Nat.shiftLeft_eq, Nat.div_mul_cancel (Nat.dvd_of_mod_eq_zero zeros), UInt8.ofNat_toNat]

theorem octet_top {b : UInt8} {u : Nat} (few : u < 8) : b.toNat / 2 ^ u < 2 ^ (8 - u) := by
  apply Nat.div_lt_of_lt_mul
  rw [← Nat.pow_add, Nat.add_sub_cancel' (Nat.le_of_lt few)]
  exact b.toNat_lt

/-- Octets side by side. -/
theorem three_octets (b0 b1 : UInt8) (top : Nat) :
    top <<< 16 ||| b1.toNat <<< 8 ||| b0.toNat = top * 2 ^ 16 + b1.toNat * 2 ^ 8 + b0.toNat := by
  have low : b0.toNat < 2 ^ 8 := b0.toNat_lt
  have lower : b1.toNat * 2 ^ 8 + b0.toNat < 2 ^ 16 := by
    have := b1.toNat_lt
    omega
  rw [Nat.or_assoc, or_eq_add low, or_eq_add lower, Nat.add_assoc]

theorem four_octets (b0 b1 b2 : UInt8) (top : Nat) :
    top <<< 24 ||| b2.toNat <<< 16 ||| b1.toNat <<< 8 ||| b0.toNat =
      top * 2 ^ 24 + b2.toNat * 2 ^ 16 + b1.toNat * 2 ^ 8 + b0.toNat := by
  have lower : b2.toNat * 2 ^ 16 + b1.toNat * 2 ^ 8 + b0.toNat < 2 ^ 24 := by
    have := b0.toNat_lt
    have := b1.toNat_lt
    have := b2.toNat_lt
    omega
  rw [Nat.or_assoc, Nat.or_assoc, ← Nat.or_assoc (b2.toNat <<< 16), three_octets, or_eq_add lower]
  omega

/-- Octets taken apart again. -/
theorem three_apart (b0 b1 : UInt8) {top n : Nat}
    (whole : n = top * 2 ^ 16 + b1.toNat * 2 ^ 8 + b0.toNat) :
    n / 2 ^ 16 = top ∧ UInt8.ofNat (n / 2 ^ 8) = b1 ∧ UInt8.ofNat n = b0 := by
  have low := b0.toNat_lt
  have next := b1.toNat_lt
  refine ⟨by omega, octet_of_eq (by omega), octet_of_eq (by omega)⟩

theorem four_apart (b0 b1 b2 : UInt8) {top n : Nat}
    (whole : n = top * 2 ^ 24 + b2.toNat * 2 ^ 16 + b1.toNat * 2 ^ 8 + b0.toNat) :
    n / 2 ^ 24 = top ∧ UInt8.ofNat (n / 2 ^ 16) = b2 ∧ UInt8.ofNat (n / 2 ^ 8) = b1 ∧
      UInt8.ofNat n = b0 := by
  have low := b0.toNat_lt
  have next := b1.toNat_lt
  have third := b2.toNat_lt
  refine ⟨by omega, octet_of_eq (by omega), octet_of_eq (by omega), octet_of_eq (by omega)⟩

theorem three_small {top : Nat} (b0 b1 : UInt8) (small : top < 2 ^ 8) :
    top * 2 ^ 16 + b1.toNat * 2 ^ 8 + b0.toNat < 2 ^ 32 := by
  have low := b0.toNat_lt
  have next := b1.toNat_lt
  omega

theorem four_small {top : Nat} (b0 b1 b2 : UInt8) (small : top < 2 ^ 8) :
    top * 2 ^ 24 + b2.toNat * 2 ^ 16 + b1.toNat * 2 ^ 8 + b0.toNat < 2 ^ 32 := by
  have low := b0.toNat_lt
  have next := b1.toNat_lt
  have third := b2.toNat_lt
  omega

theorem five_octets (b0 b1 b2 b3 : UInt8) (top : Nat) :
    top <<< 32 ||| b3.toNat <<< 24 ||| b2.toNat <<< 16 ||| b1.toNat <<< 8 ||| b0.toNat =
      top * 2 ^ 32 + b3.toNat * 2 ^ 24 + b2.toNat * 2 ^ 16 + b1.toNat * 2 ^ 8 + b0.toNat := by
  have lower := four_small b0 b1 b2 b3.toNat_lt
  rw [Nat.or_assoc, Nat.or_assoc, Nat.or_assoc, ← Nat.or_assoc (b2.toNat <<< 16),
    ← Nat.or_assoc (b3.toNat <<< 24), ← Nat.or_assoc (b3.toNat <<< 24), four_octets,
    or_eq_add lower]
  omega

/-- A number below the bound has few enough digits left for the last octet. -/
theorem top_of_lt {v k bound room : Nat} (small : v < bound) (split : bound = room * 2 ^ k) :
    v / 2 ^ k < room := by
  apply Nat.div_lt_of_lt_mul
  rwa [Nat.mul_comm, ← split]

theorem lt_of_top {q r k bound room : Nat} (top : q < room) (rest : r < 2 ^ k)
    (split : bound = room * 2 ^ k) : q * 2 ^ k + r < bound := by
  calc q * 2 ^ k + r < q * 2 ^ k + 2 ^ k := Nat.add_lt_add_left rest _
    _ = (q + 1) * 2 ^ k := (Nat.succ_mul q _).symm
    _ ≤ room * 2 ^ k := Nat.mul_le_mul_right _ top
    _ = bound := split.symm

theorem cpFromThreeOctets_eq (unused : Nat) (b0 b1 b2 : UInt8) :
    cpFromThreeOctets unused ⟨[b0, b1, b2], unused⟩ =
      .ok (UInt32.ofNat (b2.toNat / 2 ^ unused * 2 ^ 16 + b1.toNat * 2 ^ 8 + b0.toNat)) := by
  rw [← Nat.shiftRight_eq_div_pow, ← three_octets]
  simp only [cpFromThreeOctets, check_true, ok_bind]
  rfl

theorem cpFromFourOctets_eq (unused : Nat) (b0 b1 b2 b3 : UInt8) :
    cpFromFourOctets unused ⟨[b0, b1, b2, b3], unused⟩ =
      .ok (UInt32.ofNat (b3.toNat / 2 ^ unused * 2 ^ 24 + b2.toNat * 2 ^ 16 + b1.toNat * 2 ^ 8 +
        b0.toNat)) := by
  rw [← Nat.shiftRight_eq_div_pow, ← four_octets]
  simp only [cpFromFourOctets, check_true, ok_bind]
  rfl

theorem cpToThreeOctets_eq {bound unused val : Nat} (small : val < bound) :
    cpToThreeOctets bound unused val = .ok ⟨[UInt8.ofNat val, UInt8.ofNat (val / 2 ^ 8),
      UInt8.ofNat ((val / 2 ^ 16) <<< unused)], unused⟩ := by
  rw [cpToThreeOctets, check_pass _ small, ok_bind, Nat.shiftRight_eq_div_pow,
    Nat.shiftRight_eq_div_pow]
  rfl

theorem cpToFourOctets_eq {bound unused val : Nat} (small : val < bound) :
    cpToFourOctets bound unused val = .ok ⟨[UInt8.ofNat val, UInt8.ofNat (val / 2 ^ 8),
      UInt8.ofNat (val / 2 ^ 16), UInt8.ofNat ((val / 2 ^ 24) <<< unused)], unused⟩ := by
  rw [cpToFourOctets, check_pass _ small, ok_bind, Nat.shiftRight_eq_div_pow,
    Nat.shiftRight_eq_div_pow, Nat.shiftRight_eq_div_pow]
  rfl

section Three

variable {bound unused : Nat} (few : unused < 8) (split : bound = 2 ^ (8 - unused) * 2 ^ 16)

include few split

theorem threeOctets_back {val : UInt32} (small : val.toNat < bound) :
    (cpToThreeOctets bound unused val.toNat >>= cpFromThreeOctets unused) = .ok val := by
  have top := top_of_lt small split
  rw [cpToThreeOctets_eq small, ok_bind, cpFromThreeOctets_eq, shifted_octet few top,
    Nat.mul_div_cancel _ (Nat.two_pow_pos unused), UInt8.toNat_ofNat', UInt8.toNat_ofNat']
  have whole : val.toNat / 2 ^ 16 * 2 ^ 16 + val.toNat / 2 ^ 8 % 2 ^ 8 * 2 ^ 8 + val.toNat % 2 ^ 8 =
      val.toNat := by omega
  rw [whole, UInt32.ofNat_toNat]

theorem threeOctets_bits_back {b0 b1 b2 : UInt8} (zeros : b2.toNat % 2 ^ unused = 0) :
    (cpFromThreeOctets unused ⟨[b0, b1, b2], unused⟩ >>= fun v : UInt32 =>
      cpToThreeOctets bound unused v.toNat) = .ok ⟨[b0, b1, b2], unused⟩ := by
  have top : b2.toNat / 2 ^ unused < 2 ^ (8 - unused) := octet_top few
  have octet : b2.toNat / 2 ^ unused < 2 ^ 8 := Nat.lt_of_le_of_lt (Nat.div_le_self _ _) b2.toNat_lt
  rw [cpFromThreeOctets_eq, ok_bind, UInt32.toNat_ofNat_of_lt' (three_small b0 b1 octet)]
  generalize whole : b2.toNat / 2 ^ unused * 2 ^ 16 + b1.toNat * 2 ^ 8 + b0.toNat = n
  have small : n < bound := by
    have low := b0.toNat_lt
    have next := b1.toNat_lt
    rw [← whole, Nat.add_assoc]
    exact lt_of_top top (by omega) split
  obtain ⟨third, second, first⟩ := three_apart b0 b1 whole.symm
  rw [cpToThreeOctets_eq small, first, second, third, octet_shifted_back zeros]

end Three

section Four

variable {bound unused : Nat} (few : unused < 8) (split : bound = 2 ^ (8 - unused) * 2 ^ 24)

include few split

theorem fourOctets_back {val : UInt32} (small : val.toNat < bound) :
    (cpToFourOctets bound unused val.toNat >>= cpFromFourOctets unused) = .ok val := by
  have top := top_of_lt small split
  rw [cpToFourOctets_eq small, ok_bind, cpFromFourOctets_eq, shifted_octet few top,
    Nat.mul_div_cancel _ (Nat.two_pow_pos unused), UInt8.toNat_ofNat', UInt8.toNat_ofNat',
    UInt8.toNat_ofNat']
  have whole : val.toNat / 2 ^ 24 * 2 ^ 24 + val.toNat / 2 ^ 16 % 2 ^ 8 * 2 ^ 16 +
      val.toNat / 2 ^ 8 % 2 ^ 8 * 2 ^ 8 + val.toNat % 2 ^ 8 = val.toNat := by omega
  rw [whole, UInt32.ofNat_toNat]

theorem fourOctets_bits_back {b0 b1 b2 b3 : UInt8} (zeros : b3.toNat % 2 ^ unused = 0) :
    (cpFromFourOctets unused ⟨[b0, b1, b2, b3], unused⟩ >>= fun v : UInt32 =>
      cpToFourOctets bound unused v.toNat) = .ok ⟨[b0, b1, b2, b3], unused⟩ := by
  have top : b3.toNat / 2 ^ unused < 2 ^ (8 - unused) := octet_top few
  have octet : b3.toNat / 2 ^ unused < 2 ^ 8 := Nat.lt_of_le_of_lt (Nat.div_le_self _ _) b3.toNat_lt
  rw [cpFromFourOctets_eq, ok_bind, UInt32.toNat_ofNat_of_lt' (four_small b0 b1 b2 octet)]
  generalize whole : b3.toNat / 2 ^ unused * 2 ^ 24 + b2.toNat * 2 ^ 16 + b1.toNat * 2 ^ 8 +
    b0.toNat = n
  have small : n < bound := by
    have low := b0.toNat_lt
    have next := b1.toNat_lt
    have third := b2.toNat_lt
    rw [← whole, Nat.add_assoc, Nat.add_assoc]
    exact lt_of_top top (by omega) split
  obtain ⟨fourth, third, second, first⟩ := four_apart b0 b1 b2 whole.symm
  rw [cpToFourOctets_eq small, first, second, third, fourth, octet_shifted_back zeros]

end Four

/-- A number comes back from three octets just when it is below the bound. -/
theorem threeOctets_back_iff {bound unused : Nat} (few : unused < 8)
    (split : bound = 2 ^ (8 - unused) * 2 ^ 16) (v : UInt32) :
    (cpToThreeOctets bound unused v.toNat >>= cpFromThreeOctets unused) = .ok v ↔
      v.toNat < bound := by
  constructor
  · intro back
    obtain ⟨bits, taken, -⟩ := bind_eq_ok.mp back
    obtain ⟨_, small, -⟩ := bind_eq_ok.mp taken
    exact check_eq_ok.mp small
  · exact threeOctets_back few split

theorem fourOctets_back_iff {bound unused : Nat} (few : unused < 8)
    (split : bound = 2 ^ (8 - unused) * 2 ^ 24) (v : UInt32) :
    (cpToFourOctets bound unused v.toNat >>= cpFromFourOctets unused) = .ok v ↔
      v.toNat < bound := by
  constructor
  · intro back
    obtain ⟨bits, taken, -⟩ := bind_eq_ok.mp back
    obtain ⟨_, small, -⟩ := bind_eq_ok.mp taken
    exact check_eq_ok.mp small
  · exact fourOctets_back few split

theorem cpNrCellIdToBitString_eq {val : UInt64} (small : val.toNat < 2 ^ 36) :
    cpNrCellIdToBitString val = .ok ⟨[UInt8.ofNat val.toNat, UInt8.ofNat (val.toNat / 2 ^ 8),
      UInt8.ofNat (val.toNat / 2 ^ 16), UInt8.ofNat (val.toNat / 2 ^ 24),
      UInt8.ofNat ((val.toNat / 2 ^ 32) <<< 4)], 4⟩ := by
  have bound : val.toNat < 68719476736 := small
  rw [cpNrCellIdToBitString, check_pass _ bound, ok_bind]
  simp only [Nat.shiftRight_eq_div_pow]
  rfl

theorem cpNrCellIdToU64_eq (b0 b1 b2 b3 b4 : UInt8) :
    cpNrCellIdToU64 ⟨[b0, b1, b2, b3, b4], 4⟩ =
      .ok (UInt64.ofNat ((b4.toNat / 2 ^ 4) <<< 32 ||| intToU64 (b3.toNat <<< 24) |||
        b2.toNat <<< 16 ||| b1.toNat <<< 8 ||| b0.toNat)) := by
  rw [← Nat.shiftRight_eq_div_pow]
  simp only [cpNrCellIdToU64, check_true, ok_bind]
  rfl

theorem sign_iff (b : UInt8) : b.toNat <<< 24 < 2 ^ 31 ↔ b.toNat < 128 := by
  rw [Nat.shiftLeft_eq]
  omega

theorem cpNrCellIdToU64_clear {b0 b1 b2 b3 b4 : UInt8} (clear : b3.toNat < 128) :
    cpNrCellIdToU64 ⟨[b0, b1, b2, b3, b4], 4⟩ = .ok (UInt64.ofNat (b4.toNat / 2 ^ 4 * 2 ^ 32 +
      b3.toNat * 2 ^ 24 + b2.toNat * 2 ^ 16 + b1.toNat * 2 ^ 8 + b0.toNat)) := by
  rw [cpNrCellIdToU64_eq, intToU64, if_pos ((sign_iff b3).mpr clear), five_octets]

theorem or_ones {x n : Nat} (small : x < 2 ^ n) : x ||| (2 ^ n - 1) = 2 ^ n - 1 := by
  apply Nat.eq_of_testBit_eq
  intro i
  rw [Nat.testBit_or, Nat.testBit_two_pow_sub_one]
  by_cases below : i < n
  · simp [below]
  · rw [Nat.testBit_lt_two_pow (Nat.lt_of_lt_of_le small (Nat.pow_le_pow_right (by decide)
      (Nat.le_of_not_lt below))), Bool.false_or]

/-- The sign sets all of the higher bits. -/
theorem cpNrCellIdToU64_sign_eq {b0 b1 b2 b3 b4 : UInt8} (sign : ¬b3.toNat < 128) :
    cpNrCellIdToU64 ⟨[b0, b1, b2, b3, b4], 4⟩ = .ok (UInt64.ofNat ((2 ^ 32 - 1) * 2 ^ 32 +
      b3.toNat * 2 ^ 24 + b2.toNat * 2 ^ 16 + b1.toNat * 2 ^ 8 + b0.toNat)) := by
  have fourth := b3.toNat_lt
  have short : b3.toNat <<< 24 < 2 ^ 32 := by
    rw [Nat.shiftLeft_eq]
    omega
  have widened : intToU64 (b3.toNat <<< 24) = (2 ^ 32 - 1) <<< 32 ||| b3.toNat <<< 24 := by
    have high : 2 ^ 64 - 2 ^ 32 = (2 ^ 32 - 1) * 2 ^ 32 := by decide
    rw [or_eq_add short, intToU64, if_neg (mt (sign_iff b3).mp sign), high]
  have top : b4.toNat / 2 ^ 4 < 2 ^ 32 := by
    have fifth := b4.toNat_lt
    omega
  rw [cpNrCellIdToU64_eq, widened, ← Nat.or_assoc, ← Nat.shiftLeft_or_distrib, or_ones top,
    five_octets]

/-- The sign leaves no number of 36 bits. -/
theorem cpNrCellIdToU64_sign {b0 b1 b2 b3 b4 : UInt8} (sign : ¬b3.toNat < 128) :
    ∃ v, cpNrCellIdToU64 ⟨[b0, b1, b2, b3, b4], 4⟩ = .ok v ∧ ¬v.toNat < 2 ^ 36 := by
  have first := b0.toNat_lt
  have second := b1.toNat_lt
  have third := b2.toNat_lt
  have fourth := b3.toNat_lt
  refine ⟨_, cpNrCellIdToU64_sign_eq sign, ?_⟩
  rw [UInt64.toNat_ofNat']
  omega

theorem nrCellId_back_iff {val : UInt64} (small : val.toNat < 2 ^ 36) :
    (cpNrCellIdToBitString val >>= cpNrCellIdToU64) = .ok val ↔ val.toNat / 2 ^ 31 % 2 = 0 := by
  have octet : (UInt8.ofNat (val.toNat / 2 ^ 24)).toNat < 128 ↔ val.toNat / 2 ^ 31 % 2 = 0 := by
    rw [UInt8.toNat_ofNat']
    omega
  have top : val.toNat / 2 ^ 32 < 2 ^ (8 - 4) := by omega
  rw [cpNrCellIdToBitString_eq small, ok_bind, ← octet]
  constructor
  · intro back
    by_contra sign
    obtain ⟨v, read, large⟩ := cpNrCellIdToU64_sign sign
    cases read.symm.trans back
    exact large small
  · intro clear
    rw [cpNrCellIdToU64_clear clear, shifted_octet (by decide) top,
      Nat.mul_div_cancel _ (Nat.two_pow_pos 4)]
    simp only [UInt8.toNat_ofNat']
    have whole : val.toNat / 2 ^ 32 * 2 ^ 32 + val.toNat / 2 ^ 24 % 2 ^ 8 * 2 ^ 24 +
        val.toNat / 2 ^ 16 % 2 ^ 8 * 2 ^ 16 + val.toNat / 2 ^ 8 % 2 ^ 8 * 2 ^ 8 +
        val.toNat % 2 ^ 8 = val.toNat := by omega
    rw [whole, UInt64.ofNat_toNat]

theorem five_apart (b0 b1 b2 b3 : UInt8) {top n : Nat} (whole : n = top * 2 ^ 32 +
    b3.toNat * 2 ^ 24 + b2.toNat * 2 ^ 16 + b1.toNat * 2 ^ 8 + b0.toNat) :
    n / 2 ^ 32 = top ∧ UInt8.ofNat (n / 2 ^ 24) = b3 ∧ UInt8.ofNat (n / 2 ^ 16) = b2 ∧
      UInt8.ofNat (n / 2 ^ 8) = b1 ∧ UInt8.ofNat n = b0 := by
  have low := b0.toNat_lt
  have next := b1.toNat_lt
  have third := b2.toNat_lt
  have fourth := b3.toNat_lt
  refine ⟨by omega, octet_of_eq (by omega), octet_of_eq (by omega), octet_of_eq (by omega),
    octet_of_eq (by omega)⟩

theorem nrCellId_bits_back_iff {b0 b1 b2 b3 b4 : UInt8} (zeros : b4.toNat % 2 ^ 4 = 0) :
    (cpNrCellIdToU64 ⟨[b0, b1, b2, b3, b4], 4⟩ >>= cpNrCellIdToBitString) =
      .ok ⟨[b0, b1, b2, b3, b4], 4⟩ ↔ b3.toNat < 128 := by
  constructor
  · intro back
    by_contra sign
    obtain ⟨v, read, large⟩ := cpNrCellIdToU64_sign sign
    rw [read, ok_bind] at back
    obtain ⟨_, small, -⟩ := bind_eq_ok.mp back
    exact large (check_eq_ok.mp small)
  · intro clear
    rw [cpNrCellIdToU64_clear clear, ok_bind]
    generalize whole : b4.toNat / 2 ^ 4 * 2 ^ 32 + b3.toNat * 2 ^ 24 + b2.toNat * 2 ^ 16 +
      b1.toNat * 2 ^ 8 + b0.toNat = n
    have small : n < 2 ^ 36 := by
      have low := b0.toNat_lt
      have next := b1.toNat_lt
      have third := b2.toNat_lt
      have top := b4.toNat_lt
      omega
    have word : n < 2 ^ 64 := Nat.lt_of_lt_of_le small (by decide)
    have kept := UInt64.toNat_ofNat_of_lt' word
    obtain ⟨fifth, fourth, third, second, first⟩ := five_apart b0 b1 b2 b3 whole.symm
    rw [cpNrCellIdToBitString_eq (by rwa [kept]), kept, first, second, third, fourth, fifth,
      octet_shifted_back zeros]

theorem amfSetId_back {val : UInt16} (small : val.toNat < 2 ^ 10) :
    (cpAmfSetIdToBitString val >>= cpAmfSetIdToU16) = .ok val := by
  have bound : val.toNat < 1024 := small
  have top : val.toNat / 4 < 2 ^ 8 := by omega
  have first : (UInt8.ofNat (val.toNat <<< 6 >>> 8)).toNat = val.toNat / 4 := by
    rw [Nat.shiftLeft_eq, Nat.shiftRight_eq_div_pow, UInt8.toNat_ofNat']
    omega
  have second : (UInt8.ofNat (val.toNat <<< 6)).toNat >>> 6 = val.toNat % 4 := by
    rw [Nat.shiftLeft_eq, Nat.shiftRight_eq_div_pow, UInt8.toNat_ofNat']
    omega
  have joined : (val.toNat / 4) <<< 8 >>> 6 = (val.toNat / 4) <<< 2 := by
    rw [Nat.shiftLeft_eq, Nat.shiftLeft_eq, Nat.shiftRight_eq_div_pow]
    omega
  have low : val.toNat % 4 < 2 ^ 2 := Nat.mod_lt _ (by decide)
  have whole : val.toNat / 4 * 2 ^ 2 + val.toNat % 4 = val.toNat := by omega
  rw [cpAmfSetIdToBitString, check_pass _ bound, ok_bind]
  simp only [pure, Except.pure, ok_bind, cpAmfSetIdToU16, check_true, first, second, joined,
    or_eq_add low, whole, UInt16.ofNat_toNat]

theorem amfSetId_bits_back {b0 b1 : UInt8} (zeros : b1.toNat % 2 ^ 6 = 0) :
    (cpAmfSetIdToU16 ⟨[b0, b1], 6⟩ >>= cpAmfSetIdToBitString) = .ok ⟨[b0, b1], 6⟩ := by
  have first := b0.toNat_lt
  have second := b1.toNat_lt
  have joined : b0.toNat <<< 8 >>> 6 = b0.toNat <<< 2 := by
    rw [Nat.shiftLeft_eq, Nat.shiftLeft_eq, Nat.shiftRight_eq_div_pow]
    omega
  have low : b1.toNat / 2 ^ 6 < 2 ^ 2 := by omega
  simp only [cpAmfSetIdToU16, check_true, ok_bind, pure, Except.pure, joined,
    Nat.shiftRight_eq_div_pow, or_eq_add low]
  generalize whole : b0.toNat * 2 ^ 2 + b1.toNat / 2 ^ 6 = n
  have small : n < 1024 := by omega
  have word : n < 2 ^ 16 := by omega
  have kept := UInt16.toNat_ofNat_of_lt' word
  rw [cpAmfSetIdToBitString, kept, check_pass _ small, ok_bind, pure_eq_ok, BitString.mk.injEq]
  refine ⟨?_, rfl⟩
  rw [Nat.shiftLeft_eq, Nat.shiftRight_eq_div_pow, octet_of_eq (b := b0) (by omega),
    octet_of_eq (b := b1) (by omega)]

theorem amfPtr_back {val : UInt8} (small : val.toNat < 2 ^ 6) :
    (cpAmfPtrToBitString val >>= cpAmfPtrToU8) = .ok val := by
  have bound : val.toNat < 64 := small
  have octet : (UInt8.ofNat (val.toNat <<< 2)).toNat >>> 2 = val.toNat := by
    rw [Nat.shiftLeft_eq, Nat.shiftRight_eq_div_pow, UInt8.toNat_ofNat']
    omega
  rw [cpAmfPtrToBitString, check_pass _ bound, ok_bind]
  simp only [pure, Except.pure, ok_bind, cpAmfPtrToU8, check_true, octet, UInt8.ofNat_toNat]

theorem amfPtr_bits_back {b0 : UInt8} (zeros : b0.toNat % 2 ^ 2 = 0) :
    (cpAmfPtrToU8 ⟨[b0], 2⟩ >>= cpAmfPtrToBitString) = .ok ⟨[b0], 2⟩ := by
  have octet := b0.toNat_lt
  have small : b0.toNat / 2 ^ 2 < 64 := by omega
  have word : b0.toNat / 2 ^ 2 < 2 ^ 8 := by omega
  have kept := UInt8.toNat_ofNat_of_lt' word
  simp only [cpAmfPtrToU8, check_true, ok_bind, pure, Except.pure, Nat.shiftRight_eq_div_pow]
  rw [cpAmfPtrToBitString, kept, check_pass _ small, ok_bind, octet_shifted_back zeros]
  rfl

theorem masked_octet (n : Nat) : UInt8.ofNat (0xFF &&& n) = UInt8.ofNat n := by
  rw [← UInt8.toNat_inj, Nat.and_comm, Nat.and_two_pow_sub_one_eq_mod _ 8, UInt8.toNat_ofNat',
    UInt8.toNat_ofNat', Nat.mod_mod]

theorem masked_last {n u : Nat} (few : u < 8) :
    UInt8.ofNat ((n &&& 0xFF >>> u) <<< u) = UInt8.ofNat ((n % 2 ^ (8 - u)) <<< u) := by
  rw [mask_eq few, Nat.and_two_pow_sub_one_eq_mod]

theorem inRange_toNat {n unused : Nat} (few : unused < 11) (fits : n < 2 ^ (32 - unused)) :
    (UInt32.ofNat n).toNat = n ∧ (UInt32.ofNat unused).toNat = unused := by
  have word : n < 2 ^ 32 := Nat.lt_of_lt_of_le fits (Nat.pow_le_pow_right (by decide) (by omega))
  have small : unused < 2 ^ 32 := by omega
  exact ⟨UInt32.toNat_ofNat_of_lt' word, UInt32.toNat_ofNat_of_lt' small⟩

theorem shifted_out {n unused : Nat} (fits : n < 2 ^ (32 - unused)) : n >>> (32 - unused) = 0 := by
  rw [Nat.shiftRight_eq_div_pow, Nat.div_eq_of_lt fits]

theorem cpGnbIdToBitString_three {n u : Nat} (few : u < 3) (fits : n < 2 ^ (24 - u)) :
    cpGnbIdToBitString ⟨UInt32.ofNat n, UInt32.ofNat (u + 8)⟩ =
      .ok ⟨[UInt8.ofNat (n / 2 ^ (16 - u)), UInt8.ofNat (n / 2 ^ (8 - u)),
        UInt8.ofNat ((n % 2 ^ (8 - u)) <<< u)], u⟩ := by
  have width : 24 - u = 32 - (u + 8) := by omega
  have bound : u + 8 < 11 := by omega
  have octet : u < 8 := by omega
  have many : u + 8 > 7 := by omega
  have rest : (u + 8) % 8 = u := by omega
  rw [width] at fits
  obtain ⟨keptId, keptUnused⟩ := inRange_toNat bound fits
  simp only [cpGnbIdToBitString, keptId, keptUnused, check_pass _ bound,
    check_pass _ (shifted_out fits), ok_bind, if_pos many, Nat.add_sub_cancel, masked_octet,
    masked_last octet, rest]
  simp only [Nat.shiftRight_eq_div_pow]
  rfl

theorem cpGnbIdToBitString_four {n u : Nat} (few : u < 8) (fits : n < 2 ^ (32 - u)) :
    cpGnbIdToBitString ⟨UInt32.ofNat n, UInt32.ofNat u⟩ =
      .ok ⟨[UInt8.ofNat (n / 2 ^ (24 - u)), UInt8.ofNat (n / 2 ^ (16 - u)),
        UInt8.ofNat (n / 2 ^ (8 - u)), UInt8.ofNat ((n % 2 ^ (8 - u)) <<< u)], u⟩ := by
  have bound : u < 11 := by omega
  have many : ¬u > 7 := by omega
  obtain ⟨keptId, keptUnused⟩ := inRange_toNat bound fits
  simp only [cpGnbIdToBitString, keptId, keptUnused, check_pass _ bound,
    check_pass _ (shifted_out fits), ok_bind, if_neg many, masked_octet,
    masked_last few, Nat.mod_eq_of_lt few]
  simp only [Nat.shiftRight_eq_div_pow]
  rfl

/-- The digits `low` behind those of `high`. -/
theorem behind (high : Nat) {low k : Nat} (small : low < 2 ^ k) :
    (high * 2 ^ k + low) / 2 ^ k = high ∧ (high * 2 ^ k + low) % 2 ^ k = low := by
  constructor
  · rw [Nat.add_comm, Nat.add_mul_div_right _ _ (Nat.two_pow_pos k), Nat.div_eq_of_lt small,
      Nat.zero_add]
  · rw [Nat.add_comm, Nat.add_mul_mod_self_right, Nat.mod_eq_of_lt small]

theorem joined_lt {high low m k n : Nat} (fits : high < 2 ^ m) (small : low < 2 ^ k)
    (wide : n = k + m) : high * 2 ^ k + low < 2 ^ n := by
  apply lt_of_top fits small
  rw [wide, Nat.pow_add, Nat.mul_comm]

/-- One more group of digits in front. -/
theorem in_front (high : Nat) {mid low m k : Nat} (fits : mid < 2 ^ m) (small : low < 2 ^ k) :
    high <<< (k + m) ||| (mid * 2 ^ k + low) = (high * 2 ^ m + mid) * 2 ^ k + low := by
  have rest : mid * 2 ^ k + low < 2 ^ (k + m) := joined_lt fits small rfl
  rw [or_eq_add rest, Nat.pow_add, Nat.add_mul, Nat.mul_comm (2 ^ k), Nat.mul_assoc, Nat.add_assoc]

theorem div_over (n k m : Nat) : n / 2 ^ (k + m) = n / 2 ^ k / 2 ^ m := by
  rw [Nat.pow_add, Nat.div_div_eq_div_mul]

theorem gnbId_bits_back_three {b0 b1 b2 : UInt8} {u : Nat} (few : u < 3)
    (zeros : b2.toNat % 2 ^ u = 0) :
    (cpBitStringToGnbId ⟨[b0, b1, b2], u⟩ >>= cpGnbIdToBitString) = .ok ⟨[b0, b1, b2], u⟩ := by
  have first := b0.toNat_lt
  have second := b1.toNat_lt
  have octet : u < 8 := by omega
  have pair : b0.toNat * 2 ^ 8 + b1.toNat < 2 ^ 16 := joined_lt first second rfl
  have inFirst : (b0.toNat * 2 ^ 8 + b1.toNat) / 2 ^ 8 % 2 ^ 8 = b0.toNat := by omega
  have inSecond : (b0.toNat * 2 ^ 8 + b1.toNat) % 2 ^ 8 = b1.toNat := by omega
  have last : b2.toNat / 2 ^ u < 2 ^ (8 - u) := octet_top octet
  have outer : 16 - u = 8 - u + 8 := by omega
  have width : 24 - u = 8 - u + 16 := by omega
  have read : cpBitStringToGnbId ⟨[b0, b1, b2], u⟩ = .ok ⟨UInt32.ofNat
      ((b0.toNat * 2 ^ 8 + b1.toNat) * 2 ^ (8 - u) + b2.toNat / 2 ^ u), UInt32.ofNat (u + 8)⟩ := by
    simp only [cpBitStringToGnbId, check_pass _ few, ok_bind, Nat.shiftRight_eq_div_pow]
    rw [Nat.or_assoc, or_eq_add last, outer, in_front _ second last]
    rfl
  have small := joined_lt pair last width
  obtain ⟨high, low⟩ := behind (b0.toNat * 2 ^ 8 + b1.toNat) last
  rw [read, ok_bind, cpGnbIdToBitString_three few small, outer, div_over, high, low,
    octet_shifted_back zeros, octet_of_eq inFirst, octet_of_eq inSecond]

theorem gnbId_bits_back_four {b0 b1 b2 b3 : UInt8} {u : Nat} (few : u < 8)
    (zeros : b3.toNat % 2 ^ u = 0) :
    (cpBitStringToGnbId ⟨[b0, b1, b2, b3], u⟩ >>= cpGnbIdToBitString) =
      .ok ⟨[b0, b1, b2, b3], u⟩ := by
  have first := b0.toNat_lt
  have second := b1.toNat_lt
  have third := b2.toNat_lt
  have pair : b1.toNat * 2 ^ 8 + b2.toNat < 2 ^ 16 := joined_lt second third rfl
  have triple : b0.toNat * 2 ^ 16 + (b1.toNat * 2 ^ 8 + b2.toNat) < 2 ^ 24 :=
    joined_lt first pair rfl
  have inFirst : (b0.toNat * 2 ^ 16 + (b1.toNat * 2 ^ 8 + b2.toNat)) / 2 ^ 16 % 2 ^ 8 =
    b0.toNat := by omega
  have inSecond : (b0.toNat * 2 ^ 16 + (b1.toNat * 2 ^ 8 + b2.toNat)) / 2 ^ 8 % 2 ^ 8 =
    b1.toNat := by omega
  have inThird : (b0.toNat * 2 ^ 16 + (b1.toNat * 2 ^ 8 + b2.toNat)) % 2 ^ 8 = b2.toNat := by omega
  have last : b3.toNat / 2 ^ u < 2 ^ (8 - u) := octet_top few
  have middle : 16 - u = 8 - u + 8 := by omega
  have outer : 24 - u = 8 - u + 16 := by omega
  have width : 32 - u = 8 - u + 24 := by omega
  have read : cpBitStringToGnbId ⟨[b0, b1, b2, b3], u⟩ = .ok ⟨UInt32.ofNat
      ((b0.toNat * 2 ^ 16 + (b1.toNat * 2 ^ 8 + b2.toNat)) * 2 ^ (8 - u) + b3.toNat / 2 ^ u),
      UInt32.ofNat u⟩ := by
    simp only [cpBitStringToGnbId, check_pass _ few, ok_bind, Nat.shiftRight_eq_div_pow]
    rw [Nat.or_assoc, Nat.or_assoc, or_eq_add last, middle, in_front _ third last, outer,
      in_front _ pair last]
    rfl
  have small := joined_lt triple last width
  obtain ⟨high, low⟩ := behind (b0.toNat * 2 ^ 16 + (b1.toNat * 2 ^ 8 + b2.toNat)) last
  rw [read, ok_bind, cpGnbIdToBitString_four few small, middle, outer, div_over, div_over, high,
    low, octet_shifted_back zeros, octet_of_eq inFirst, octet_of_eq inSecond, octet_of_eq inThird]

/-- A bit string of as many octets as the names given to them. -/
theorem octets_three {bits : BitString} {u : Nat} (octets : bits.buf.length = 3)
    (unused : bits.bitsUnused = u) (zeros : ∀ b ∈ bits.buf.getLast?, b.toNat % 2 ^ u = 0) :
    ∃ b0 b1 b2, bits = ⟨[b0, b1, b2], u⟩ ∧ b2.toNat % 2 ^ u = 0 := by
  cases bits
  cases unused
  obtain ⟨b0, b1, b2, rfl⟩ := List.length_eq_three.mp octets
  exact ⟨b0, b1, b2, rfl, zeros b2 rfl⟩

theorem octets_four {bits : BitString} {u : Nat} (octets : bits.buf.length = 4)
    (unused : bits.bitsUnused = u) (zeros : ∀ b ∈ bits.buf.getLast?, b.toNat % 2 ^ u = 0) :
    ∃ b0 b1 b2 b3, bits = ⟨[b0, b1, b2, b3], u⟩ ∧ b3.toNat % 2 ^ u = 0 := by
  obtain ⟨buf, _⟩ := bits
  cases unused
  cases buf with
  | nil => cases octets
  | cons b0 rest =>
      obtain ⟨b1, b2, b3, rfl⟩ := List.length_eq_three.mp (Nat.succ.inj octets)
      exact ⟨b0, b1, b2, b3, rfl, zeros b3 rfl⟩

section Fields

variable {bits : BitString} {bound unused : Nat}

theorem threeOctets_kept (few : unused < 8) (split : bound = 2 ^ (8 - unused) * 2 ^ 16)
    (fewUnused : bits.bitsUnused < 8)
    (width : 8 * bits.buf.length - bits.bitsUnused = 24 - unused)
    (zeros : ∀ last ∈ bits.buf.getLast?, last.toNat % 2 ^ bits.bitsUnused = 0) :
    (cpFromThreeOctets unused bits >>= fun v : UInt32 => cpToThreeOctets bound unused v.toNat) =
      .ok bits := by
  have octets : bits.buf.length = 3 := by omega
  have same : bits.bitsUnused = unused := by omega
  rw [same] at zeros
  obtain ⟨b0, b1, b2, rfl, last⟩ := octets_three octets same zeros
  exact threeOctets_bits_back few split last

theorem fourOctets_kept (few : unused < 8) (split : bound = 2 ^ (8 - unused) * 2 ^ 24)
    (fewUnused : bits.bitsUnused < 8)
    (width : 8 * bits.buf.length - bits.bitsUnused = 32 - unused)
    (zeros : ∀ last ∈ bits.buf.getLast?, last.toNat % 2 ^ bits.bitsUnused = 0) :
    (cpFromFourOctets unused bits >>= fun v : UInt32 => cpToFourOctets bound unused v.toNat) =
      .ok bits := by
  have octets : bits.buf.length = 4 := by omega
  have same : bits.bitsUnused = unused := by omega
  rw [same] at zeros
  obtain ⟨b0, b1, b2, b3, rfl, last⟩ := octets_four octets same zeros
  exact fourOctets_bits_back few split last

end Fields

namespace IdField

theorem value_back_iff (f : IdField) {v : f.Value} (fits : f.InRange v) :
    (f.toBitString v >>= f.ofBitString) = .ok v ↔ f.SignClear v := by
  cases f with
  | amfSetId => exact iff_of_true (amfSetId_back fits) trivial
  | amfPtr => exact iff_of_true (amfPtr_back fits) trivial
  | nrCellId => exact nrCellId_back_iff fits
  | gnbId =>
      obtain ⟨bits, taken⟩ := (gnbId_taken_iff v).mpr fits
      refine iff_of_true ?_ trivial
      exact bind_eq_ok.mpr ⟨bits, taken, gnbId_back v bits taken⟩
  | eutraCellId | homeEnbId =>
      exact iff_of_true (fourOctets_back (by decide) (by decide) fits) trivial
  | macroEnbId | shortMacroEnbId | longMacroEnbId | macroNgEnbId | shortMacroNgEnbId
  | longMacroNgEnbId =>
      exact iff_of_true (threeOctets_back (by decide) (by decide) fits) trivial

theorem bits_back_iff (f : IdField) {bits : BitString} (right : f.RightBits bits) :
    (f.ofBitString bits >>= f.toBitString) = .ok bits ↔ f.SignClearIn bits := by
  obtain ⟨fewUnused, width, zeros⟩ := right
  cases f with
  | amfSetId =>
      have width : 8 * bits.buf.length - bits.bitsUnused = 10 := width
      have octets : bits.buf.length = 2 := by omega
      have unused : bits.bitsUnused = 6 := by omega
      obtain ⟨buf, _⟩ := bits
      cases unused
      obtain ⟨b0, b1, rfl⟩ := List.length_eq_two.mp octets
      exact iff_of_true (amfSetId_bits_back (zeros b1 rfl)) trivial
  | amfPtr =>
      have width : 8 * bits.buf.length - bits.bitsUnused = 6 := width
      have octets : bits.buf.length = 1 := by omega
      have unused : bits.bitsUnused = 2 := by omega
      obtain ⟨buf, _⟩ := bits
      cases unused
      obtain ⟨b0, rfl⟩ := List.length_eq_one_iff.mp octets
      exact iff_of_true (amfPtr_bits_back (zeros b0 rfl)) trivial
  | nrCellId =>
      have width : 8 * bits.buf.length - bits.bitsUnused = 36 := width
      have octets : bits.buf.length = 5 := by omega
      have unused : bits.bitsUnused = 4 := by omega
      obtain ⟨buf, _⟩ := bits
      cases unused
      match buf, octets with
      | [b0, b1, b2, b3, b4], _ =>
          refine (nrCellId_bits_back_iff (zeros b4 rfl)).trans ?_
          simp [SignClearIn]
  | gnbId =>
      have width : 22 ≤ 8 * bits.buf.length - bits.bitsUnused ∧
        8 * bits.buf.length - bits.bitsUnused ≤ 32 := width
      refine iff_of_true ?_ trivial
      by_cases three : bits.buf.length = 3
      · obtain ⟨b0, b1, b2, same, zeros⟩ := octets_three three rfl zeros
        have few : bits.bitsUnused < 3 := by omega
        rw [same]
        exact gnbId_bits_back_three few zeros
      · have four : bits.buf.length = 4 := by omega
        obtain ⟨b0, b1, b2, b3, same, zeros⟩ := octets_four four rfl zeros
        rw [same]
        exact gnbId_bits_back_four fewUnused zeros
  | eutraCellId | homeEnbId =>
      exact iff_of_true (fourOctets_kept (by decide) (by decide) fewUnused width zeros) trivial
  | macroEnbId | shortMacroEnbId | longMacroEnbId | macroNgEnbId | shortMacroNgEnbId
  | longMacroNgEnbId =>
      exact iff_of_true (threeOctets_kept (by decide) (by decide) fewUnused width zeros) trivial

end IdField

/-- Every value in range comes back from its bit string and every right bit string from
    its value just where no sign is mixed in. -/
theorem identifiers_come_back_iff (f : IdField) :
    (∀ v, f.InRange v → ((f.toBitString v >>= f.ofBitString) = .ok v ↔ f.SignClear v)) ∧
      ∀ bits, f.RightBits bits →
        ((f.ofBitString bits >>= f.toBitString) = .ok bits ↔ f.SignClearIn bits) :=
  ⟨fun _ fits => f.value_back_iff fits, fun _ right => f.bits_back_iff right⟩

/-- A cell id without bit 31, there and back both ways. -/
theorem identifiers_come_back_cell :
    (cpNrCellIdToBitString 0xF7FFFFFFF >>= cpNrCellIdToU64) = .ok 0xF7FFFFFFF ∧
      (cpNrCellIdToU64 ⟨[1, 2, 3, 4, 0x50], 4⟩ >>= cpNrCellIdToBitString) =
        .ok ⟨[1, 2, 3, 4, 0x50], 4⟩ := by
  have shape : IdField.nrCellId.RightBits ⟨[1, 2, 3, 4, 0x50], 4⟩ :=
    ⟨by decide, rfl, fun b last => by cases last; rfl⟩
  have clear : IdField.nrCellId.SignClearIn ⟨[1, 2, 3, 4, 0x50], 4⟩ :=
    fun b octet => by cases octet; decide
  have small : (0xF7FFFFFFF : UInt64).toNat < 2 ^ 36 := by decide
  have low : (0xF7FFFFFFF : UInt64).toNat / 2 ^ 31 % 2 = 0 := by decide
  exact ⟨((identifiers_come_back_iff .nrCellId).1 (0xF7FFFFFFF : UInt64) small).mpr low,
    ((identifiers_come_back_iff .nrCellId).2 _ shape).mpr clear⟩

/-- Bit 31 of a cell id comes back as all of the higher ones. -/
theorem cell_id_sign_spreads :
    IdField.nrCellId.InRange (0x80000000 : UInt64) ∧
      (cpNrCellIdToBitString 0x80000000 >>= cpNrCellIdToU64) = .ok 0xFFFFFFFF80000000 ∧
      (cpNrCellIdToBitString 0x80000000 >>= cpNrCellIdToU64) ≠ .ok 0x80000000 := by
  have back : (cpNrCellIdToBitString 0x80000000 >>= cpNrCellIdToU64) = .ok 0xFFFFFFFF80000000 := rfl
  have small : (0x80000000 : UInt64).toNat < 2 ^ 36 := by decide
  refine ⟨small, back, ?_⟩
  rw [back]
  decide

end FlexRic.Asn
