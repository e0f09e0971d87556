import FlexRic.Asn.Messages
import Mathlib.Algebra.Group.Nat.Defs
import Mathlib.Data.Nat.Bitwise

/-! # Identities of nodes

Networks are named by decimal digits, two to an octet, sites by bit strings of 20
bits or of 22 to 32. What is written of an id is not all of it: a CU is written
like a gNB that is not split.
-/

namespace FlexRic.Asn

open Wire (Bytes)
open GlobalE2NodeIds (NodeId)

/-- Two digits in an octet, the first one low. -/
def octet (second first : Nat) : UInt8 := UInt8.ofNat (second <<< 4 ||| first)

/-- The hundreds of a network code; a code of two digits has 15 there. -/
def mncHundreds (mnc : Nat) (mncDigitLen : UInt8) : Nat := if mncDigitLen = 2 then 15 else mnc / 100

/-- `MCC_MNC_TO_PLMNID`. -/
def mccMncToPlmnid (plmn : Plmn) : Bytes :=
  let mcc := plmn.mcc.toNat
  let mnc := plmn.mnc.toNat
  [octet (mcc / 10 % 10) (mcc / 100), octet (mncHundreds mnc plmn.mncDigitLen) (mcc % 10),
   octet (mnc % 10) (mnc / 10 % 10)]

def low (b : UInt8) : Nat := b.toNat &&& 0x0F

def high (b : UInt8) : Nat := b.toNat >>> 4 &&& 0x0F

/-- `PLMNID_TO_MCC_MNC`. -/
def plmnidToMccMnc : Bytes → Except Fault Plmn
  | b0 :: b1 :: b2 :: _ =>
      let mcc := low b0 * 100 + high b0 * 10 + low b1
      let len := if high b1 = 0x0F then 2 else 3
      let mnc := (if len = 2 then 0 else high b1 * 100) + low b2 * 10 + high b2
      .ok ⟨UInt16.ofNat mcc, UInt16.ofNat mnc, UInt8.ofNat len⟩
  | _ => .error .missing

/-- The digits fit: those of every network do. -/
structure PlmnFits (plmn : Plmn) : Prop where
  mcc : plmn.mcc.toNat < 1600
  mnc : plmn.mncDigitLen = 2 ∧ plmn.mnc.toNat < 100 ∨ plmn.mncDigitLen = 3 ∧ plmn.mnc.toNat < 1500

instance (plmn : Plmn) : Decidable (PlmnFits plmn) :=
  decidable_of_iff (plmn.mcc.toNat < 1600 ∧
    (plmn.mncDigitLen = 2 ∧ plmn.mnc.toNat < 100 ∨ plmn.mncDigitLen = 3 ∧ plmn.mnc.toNat < 1500))
    ⟨fun h => ⟨h.1, h.2⟩, fun h => ⟨h.mcc, h.mnc⟩⟩

theorem or_eq_add {a b i : Nat} (small : b < 2 ^ i) : a <<< i ||| b = a * 2 ^ i + b := by
  rw [← Nat.shiftLeft_add_eq_or_of_lt small, Nat.shiftLeft_eq]

theorem low_eq (b : UInt8) : low b = b.toNat % 16 := Nat.and_two_pow_sub_one_eq_mod b.toNat 4

theorem high_eq (b : UInt8) : high b = b.toNat / 16 := by
  have small := b.toNat_lt
  rw [high, Nat.and_two_pow_sub_one_eq_mod _ 4, Nat.shiftRight_eq_div_pow]
  omega

@[simp] theorem low_octet (second first : Nat) : low (octet second first) = first % 16 := by
  have kept : (second <<< 4 ||| first) % 2 ^ 4 = first % 2 ^ 4 := by
    rw [Nat.or_mod_two_pow, Nat.shiftLeft_eq, Nat.mul_mod_left, Nat.zero_or]
  rw [low_eq, octet, UInt8.toNat_ofNat', Nat.mod_mod_of_dvd _ (by decide)]
  exact kept

theorem high_octet {second first : Nat} (digit : first < 16) :
    high (octet second first) = second % 16 := by
  rw [high_eq, octet, UInt8.toNat_ofNat', or_eq_add (show first < 2 ^ 4 from digit)]
  omega

theorem high_lt (b : UInt8) : high b < 16 := by
  have small := b.toNat_lt
  rw [high_eq]
  omega

theorem plmn_ext_iff {mcc mnc len : Nat} {plmn : Plmn} (mccSmall : mcc < 65536)
    (mncSmall : mnc < 65536) (lenSmall : len < 256) :
    Plmn.mk (UInt16.ofNat mcc) (UInt16.ofNat mnc) (UInt8.ofNat len) = plmn ↔
      mcc = plmn.mcc.toNat ∧ mnc = plmn.mnc.toNat ∧ len = plmn.mncDigitLen.toNat := by
  cases plmn
  rw [Plmn.mk.injEq, ← UInt16.toNat_inj, ← UInt16.toNat_inj, ← UInt8.toNat_inj,
    UInt16.toNat_ofNat', UInt16.toNat_ofNat', UInt8.toNat_ofNat', Nat.mod_eq_of_lt mccSmall,
    Nat.mod_eq_of_lt mncSmall, Nat.mod_eq_of_lt lenSmall]

/-- The country code comes back when its hundreds are one digit. -/
theorem mcc_back_iff {mcc : Nat} (small : mcc < 65536) :
    mcc / 100 % 16 * 100 + high (octet (mcc / 10 % 10) (mcc / 100)) * 10 + mcc % 10 = mcc ↔
      mcc < 1600 := by
  have bound := high_lt (octet (mcc / 10 % 10) (mcc / 100))
  constructor
  · intro back
    omega
  · intro fits
    have digit : mcc / 100 < 16 := by omega
    rw [high_octet digit]
    omega

theorem plmnid_back_iff (plmn : Plmn) :
    plmnidToMccMnc (mccMncToPlmnid plmn) = .ok plmn ↔ PlmnFits plmn := by
  have mccSmall := plmn.mcc.toNat_lt
  have mncSmall := plmn.mnc.toNat_lt
  have bound := high_lt (octet (plmn.mcc.toNat / 10 % 10) (plmn.mcc.toNat / 100))
  have digit : ∀ n : Nat, n % 10 % 16 = n % 10 := fun n => by omega
  have second : ∀ n d : Nat, high (octet d (n % 10)) = d % 16 := fun n d => high_octet (by omega)
  simp only [plmnidToMccMnc, mccMncToPlmnid, Except.ok.injEq, low_octet, digit, second]
  rw [plmn_ext_iff (by omega) (by split <;> split <;> omega) (by split <;> omega),
    mcc_back_iff mccSmall]
  constructor
  · rintro ⟨mcc, mnc, len⟩
    refine ⟨mcc, ?_⟩
    by_cases two : plmn.mncDigitLen = 2
    · simp only [mncHundreds, if_pos two] at mnc
      left
      refine ⟨two, ?_⟩
      simp at mnc
      omega
    · right
      have three : plmn.mncDigitLen.toNat = 3 := by
        rw [← UInt8.toNat_inj] at two
        split at len
        · exact absurd len.symm two
        · exact len.symm
      have hundreds : plmn.mnc.toNat / 100 % 16 ≠ 15 := by
        intro all
        simp [mncHundreds, two, all, three] at len
      simp only [mncHundreds, if_neg two, if_neg hundreds] at mnc
      refine ⟨UInt8.toNat_inj.mp three, ?_⟩
      simp at mnc
      omega
  · intro fits
    refine ⟨fits.mcc, ?_⟩
    rcases fits.mnc with ⟨len, small⟩ | ⟨len, small⟩
    · simp [mncHundreds, len]
      omega
    · have : plmn.mnc.toNat / 100 % 16 ≠ 15 := by omega
      simp [mncHundreds, len, this]
      omega

theorem low_lt (b : UInt8) : low b < 16 := by
  rw [low_eq]
  exact Nat.mod_lt _ (by decide)

/-- What is read of three octets is bounded by their digits. -/
theorem mcc_of_read {bytes : Bytes} {plmn : Plmn} (read : plmnidToMccMnc bytes = .ok plmn) :
    plmn.mcc.toNat < 1666 := by
  unfold plmnidToMccMnc at read
  split at read
  · rename_i b0 b1 b2 rest
    cases read
    have first := low_lt b0
    have second := high_lt b0
    have third := low_lt b1
    exact Nat.lt_of_le_of_lt (Nat.mod_le _ _) (by omega)
  · cases read

/-- After another trip the digits fit. -/
theorem plmn_fits_again {plmn again : Plmn} (small : plmn.mcc.toNat < 1666)
    (read : plmnidToMccMnc (mccMncToPlmnid plmn) = .ok again) : PlmnFits again := by
  have bound := high_lt (octet (plmn.mcc.toNat / 10 % 10) (plmn.mcc.toNat / 100))
  have digit : ∀ n : Nat, n % 10 % 16 = n % 10 := fun n => by omega
  have second : ∀ n d : Nat, high (octet d (n % 10)) = d % 16 := fun n d => high_octet (by omega)
  have mccSmall : plmn.mcc.toNat < 65536 := by omega
  have mccBack := (mcc_back_iff mccSmall).mpr
  simp only [plmnidToMccMnc, mccMncToPlmnid, Except.ok.injEq, low_octet, digit, second] at read
  subst read
  have tens : plmn.mnc.toNat / 10 % 10 * 10 + plmn.mnc.toNat % 10 < 100 := by omega
  constructor
  · rw [UInt16.toNat_ofNat']
    by_cases fits : plmn.mcc.toNat < 1600
    · rw [mccBack fits]
      exact Nat.lt_of_le_of_lt (Nat.mod_le _ _) fits
    · have hundreds : plmn.mcc.toNat / 100 = 16 := by omega
      rw [hundreds] at bound ⊢
      exact Nat.lt_of_le_of_lt (Nat.mod_le _ _) (by omega)
  · rw [UInt16.toNat_ofNat']
    by_cases two : mncHundreds plmn.mnc.toNat plmn.mncDigitLen % 16 = 15
    · left
      simp only [two, if_true]
      exact ⟨rfl, Nat.lt_of_le_of_lt (Nat.mod_le _ _) (by omega)⟩
    · right
      simp only [two, if_false]
      refine ⟨rfl, Nat.lt_of_le_of_lt (Nat.mod_le _ _) ?_⟩
      simp only [show ¬3 = 2 by decide, if_false]
      omega

/-- A network that was read survives two more trips just where its digits fit. -/
theorem plmnid_twice_iff {bytes : Bytes} {plmn again back : Plmn}
    (read : plmnidToMccMnc bytes = .ok plmn)
    (first : plmnidToMccMnc (mccMncToPlmnid plmn) = .ok again)
    (second : plmnidToMccMnc (mccMncToPlmnid again) = .ok back) : back = plmn ↔ PlmnFits plmn := by
  have fits := (plmnid_back_iff again).mpr (plmn_fits_again (mcc_of_read read) first)
  cases second.symm.trans fits
  rw [← plmnid_back_iff, first, Except.ok.injEq]

/-- `cp_gnb_id_to_bit_string`. -/
def cpGnbIdToBitString (src : GnbId) : Except Fault BitString := do
  let nbId := src.nbId.toNat
  let unused := src.unused.toNat
  check (unused < 11) .bound
  check (nbId >>> (32 - unused) = 0) .bound
  if unused > 7 then
    let unused := unused - 8
    pure ⟨[UInt8.ofNat (0xFF &&& nbId >>> (16 - unused)),
      UInt8.ofNat (0xFF &&& nbId >>> (8 - unused)),
      UInt8.ofNat ((nbId &&& 0xFF >>> unused) <<< unused)], src.unused.toNat % 8⟩
  else
    pure ⟨[UInt8.ofNat (0xFF &&& nbId >>> (24 - unused)),
      UInt8.ofNat (0xFF &&& nbId >>> (16 - unused)),
      UInt8.ofNat (0xFF &&& nbId >>> (8 - unused)),
      UInt8.ofNat ((nbId &&& 0xFF >>> unused) <<< unused)], src.unused.toNat % 8⟩

/-- `cp_bit_string_to_gnb_id`. -/
def cpBitStringToGnbId (src : BitString) : Except Fault GnbId :=
  let unused := src.bitsUnused
  match src.buf with
  | [b0, b1, b2] => do
      check (unused < 3) .bound
      let nbId := b0.toNat <<< (16 - unused) ||| b1.toNat <<< (8 - unused) ||| b2.toNat >>> unused
      pure ⟨UInt32.ofNat nbId, UInt32.ofNat (unused + 8)⟩
  | [b0, b1, b2, b3] => do
      check (unused < 8) .bound
      let nbId := b0.toNat <<< (24 - unused) ||| b1.toNat <<< (16 - unused) |||
        b2.toNat <<< (8 - unused) ||| b3.toNat >>> unused
      pure ⟨UInt32.ofNat nbId, UInt32.ofNat unused⟩
  | _ => .error .bound

/-- The digits of `n` in front of the lowest `i` bits, put back in front of them. -/
theorem join (n i k : Nat) : (n / 2 ^ i % 2 ^ k) <<< i ||| n % 2 ^ i = n % 2 ^ (i + k) := by
  rw [or_eq_add (Nat.mod_lt _ (Nat.two_pow_pos i)), Nat.pow_add, Nat.mod_mul, Nat.add_comm,
    Nat.mul_comm]

theorem octet_of_mask (n i : Nat) :
    (UInt8.ofNat (0xFF &&& n >>> i)).toNat = n / 2 ^ i % 2 ^ 8 := by
  rw [UInt8.toNat_ofNat', Nat.and_comm, Nat.and_two_pow_sub_one_eq_mod _ 8,
    Nat.shiftRight_eq_div_pow, Nat.mod_mod]

theorem mask_eq {u : Nat} (small : u < 8) : 0xFF >>> u = 2 ^ (8 - u) - 1 := by
  revert u
  decide

/-- The last octet holds the lowest bits, in front of the unused ones. -/
theorem last_octet {n u : Nat} (small : u < 8) :
    (UInt8.ofNat ((n &&& 0xFF >>> u) <<< u)).toNat >>> u = n % 2 ^ (8 - u) := by
  have pow : 2 ^ (8 - u) * 2 ^ u = 256 := by
    rw [← Nat.pow_add, Nat.sub_add_cancel (Nat.le_of_lt small)]
  have bound : n % 2 ^ (8 - u) * 2 ^ u < 256 := by
    rw [← pow]
    exact Nat.mul_lt_mul_of_pos_right (Nat.mod_lt _ (Nat.two_pow_pos _)) (Nat.two_pow_pos u)
  rw [mask_eq small, Nat.and_two_pow_sub_one_eq_mod, Nat.shiftLeft_eq, UInt8.toNat_ofNat',
    Nat.mod_eq_of_lt bound, Nat.shiftRight_eq_div_pow, Nat.mul_div_cancel _ (Nat.two_pow_pos u)]

theorem join_three (n : Nat) {u : Nat} (small : u < 8) :
    (n / 2 ^ (16 - u) % 2 ^ 8) <<< (16 - u) ||| (n / 2 ^ (8 - u) % 2 ^ 8) <<< (8 - u) |||
      n % 2 ^ (8 - u) = n % 2 ^ (24 - u) := by
  have inner : 8 - u + 8 = 16 - u := by omega
  have outer : 16 - u + 8 = 24 - u := by omega
  rw [Nat.or_assoc, join, inner, join, outer]

theorem join_four (n : Nat) {u : Nat} (small : u < 8) :
    (n / 2 ^ (24 - u) % 2 ^ 8) <<< (24 - u) ||| (n / 2 ^ (16 - u) % 2 ^ 8) <<< (16 - u) |||
      (n / 2 ^ (8 - u) % 2 ^ 8) <<< (8 - u) ||| n % 2 ^ (8 - u) = n % 2 ^ (32 - u) := by
  have outer : 24 - u + 8 = 32 - u := by omega
  rw [Nat.or_assoc, Nat.or_assoc, ← Nat.or_assoc ((n / 2 ^ (16 - u) % 2 ^ 8) <<< (16 - u)),
    join_three n small, join, outer]

/-- The number of a site of 22 to 32 bits. -/
def SiteInRange (id : GnbId) : Prop :=
  id.unused.toNat < 11 ∧ id.nbId.toNat < 2 ^ (32 - id.unused.toNat)

theorem gnbId_taken_iff (id : GnbId) :
    (∃ bits, cpGnbIdToBitString id = .ok bits) ↔ SiteInRange id := by
  have zero : ∀ k : Nat, id.nbId.toNat >>> k = 0 ↔ id.nbId.toNat < 2 ^ k := by
    intro k
    rw [Nat.shiftRight_eq_div_pow, Nat.div_eq_zero_iff_lt (Nat.two_pow_pos k)]
  simp only [cpGnbIdToBitString, bind_eq_ok, check_eq_ok, SiteInRange, zero]
  constructor
  · rintro ⟨_, _, small, _, fits, _⟩
    exact ⟨small, fits⟩
  · rintro ⟨small, fits⟩
    split
    · exact ⟨_, (), small, (), fits, rfl⟩
    · exact ⟨_, (), small, (), fits, rfl⟩

/-- Sites come back as they were. -/
theorem gnbId_back (id : GnbId) : Returns cpGnbIdToBitString cpBitStringToGnbId id id := by
  intro bits taken
  obtain ⟨small, fits⟩ := (gnbId_taken_iff id).mp ⟨bits, taken⟩
  simp only [cpGnbIdToBitString, bind_eq_ok, check_eq_ok] at taken
  obtain ⟨_, -, _, -, taken⟩ := taken
  split at taken
  · rename_i short
    simp only [pure_eq_ok] at taken
    subst taken
    have rest : id.unused.toNat % 8 = id.unused.toNat - 8 := by omega
    have width : 24 - (id.unused.toNat - 8) = 32 - id.unused.toNat := by omega
    have few : id.unused.toNat - 8 < 3 := by omega
    have octets : id.unused.toNat - 8 < 8 := by omega
    have unused : id.unused.toNat - 8 + 8 = id.unused.toNat := by omega
    simp only [cpBitStringToGnbId, rest, check_pass _ few, octet_of_mask, last_octet octets,
      join_three _ octets, width, Nat.mod_eq_of_lt fits, unused, UInt32.ofNat_toNat]
    rfl
  · rename_i long
    simp only [pure_eq_ok] at taken
    subst taken
    have octets : id.unused.toNat < 8 := by omega
    simp only [cpBitStringToGnbId, Nat.mod_eq_of_lt octets, check_pass _ octets, octet_of_mask,
      last_octet octets, join_four _ octets, Nat.mod_eq_of_lt fits, UInt32.ofNat_toNat]
    rfl

theorem shiftLeft_lt (b : UInt8) {i n : Nat} (fits : i + 8 ≤ n) : b.toNat <<< i < 2 ^ n := by
  have octet : b.toNat < 2 ^ 8 := b.toNat_lt
  rw [Nat.shiftLeft_eq]
  calc b.toNat * 2 ^ i < 2 ^ 8 * 2 ^ i := Nat.mul_lt_mul_of_pos_right octet (Nat.two_pow_pos i)
    _ = 2 ^ (i + 8) := by rw [← Nat.pow_add, Nat.add_comm]
    _ ≤ 2 ^ n := Nat.pow_le_pow_right (by decide) fits

theorem shiftRight_lt (b : UInt8) {i n : Nat} (fits : 8 ≤ n) : b.toNat >>> i < 2 ^ n := by
  have octet : b.toNat < 2 ^ 8 := b.toNat_lt
  calc b.toNat >>> i ≤ b.toNat := Nat.shiftRight_le _ _
    _ < 2 ^ 8 := octet
    _ ≤ 2 ^ n := Nat.pow_le_pow_right (by decide) fits

theorem siteInRange_of_lt {nbId unused : Nat} (small : unused < 11)
    (fits : nbId < 2 ^ (32 - unused)) : SiteInRange ⟨UInt32.ofNat nbId, UInt32.ofNat unused⟩ := by
  have word : nbId < 2 ^ 32 := Nat.lt_of_lt_of_le fits (Nat.pow_le_pow_right (by decide) (by omega))
  have kept : (UInt32.ofNat nbId).toNat = nbId := UInt32.toNat_ofNat_of_lt' word
  have keptUnused : (UInt32.ofNat unused).toNat = unused :=
    UInt32.toNat_ofNat_of_lt' (show unused < 2 ^ 32 by omega)
  exact ⟨by rwa [keptUnused], by rwa [kept, keptUnused]⟩

/-- What is read from a bit string can be written again. -/
theorem gnbId_inRange {bits : BitString} {id : GnbId} (read : cpBitStringToGnbId bits = .ok id) :
    SiteInRange id := by
  unfold cpBitStringToGnbId at read
  split at read
  · obtain ⟨_, small, done⟩ := bind_eq_ok.mp read
    cases pure_eq_ok.mp done
    have few := check_eq_ok.mp small
    have width : 32 - (bits.bitsUnused + 8) = 24 - bits.bitsUnused := by omega
    apply siteInRange_of_lt (by omega)
    rw [width]
    apply Nat.or_lt_two_pow
    · exact Nat.or_lt_two_pow (shiftLeft_lt _ (by omega)) (shiftLeft_lt _ (by omega))
    · exact shiftRight_lt _ (by omega)
  · obtain ⟨_, small, done⟩ := bind_eq_ok.mp read
    cases pure_eq_ok.mp done
    have few := check_eq_ok.mp small
    apply siteInRange_of_lt (by omega)
    apply Nat.or_lt_two_pow
    · apply Nat.or_lt_two_pow
      · exact Nat.or_lt_two_pow (shiftLeft_lt _ (by omega)) (shiftLeft_lt _ (by omega))
      · exact shiftLeft_lt _ (by omega)
    · exact shiftRight_lt _ (by omega)
  · cases read

/-- `MACRO_ENB_ID_TO_BIT_STRING`. The lowest 20 bits are sent. -/
def macroEnbIdToBitString (v : UInt32) : BitString :=
  ⟨[UInt8.ofNat (v.toNat >>> 12), UInt8.ofNat (v.toNat >>> 4),
    UInt8.ofNat ((v.toNat &&& 0x0F) <<< 4)], 4⟩

/-- `BIT_STRING_TO_MACRO_ENB_ID`. -/
def bitStringToMacroEnbId (src : BitString) : Except Fault UInt32 := do
  check (src.bitsUnused = 4) .bound
  match src.buf with
  | b0 :: b1 :: b2 :: _ =>
      pure (UInt32.ofNat (b0.toNat <<< 12 ||| b1.toNat <<< 4 ||| b2.toNat >>> 4))
  | _ => throw .missing

/-- The 20 bits of an id that are sent. -/
def sentBits (v : UInt32) : UInt32 := UInt32.ofNat (v.toNat % 2 ^ 20)

theorem macroEnbId_back (v : UInt32) :
    bitStringToMacroEnbId (macroEnbIdToBitString v) = .ok (sentBits v) := by
  have first : (UInt8.ofNat (v.toNat >>> 12)).toNat = v.toNat / 2 ^ 12 % 2 ^ 8 := by
    rw [UInt8.toNat_ofNat', Nat.shiftRight_eq_div_pow]
  have second : (UInt8.ofNat (v.toNat >>> 4)).toNat = v.toNat / 2 ^ 4 % 2 ^ 8 := by
    rw [UInt8.toNat_ofNat', Nat.shiftRight_eq_div_pow]
  have last : (UInt8.ofNat ((v.toNat &&& 0x0F) <<< 4)).toNat >>> 4 = v.toNat % 2 ^ 4 := by
    have mask : 0x0F = 0xFF >>> 4 := by decide
    have small : 4 < 8 := by decide
    rw [mask, last_octet small]
  simp only [bitStringToMacroEnbId, macroEnbIdToBitString, first, second, last, Nat.or_assoc, join]
  rfl

theorem sentBits_toNat (v : UInt32) : (sentBits v).toNat = v.toNat % 2 ^ 20 :=
  UInt32.toNat_ofNat_of_lt' (show v.toNat % 2 ^ 20 < 2 ^ 32 by omega)

theorem sentBits_of_lt {v : UInt32} (small : v.toNat < 2 ^ 20) : sentBits v = v := by
  rw [sentBits, Nat.mod_eq_of_lt small, UInt32.ofNat_toNat]

theorem macroEnbId_lt {bits : BitString} {v : UInt32} (read : bitStringToMacroEnbId bits = .ok v) :
    v.toNat < 2 ^ 20 := by
  obtain ⟨_, -, done⟩ := bind_eq_ok.mp read
  split at done
  · cases pure_eq_ok.mp done
    have joined : ∀ b0 b1 b2 : UInt8,
        b0.toNat <<< 12 ||| b1.toNat <<< 4 ||| b2.toNat >>> 4 < 2 ^ 20 := by
      intro b0 b1 b2
      apply Nat.or_lt_two_pow
      · exact Nat.or_lt_two_pow (shiftLeft_lt _ (by decide)) (shiftLeft_lt _ (by decide))
      · exact shiftRight_lt _ (by decide)
    refine Nat.lt_of_le_of_lt (Nat.mod_le _ _) (joined _ _ _)
  · cases done

/-- `asn_INTEGER2ulong`, into memory that is zero before: a number that is too large
    leaves it so. -/
def asnInteger2ulong (n : Nat) : UInt64 := if n < 2 ^ 64 then UInt64.ofNat n else 0

@[simp] theorem asnInteger2ulong_toNat (v : UInt64) : asnInteger2ulong v.toNat = v := by
  rw [asnInteger2ulong, if_pos v.toNat_lt, UInt64.ofNat_toNat]

/-- The id of the unit, for a node of the given type. -/
def encUnitId (id : NodeId) (type : NgranNode) : Except Fault (Option Nat) :=
  if id.type = type then
    match id.cuDuId with
    | some v => .ok (some v.toNat)
    | none => .error .null
  else .ok none

/-- The id of a node as all encoders write it. CU and CUCP do not have a flag. -/
def encGlobalE2nodeId (id : NodeId) : Except Fault GlobalE2nodeIdChoice :=
  if id.type ≠ .eNB then do
    let gnbCuUpId ← encUnitId id .gNBCUUP
    let gnbDuId ← encUnitId id .gNBDU
    let gnbId ← cpGnbIdToBitString id.nbId
    pure (.gNB ⟨mccMncToPlmnid id.plmn, gnbId, gnbCuUpId, gnbDuId⟩)
  else
    .ok (.eNB ⟨mccMncToPlmnid id.plmn, .macroEnbId (macroEnbIdToBitString id.nbId.nbId)⟩)

/-- The type of a gNB and the id of its unit. -/
def decUnit (gnb : GlobalE2nodeGnbId) : NgranNode × Option UInt64 :=
  match gnb.gnbCuUpId, gnb.gnbDuId with
  | some up, _ => (.gNBCUUP, some (asnInteger2ulong up))
  | none, some du => (.gNBDU, some (asnInteger2ulong du))
  | none, none => (.gNB, none)

/-- The id of a node as all decoders read it. -/
def decGlobalE2nodeId : GlobalE2nodeIdChoice → Except Fault NodeId
  | .gNB gnb => do
      let plmn ← plmnidToMccMnc gnb.plmnId
      let nbId ← cpBitStringToGnbId gnb.gnbId
      pure ⟨(decUnit gnb).1, plmn, nbId, (decUnit gnb).2⟩
  | .eNB ⟨plmnIdentity, .macroEnbId enbId⟩ => do
      let plmn ← plmnidToMccMnc plmnIdentity
      let nbId ← bitStringToMacroEnbId enbId
      pure ⟨.eNB, plmn, ⟨nbId, 0⟩, none⟩
  | _ => .error .present

/-- The types that an id still has after it was sent. -/
def heardType : NgranNode → NgranNode
  | .eNB => .eNB
  | .gNBCUUP => .gNBCUUP
  | .gNBDU => .gNBDU
  | _ => .gNB

/-- What comes back of an id: CUs and whole gNBs look the same. -/
def heard (id : NodeId) : NodeId where
  type := heardType id.type
  plmn := id.plmn
  nbId := if id.type = .eNB then ⟨sentBits id.nbId.nbId, 0⟩ else id.nbId
  cuDuId := if id.type = .gNBCUUP ∨ id.type = .gNBDU then id.cuDuId else none

/-- There is an id of the unit where the encoders read one. -/
def HasUnit (id : NodeId) : Prop := id.type = .gNBCUUP ∨ id.type = .gNBDU → id.cuDuId.isSome

theorem encUnitId_eq_ok {id : NodeId} {type : NgranNode} {unit : Option Nat} :
    encUnitId id type = .ok unit ↔
      if id.type = type then ∃ v, id.cuDuId = some v ∧ unit = some v.toNat else unit = none := by
  unfold encUnitId
  split
  · cases id.cuDuId with
    | none => simp
    | some v => simp [eq_comm]
  · simp [eq_comm]

theorem encUnitId_completes_iff {id : NodeId} {type : NgranNode} :
    (∃ unit, encUnitId id type = .ok unit) ↔ (id.type = type → id.cuDuId.isSome) := by
  simp only [encUnitId_eq_ok]
  by_cases same : id.type = type
  · simp [same, Option.isSome_iff_exists]
  · simp [same]

theorem encGlobalE2nodeId_completes_iff (id : NodeId) :
    (∃ choice, encGlobalE2nodeId id = .ok choice) ↔
      (id.type ≠ .eNB → HasUnit id ∧ SiteInRange id.nbId) := by
  unfold encGlobalE2nodeId
  split
  · rename_i split
    constructor
    · intro encoded _
      obtain ⟨choice, encoded⟩ := encoded
      obtain ⟨up, encodedUp, encoded⟩ := bind_eq_ok.mp encoded
      obtain ⟨du, encodedDu, encoded⟩ := bind_eq_ok.mp encoded
      obtain ⟨bits, taken, -⟩ := bind_eq_ok.mp encoded
      refine ⟨?_, (gnbId_taken_iff _).mp ⟨bits, taken⟩⟩
      rintro (cuup | isDu)
      · exact encUnitId_completes_iff.mp ⟨up, encodedUp⟩ cuup
      · exact encUnitId_completes_iff.mp ⟨du, encodedDu⟩ isDu
    · intro fine
      obtain ⟨unit, site⟩ := fine split
      obtain ⟨up, encodedUp⟩ := encUnitId_completes_iff.mpr fun cuup => unit (.inl cuup)
      obtain ⟨du, encodedDu⟩ := encUnitId_completes_iff.mpr fun isDu => unit (.inr isDu)
      obtain ⟨bits, taken⟩ := (gnbId_taken_iff _).mpr site
      exact ⟨_, by rw [encodedUp, ok_bind, encodedDu, ok_bind, taken, ok_bind]; rfl⟩
  · rename_i whole
    exact ⟨fun _ split => absurd split whole, fun _ => ⟨_, rfl⟩⟩

theorem decUnit_back {id : NodeId} {plmnId : Bytes} {bits : BitString} {up du : Option Nat}
    (gnb : id.type ≠ .eNB) (encodedUp : encUnitId id .gNBCUUP = .ok up)
    (encodedDu : encUnitId id .gNBDU = .ok du) :
    decUnit ⟨plmnId, bits, up, du⟩ = ((heard id).type, (heard id).cuDuId) := by
  rw [encUnitId_eq_ok] at encodedUp encodedDu
  by_cases cuup : id.type = .gNBCUUP
  · have notDu : id.type ≠ .gNBDU := by simp [cuup]
    rw [if_pos cuup] at encodedUp
    obtain ⟨v, here, rfl⟩ := encodedUp
    simp [decUnit, heard, heardType, cuup, here]
  · rw [if_neg cuup] at encodedUp
    by_cases isDu : id.type = .gNBDU
    · rw [if_pos isDu] at encodedDu
      obtain ⟨v, here, rfl⟩ := encodedDu
      simp [encodedUp, decUnit, heard, heardType, isDu, here]
    · rw [if_neg isDu] at encodedDu
      have whole : heardType id.type = .gNB := by
        cases type : id.type <;> simp_all [heardType]
      simp [encodedUp, encodedDu, decUnit, heard, whole, cuup, isDu]

/-- The id comes back without what is not sent, under the network that is read back. -/
theorem nodeId_back {id : NodeId} {plmn : Plmn}
    (network : plmnidToMccMnc (mccMncToPlmnid id.plmn) = .ok plmn) :
    Returns encGlobalE2nodeId decGlobalE2nodeId id { heard id with plmn := plmn } := by
  intro choice encoded
  unfold encGlobalE2nodeId at encoded
  split at encoded
  · rename_i gnb
    obtain ⟨up, encodedUp, encoded⟩ := bind_eq_ok.mp encoded
    obtain ⟨du, encodedDu, encoded⟩ := bind_eq_ok.mp encoded
    obtain ⟨bits, taken, done⟩ := bind_eq_ok.mp encoded
    cases pure_eq_ok.mp done
    have site : (heard id).nbId = id.nbId := if_neg gnb
    simp only [decGlobalE2nodeId, network, ok_bind, gnbId_back id.nbId bits taken,
      decUnit_back gnb encodedUp encodedDu, site]
    rfl
  · rename_i enb
    cases encoded
    have type : id.type = .eNB := not_not.mp enb
    simp only [decGlobalE2nodeId, network, ok_bind, macroEnbId_back]
    simp [heard, heardType, type, pure, Except.pure]

/-- Whatever the network, there is something to read back. -/
theorem plmnid_reads (plmn : Plmn) : ∃ back, plmnidToMccMnc (mccMncToPlmnid plmn) = .ok back :=
  ⟨_, rfl⟩

/-- An id that was heard loses nothing more, and can be sent on. -/
theorem heard_of_dec {choice : GlobalE2nodeIdChoice} {id : NodeId}
    (decoded : decGlobalE2nodeId choice = .ok id) :
    heard id = id ∧ HasUnit id ∧ (id.type ≠ .eNB → SiteInRange id.nbId) := by
  unfold decGlobalE2nodeId at decoded
  split at decoded
  · rename_i gnb
    obtain ⟨plmn, -, decoded⟩ := bind_eq_ok.mp decoded
    obtain ⟨nbId, read, done⟩ := bind_eq_ok.mp decoded
    cases pure_eq_ok.mp done
    have site := gnbId_inRange read
    unfold decUnit
    split
    · simp [heard, heardType, HasUnit, site]
    · simp [heard, heardType, HasUnit, site]
    · simp [heard, heardType, HasUnit, site]
  · obtain ⟨plmn, -, decoded⟩ := bind_eq_ok.mp decoded
    obtain ⟨nbId, read, done⟩ := bind_eq_ok.mp decoded
    cases pure_eq_ok.mp done
    have small := sentBits_of_lt (macroEnbId_lt read)
    simp [heard, heardType, HasUnit, small]
  · cases decoded

theorem network_of_dec {choice : GlobalE2nodeIdChoice} {id : NodeId}
    (decoded : decGlobalE2nodeId choice = .ok id) :
    ∃ bytes, plmnidToMccMnc bytes = .ok id.plmn := by
  unfold decGlobalE2nodeId at decoded
  split at decoded
  · obtain ⟨plmn, network, decoded⟩ := bind_eq_ok.mp decoded
    obtain ⟨nbId, -, done⟩ := bind_eq_ok.mp decoded
    cases pure_eq_ok.mp done
    exact ⟨_, network⟩
  · obtain ⟨plmn, network, decoded⟩ := bind_eq_ok.mp decoded
    obtain ⟨nbId, -, done⟩ := bind_eq_ok.mp decoded
    cases pure_eq_ok.mp done
    exact ⟨_, network⟩
  · cases decoded

/-- A node as it is named in a message. -/
structure NodeWellFormed (id : NodeId) : Prop where
  unit : GlobalE2NodeIds.WellFormed id
  network : PlmnFits id.plmn
  site : id.type ≠ .eNB → SiteInRange id.nbId
  macroSite : id.type = .eNB → id.nbId.nbId.toNat < 2 ^ 20 ∧ id.nbId.unused = 0

theorem NodeWellFormed.encodes {id : NodeId} (wf : NodeWellFormed id) :
    ∃ choice, encGlobalE2nodeId id = .ok choice := by
  apply (encGlobalE2nodeId_completes_iff id).mpr
  intro gnb
  refine ⟨?_, wf.site gnb⟩
  rintro (cuup | isDu)
  · exact wf.unit.present (.inl (by rw [cuup]; rfl))
  · exact wf.unit.present (.inr (by rw [isDu]; rfl))

theorem NodeWellFormed.returns {id : NodeId} (wf : NodeWellFormed id) :
    Returns encGlobalE2nodeId decGlobalE2nodeId id (heard id) :=
  nodeId_back ((plmnid_back_iff id.plmn).mpr wf.network)

/-- All of an id comes back but the type of a CU. -/
theorem NodeWellFormed.heard_eq {id : NodeId} (wf : NodeWellFormed id)
    (kept : heardType id.type = id.type) : heard id = id := by
  obtain ⟨type, plmn, nbId, cuDuId⟩ := id
  cases type <;> cases kept
  case eNB =>
    have none : cuDuId = none := wf.unit.absent rfl rfl
    obtain ⟨small, unused⟩ := wf.macroSite rfl
    obtain ⟨number, unusedBits⟩ := nbId
    simp only at small unused
    simp [heard, heardType, none, sentBits_of_lt small, unused]
  case gNB =>
    have none : cuDuId = none := wf.unit.absent rfl rfl
    simp [heard, heardType, none]
  all_goals simp [heard, heardType]

end FlexRic.Asn
