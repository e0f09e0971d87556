import FlexRic.E2sm.UeIdCodec

/-! # The id of a UE at its AMF

The generated codec keeps the number and chooses the octets. A gNB counts the octets
when it reads the id; an ng-eNB copies five of them, whatever their order.
-/

namespace FlexRic.E2sm

open Asn (Fault)
open Octets
open Wire (Bytes bytesOf valueOf length_bytesOf valueOf_bytesOf)

/-- The octets of a number that has room for its sign in eight. -/
theorem asnInt642Integer_octets (memory : Memory) {id : UInt64} (room : id.toNat < 2 ^ 63) :
    ∃ k ≤ 7, (asnInt642Integer memory id).octets = bigEndian (k + 1) id.toNat ∧
      2 * id.toNat < 256 ^ (k + 1) ∧ (k = 0 ∨ 256 ^ k ≤ 2 * id.toNat) := by
  apply shorten_bigEndian
  omega

theorem asnInteger2ulong_back (memory : Memory) {id : UInt64} (room : id.toNat < 2 ^ 63) :
    asnInteger2ulong (asnInt642Integer memory id) = id := by
  obtain ⟨k, -, octets, fits, -⟩ := asnInt642Integer_octets memory room
  rw [asnInteger2ulong, octets, unsigned_bigEndian, Nat.mod_eq_of_lt (by omega),
    UInt64.ofNat_toNat]

/-- The codec takes an id that was written as a number. -/
theorem aperAmfUeNgapId_int64 (there here : Memory) {id : UInt64} (small : id.toNat < 2 ^ 40) :
    aperAmfUeNgapId here (asnInt642Integer there id) = .ok (asnInt642Integer here id) := by
  obtain ⟨k, -, octets, fits, -⟩ := asnInt642Integer_octets there (by omega : id.toNat < 2 ^ 63)
  have range : 0 ≤ (id.toNat : Int) ∧ (id.toNat : Int) ≤ 1099511627775 := by omega
  rw [aperAmfUeNgapId, octets, signed_bigEndian fits]
  simp only [check_pass _ range, ok_bind, Int.toNat_natCast, UInt64.ofNat_toNat]
  rfl

/-- From half of the range on there are six octets, and a gNB takes five at most. -/
theorem length_int64_lt_iff (memory : Memory) {id : UInt64} (small : id.toNat < 2 ^ 40) :
    (asnInt642Integer memory id).octets.length < 6 ↔ id.toNat < 2 ^ 39 := by
  obtain ⟨k, -, octets, fits, needed⟩ :=
    asnInt642Integer_octets memory (by omega : id.toNat < 2 ^ 63)
  rw [octets, length_bigEndian]
  constructor
  · intro few
    have atMost : 256 ^ (k + 1) ≤ 256 ^ 5 := Nat.pow_le_pow_right (by decide) (by omega)
    omega
  · intro below
    by_contra many
    rcases needed with rfl | needed
    · exact many (by decide)
    · have atLeast : 256 ^ 5 ≤ 256 ^ k := Nat.pow_le_pow_right (by decide) (by omega)
      omega

/-- The number that the five bytes of an id are for the codec. -/
def copiedNumber (id : UInt64) : Nat := unsigned (bytesOf 5 id.toNat)

theorem copiedNumber_lt (id : UInt64) : copiedNumber id < 256 ^ 5 := by
  have below := unsigned_lt (bytesOf 5 id.toNat)
  rwa [length_bytesOf] at below

theorem copiedNumber_eq (id : UInt64) :
    ∃ rest < 256 ^ 3, copiedNumber id =
      id.toNat % 256 * 256 ^ 4 + id.toNat / 256 % 256 * 256 ^ 3 + rest := by
  have below := unsigned_lt (bytesOf 3 (id.toNat / 256 / 256))
  rw [length_bytesOf] at below
  refine ⟨_, below, ?_⟩
  rw [copiedNumber, bytesOf, bytesOf, unsigned_cons, unsigned_cons, List.length_cons,
    length_bytesOf, UInt8.toNat_ofNat', UInt8.toNat_ofNat']
  omega

theorem copiedNumber_eq_zero_iff {id : UInt64} (fits : id.toNat < 2 ^ 40) :
    copiedNumber id = 0 ↔ id.toNat = 0 := by
  constructor
  · intro zero
    have same := congrArg valueOf (bigEndian_unsigned (bytesOf 5 id.toNat))
    rw [length_bytesOf, ← copiedNumber, zero, valueOf_bytesOf] at same
    have none : valueOf (bigEndian 5 0) = 0 := by decide
    omega
  · intro zero
    rw [copiedNumber, zero]
    decide

/-- The five bytes are taken for a number just when the first of them shows no sign. -/
theorem aperAmfUeNgapId_copied (memory : Memory) (id : UInt64) {i : Integer} :
    aperAmfUeNgapId memory ⟨bytesOf 5 id.toNat, []⟩ = .ok i ↔
      id.toNat % 256 < 128 ∧ asnInt642Integer memory (UInt64.ofNat (copiedNumber id)) = i := by
  have first : UInt8.ofNat id.toNat < 128 ↔ id.toNat % 256 < 128 := by
    rw [UInt8.lt_iff_toNat_lt, UInt8.toNat_ofNat']
    rfl
  have sign : 0 ≤ signed (bytesOf 5 id.toNat) ↔ id.toNat % 256 < 128 := by
    rw [bytesOf, signed_nonneg_iff, first]
  have value (positive : id.toNat % 256 < 128) :
      signed (bytesOf 5 id.toNat) = (copiedNumber id : Int) := by
    rw [copiedNumber, bytesOf, signed, if_pos (first.mpr positive)]
  have below := copiedNumber_lt id
  simp only [aperAmfUeNgapId, bind_eq_ok, check_eq_ok, pure_eq_ok, sign]
  constructor
  · rintro ⟨-, ⟨positive, -⟩, rfl⟩
    rw [value positive, Int.toNat_natCast]
    exact ⟨positive, rfl⟩
  · rintro ⟨positive, rfl⟩
    rw [value positive, Int.toNat_natCast]
    exact ⟨(), ⟨positive, by omega⟩, rfl⟩

section
variable {id : UInt64} (positive : copiedNumber id < 2 ^ 39)
include positive

/-- The number has as many octets as it needs, and at most five. -/
theorem copied_octets (memory : Memory) :
    ∃ k ≤ 4,
      (asnInt642Integer memory (UInt64.ofNat (copiedNumber id))).octets =
        bigEndian (k + 1) (copiedNumber id) ∧
      2 * copiedNumber id < 256 ^ (k + 1) ∧ (k = 0 ∨ 256 ^ k ≤ 2 * copiedNumber id) := by
  have kept : (UInt64.ofNat (copiedNumber id)).toNat = copiedNumber id :=
    UInt64.toNat_ofNat_of_lt' (Nat.lt_trans positive (by decide))
  have room : (UInt64.ofNat (copiedNumber id)).toNat < 2 ^ 63 := by omega
  obtain ⟨k, -, octets, fits, needed⟩ := asnInt642Integer_octets memory room
  rw [kept] at octets fits needed
  refine ⟨k, ?_, octets, fits, needed⟩
  by_contra many
  rcases needed with rfl | needed
  · exact many (by decide)
  · have atLeast : 256 ^ 5 ≤ 256 ^ k := Nat.pow_le_pow_right (by decide) (by omega)
    omega

/-- A number that needs all five octets is written as the bytes that were copied. -/
theorem copied_long (memory : Memory) (long : 2 ^ 31 ≤ copiedNumber id) :
    (asnInt642Integer memory (UInt64.ofNat (copiedNumber id))).octets = bytesOf 5 id.toNat := by
  obtain ⟨k, few, octets, fits, -⟩ := copied_octets positive memory
  have five : k = 4 := by
    by_contra fewer
    have atMost : 256 ^ (k + 1) ≤ 256 ^ 4 := Nat.pow_le_pow_right (by decide) (by omega)
    omega
  have same := bigEndian_unsigned (bytesOf 5 id.toNat)
  rw [length_bytesOf] at same
  rw [octets, five]
  exact same

end

/-- What five bytes copied from an INTEGER are. -/
def copiedBack (i : Integer) : Nat := valueOf ((i.octets ++ i.behind).take 5)

theorem copiedBack_cons {i : Integer} {o : UInt8} {octets : Bytes}
    (front : i.octets = o :: octets) :
    copiedBack i = o.toNat + 256 * valueOf ((octets ++ i.behind).take 4) := by
  rw [copiedBack, front]
  rfl

/-- A number short of five octets has a zero byte in front, and among its octets zero alone
    starts with one. -/
theorem copied_short_iff {id : UInt64} (memory : Memory) (fits : id.toNat < 2 ^ 40)
    (short : copiedNumber id < 2 ^ 31) :
    copiedBack (asnInt642Integer memory (UInt64.ofNat (copiedNumber id))) = id.toNat ↔
      id.toNat = 0 ∧ valueOf ((memory.toList.drop 1).take 4) = 0 := by
  obtain ⟨rest, small, parts⟩ := copiedNumber_eq id
  have zero := copiedNumber_eq_zero_iff fits
  have front : id.toNat % 256 = 0 := by omega
  have next : id.toNat / 256 % 256 < 128 := by omega
  obtain ⟨k, few, octets, room, needed⟩ := copied_octets (Nat.lt_trans short (by decide)) memory
  have behind : (asnInt642Integer memory (UInt64.ofNat (copiedNumber id))).behind =
      memory.toList.drop (k + 1) := by
    change List.drop (asnInt642Integer memory _).octets.length _ = _
    rw [octets, length_bigEndian]
  rw [bigEndian_succ] at octets
  rw [copiedBack_cons octets, behind, UInt8.toNat_ofNat']
  cases k with
  | zero =>
      change copiedNumber id / 1 % 256 + 256 * valueOf ((memory.toList.drop 1).take 4) = _ ↔ _
      rw [Nat.div_one]
      omega
  | succ k =>
      have unit : 0 < 256 ^ k := Nat.pow_pos (by decide)
      have second : 128 ≤ copiedNumber id / 256 ^ k := by
        rw [Nat.le_div_iff_mul_le unit]
        omega
      rw [bigEndian_succ, List.cons_append, List.take_succ_cons, valueOf, UInt8.toNat_ofNat',
        Nat.pow_succ, ← Nat.div_div_eq_div_mul]
      have highest : copiedNumber id / 256 ^ k < 256 * 128 := by
        rw [Nat.div_lt_iff_lt_mul unit]
        omega
      constructor
      · intro back
        have leading : copiedNumber id / 256 ^ k / 256 = 0 := by omega
        omega
      · rintro ⟨none, -⟩
        omega
/-- An id that five bytes bring back: the lower two, the lowest one first, are a number from
    128 to 32767. -/
def CopyKept (id : UInt64) : Prop :=
  id.toNat < 2 ^ 40 ∧ 128 ≤ id.toNat % 256 * 256 + id.toNat / 256 % 256 ∧
    id.toNat % 256 * 256 + id.toNat / 256 % 256 < 32768

/-- An id that they bring back out of one memory: 0 has a single octet, and comes back where
    the four bytes behind it are clear. -/
def CopyKeptIn (memory : Memory) (id : UInt64) : Prop :=
  CopyKept id ∨ id = 0 ∧ valueOf ((memory.toList.drop 1).take 4) = 0

theorem copyKept_iff (id : UInt64) : CopyKept id ↔ ∀ memory, CopyKeptIn memory id := by
  constructor
  · intro kept memory
    exact .inl kept
  · intro kept
    rcases kept (.replicate 8 1) with kept | ⟨-, clear⟩
    · exact kept
    · exact absurd clear (by decide)

theorem copy_back_iff (memory : Memory) (id : UInt64) :
    (∃ i, aperAmfUeNgapId memory ⟨bytesOf 5 id.toNat, []⟩ = .ok i ∧
      copiedBack i < 2 ^ 40 ∧ UInt64.ofNat (copiedBack i) = id) ↔ CopyKeptIn memory id := by
  obtain ⟨rest, small, parts⟩ := copiedNumber_eq id
  simp only [aperAmfUeNgapId_copied]
  constructor
  · rintro ⟨_, ⟨first, rfl⟩, fits, same⟩
    have whole := congrArg UInt64.toNat same
    rw [UInt64.toNat_ofNat_of_lt' (Nat.lt_trans fits (by decide))] at whole
    by_cases short : copiedNumber id < 2 ^ 31
    · obtain ⟨none, clear⟩ := (copied_short_iff memory (whole ▸ fits) short).mp whole
      exact .inr ⟨UInt64.toNat_inj.mp none, clear⟩
    · refine .inl ⟨?_, ?_, ?_⟩ <;> omega
  · rintro (⟨fits, least, most⟩ | ⟨rfl, clear⟩)
    · have positive : copiedNumber id < 2 ^ 39 := by omega
      refine ⟨_, ⟨by omega, rfl⟩, ?_⟩
      have five := length_bytesOf 5 id.toNat
      rw [copiedBack, copied_long positive memory (by omega), List.take_left' five,
        valueOf_bytesOf, Nat.mod_eq_of_lt (b := 256 ^ 5) fits]
      exact ⟨fits, UInt64.ofNat_toNat⟩
    · have few : (0 : UInt64).toNat < 2 ^ 40 := by decide
      have back := (copied_short_iff memory few (by decide)).mpr ⟨rfl, clear⟩
      refine ⟨_, ⟨by decide, rfl⟩, ?_⟩
      rw [back]
      decide

end FlexRic.E2sm
