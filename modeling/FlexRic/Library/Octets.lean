import FlexRic.Library.Wire

/-! # Whole numbers in two's complement

The octets of a number with the most significant one first, as few as leave room for
the sign. An octet in front is redundant when it only repeats the sign of the next.
-/

namespace FlexRic.Octets

open Wire (Bytes bytesOf valueOf length_bytesOf valueOf_bytesOf)

/-- The low `n` octets of a number, the most significant one first. -/
def bigEndian (n v : Nat) : Bytes := (bytesOf n v).reverse

/-- The number that the octets stand for without a sign. -/
def unsigned (octets : Bytes) : Nat := valueOf octets.reverse

/-- The number that the octets stand for, where the first bit is the sign. -/
def signed : Bytes → Int
  | [] => 0
  | b :: rest =>
      if b < 128 then unsigned (b :: rest)
      else (unsigned (b :: rest) : Int) - 256 ^ (rest.length + 1)

/-- Leave out the octets in front that the next one makes redundant. -/
def shorten : Bytes → Bytes
  | b0 :: b1 :: rest =>
      if b0 = 0 ∧ b1 < 128 ∨ b0 = 255 ∧ ¬b1 < 128 then shorten (b1 :: rest) else b0 :: b1 :: rest
  | octets => octets

@[simp] theorem length_bigEndian (n v : Nat) : (bigEndian n v).length = n := by
  simp [bigEndian]

@[simp] theorem unsigned_bigEndian (n v : Nat) : unsigned (bigEndian n v) = v % 256 ^ n := by
  rw [unsigned, bigEndian, List.reverse_reverse, valueOf_bytesOf]

theorem bytesOf_snoc (n v : Nat) :
    bytesOf (n + 1) v = bytesOf n v ++ [UInt8.ofNat (v / 256 ^ n)] := by
  induction n generalizing v with
  | zero => simp [bytesOf]
  | succ n ih =>
      rw [bytesOf, ih, bytesOf, List.cons_append, Nat.div_div_eq_div_mul, Nat.pow_succ,
        Nat.mul_comm (256 ^ n)]

theorem bigEndian_succ (n v : Nat) :
    bigEndian (n + 1) v = UInt8.ofNat (v / 256 ^ n) :: bigEndian n v := by
  rw [bigEndian, bytesOf_snoc, List.reverse_append]
  rfl

theorem valueOf_lt (octets : Bytes) : valueOf octets < 256 ^ octets.length := by
  induction octets with
  | nil => decide
  | cons b octets ih =>
      have small := b.toNat_lt
      rw [valueOf, List.length_cons, Nat.pow_succ]
      omega

theorem valueOf_append (front back : Bytes) :
    valueOf (front ++ back) = valueOf front + 256 ^ front.length * valueOf back := by
  induction front with
  | nil => simp [valueOf]
  | cons b front ih =>
      rw [List.cons_append, valueOf, valueOf, ih, List.length_cons, Nat.pow_succ', Nat.mul_add,
        Nat.mul_assoc, Nat.add_assoc]

theorem unsigned_lt (octets : Bytes) : unsigned octets < 256 ^ octets.length := by
  rw [← List.length_reverse]
  exact valueOf_lt octets.reverse

theorem unsigned_cons (b : UInt8) (octets : Bytes) :
    unsigned (b :: octets) = b.toNat * 256 ^ octets.length + unsigned octets := by
  rw [unsigned, List.reverse_cons, valueOf_append, List.length_reverse, unsigned, valueOf, valueOf,
    Nat.mul_zero, Nat.add_zero, Nat.mul_comm, Nat.add_comm]

/-- Octets whose first bit is set are below zero. -/
theorem signed_nonneg_iff (b : UInt8) (octets : Bytes) : 0 ≤ signed (b :: octets) ↔ b < 128 := by
  rw [signed]
  split
  case isTrue first => exact iff_of_true (Int.natCast_nonneg _) first
  case isFalse first =>
    have below := Int.ofNat_lt.mpr (unsigned_lt (b :: octets))
    rw [List.length_cons, Int.natCast_pow] at below
    exact iff_of_false (Int.not_le.mpr (Int.sub_neg_of_lt below)) first

theorem bytesOf_valueOf (octets : Bytes) : bytesOf octets.length (valueOf octets) = octets := by
  induction octets with
  | nil => rfl
  | cons b octets ih =>
      have small := b.toNat_lt
      have first : UInt8.ofNat (b.toNat + 256 * valueOf octets) = b := by
        rw [← UInt8.toNat_inj, UInt8.toNat_ofNat']
        omega
      have rest : (b.toNat + 256 * valueOf octets) / 256 = valueOf octets := by omega
      rw [List.length_cons, valueOf, bytesOf, first, rest, ih]

theorem bigEndian_unsigned (octets : Bytes) :
    bigEndian octets.length (unsigned octets) = octets := by
  rw [bigEndian, unsigned, ← List.length_reverse, bytesOf_valueOf, List.reverse_reverse]

theorem first_lt {n v : Nat} (room : 2 * v < 256 ^ (n + 1)) : v / 256 ^ n < 128 := by
  apply Nat.div_lt_of_lt_mul
  rw [Nat.pow_succ] at room
  omega

/-- With room for the sign the first bit is clear. -/
theorem positive_first {n v : Nat} (room : 2 * v < 256 ^ (n + 1)) :
    UInt8.ofNat (v / 256 ^ n) < 128 := by
  have small := first_lt room
  rw [UInt8.lt_iff_toNat_lt, UInt8.toNat_ofNat_of_lt' (Nat.lt_trans small (by decide))]
  exact small

/-- A number with room for its sign. -/
theorem signed_bigEndian {n v : Nat} (room : 2 * v < 256 ^ (n + 1)) :
    signed (bigEndian (n + 1) v) = v := by
  have first := positive_first room
  have fits : v < 256 ^ (n + 1) := by omega
  have whole := unsigned_bigEndian (n + 1) v
  rw [Nat.mod_eq_of_lt fits, bigEndian_succ] at whole
  rw [bigEndian_succ, signed, if_pos first, whole]

/-- Octets of a number are shortened to as few as leave room for the sign. -/
theorem shorten_bigEndian {n v : Nat} (room : 2 * v < 256 ^ (n + 1)) :
    ∃ k ≤ n, shorten (bigEndian (n + 1) v) = bigEndian (k + 1) v ∧ 2 * v < 256 ^ (k + 1) ∧
      (k = 0 ∨ 256 ^ k ≤ 2 * v) := by
  induction n with
  | zero =>
      refine ⟨0, Nat.le_refl 0, ?_, room, .inl rfl⟩
      rfl
  | succ n ih =>
      rw [bigEndian_succ (n + 1), bigEndian_succ n]
      by_cases less : 2 * v < 256 ^ (n + 1)
      · obtain ⟨k, few, shorter, rest⟩ := ih less
        refine ⟨k, Nat.le_succ_of_le few, ?_, rest⟩
        have front : v / 256 ^ (n + 1) = 0 := Nat.div_eq_of_lt (by omega)
        rw [shorten, front, if_pos (Or.inl ⟨rfl, positive_first less⟩), ← bigEndian_succ]
        exact shorter
      · refine ⟨n + 1, Nat.le_refl _, ?_, room, .inr (Nat.le_of_not_lt less)⟩
        have front := first_lt room
        have kept : (UInt8.ofNat (v / 256 ^ (n + 1))).toNat = v / 256 ^ (n + 1) :=
          UInt8.toNat_ofNat_of_lt' (Nat.lt_trans front (by decide))
        rw [shorten, if_neg, ← bigEndian_succ, ← bigEndian_succ]
        rintro (⟨zero, next⟩ | ⟨ones, -⟩)
        · -- The next octet would be the first of a number with room for its sign.
          apply less
          have small : v < 256 ^ (n + 1) := by
            rw [zero] at kept
            exact Nat.lt_of_div_eq_zero (Nat.pow_pos (by decide)) kept.symm
          have second : v / 256 ^ n < 256 := by
            apply Nat.div_lt_of_lt_mul
            rwa [← Nat.pow_succ]
          rw [UInt8.lt_iff_toNat_lt, UInt8.toNat_ofNat_of_lt' second] at next
          have below : v < 128 * 256 ^ n :=
            (Nat.div_lt_iff_lt_mul (Nat.pow_pos (by decide))).mp next
          rw [Nat.pow_succ]
          omega
        · rw [ones] at kept
          have top : (255 : UInt8).toNat = 255 := rfl
          omega

end FlexRic.Octets
