import Mathlib.Algebra.Group.Int.Defs
import Mathlib.Algebra.Group.Nat.Defs
import Mathlib.Tactic.Common

/-! # Sizes in an `int`

A size that goes through an `int` keeps its lower 32 bits, with a sign. One that is
short enough comes back as it was.
-/

namespace FlexRic

/-- An unsigned number as an `int`. -/
def toInt32 (n : Nat) : Int := (BitVec.ofNat 32 n).toInt

/-- An `int` as a `size_t`. -/
def toSizeT (i : Int) : Nat := (BitVec.ofInt 64 i).toNat

theorem toInt32_eq {n : Nat} (small : n < 2 ^ 31) : toInt32 n = n := by
  rw [toInt32, BitVec.toInt_ofNat']
  exact Int.bmod_eq_of_le (by omega) (by omega)

theorem toInt32_lt (n : Nat) : toInt32 n < 2 ^ 31 := by
  rw [toInt32]
  exact BitVec.toInt_lt

theorem toSizeT_eq {n : Nat} (small : n < 2 ^ 31) : toSizeT n = n := by
  rw [toSizeT, BitVec.ofInt_natCast, BitVec.toNat_ofNat, Nat.mod_eq_of_lt (by omega)]

end FlexRic
