import Mathlib.Algebra.BigOperators.Group.Finset.Basic
import Mathlib.Data.Fintype.Basic
import Mathlib.Tactic.Abel

/-! # Pools of alike things

What a pool has in all is the sum of what each of its members has. A change to one
member changes the sum by as much.
-/

namespace FlexRic

open scoped BigOperators

variable {ι σ M : Type*} [Fintype ι] [DecidableEq ι] [AddCommMonoid M]

theorem sum_update (f : ι → σ → M) (pool : ι → σ) (i : ι) (b : σ) :
    (∑ j, f j (Function.update pool i b j)) + f i (pool i) = (∑ j, f j (pool j)) + f i b := by
  have others : ∑ j ∈ Finset.univ.erase i, f j (Function.update pool i b j) =
      ∑ j ∈ Finset.univ.erase i, f j (pool j) := by
    apply Finset.sum_congr rfl
    intro j apart
    rw [Function.update_of_ne (Finset.ne_of_mem_erase apart)]
  rw [← Finset.add_sum_erase Finset.univ _ (Finset.mem_univ i),
    ← Finset.add_sum_erase Finset.univ (fun j => f j (pool j)) (Finset.mem_univ i), others,
    Function.update_self]
  abel

end FlexRic
