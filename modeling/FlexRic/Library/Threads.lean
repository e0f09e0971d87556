import Mathlib.Data.List.Count
import Mathlib.Data.List.Perm.Basic

/-! # Threads that run section by section

A pool of threads is the list of what each of them has still to do. A thread
that runs its next section goes on as the rest of itself or is done; the others
stay as they are.
-/

namespace FlexRic

variable {τ : Type}

/-- Thread number `i` goes on as `rest`, or is done. -/
def advance (threads : List τ) (i : Nat) (rest : Option τ) : List τ :=
  threads.take i ++ rest.toList ++ threads.drop (i + 1)

variable {threads : List τ} {i : Nat} {t : τ}

theorem advance_perm (here : threads[i]? = some t) :
    ∃ others, threads.Perm (t :: others) ∧
      ∀ rest, (advance threads i rest).Perm (rest.toList ++ others) := by
  obtain ⟨bound, at_⟩ := List.getElem?_eq_some_iff.mp here
  have cut : threads = threads.take i ++ t :: threads.drop (i + 1) := by
    rw [← at_, ← List.drop_eq_getElem_cons bound, List.take_append_drop]
  refine ⟨threads.take i ++ threads.drop (i + 1), ?_, ?_⟩
  · exact (List.Perm.of_eq cut).trans List.perm_middle
  · intro rest
    rw [advance, ← List.append_assoc]
    exact (List.perm_append_comm).append_right _

theorem mem_advance {rest : Option τ} (mem : t ∈ advance threads i rest) :
    t ∈ threads ∨ rest = some t := by
  simp only [advance, List.mem_append, Option.mem_toList] at mem
  rcases mem with (before | now) | after
  · exact .inl (List.mem_of_mem_take before)
  · exact .inr now
  · exact .inl (List.mem_of_mem_drop after)

theorem countP_of_perm {l l' : List τ} {a : τ} (perm : l.Perm (a :: l')) (p : τ → Bool) :
    l.countP p = l'.countP p + (p a).toNat := by
  rw [perm.countP_eq, List.countP_cons]
  cases p a <;> rfl

theorem count_of_perm [BEq τ] {l l' : List τ} {a : τ} (perm : l.Perm (a :: l')) (b : τ) :
    l.count b = l'.count b + (a == b).toNat :=
  countP_of_perm perm (· == b)

theorem countP_advance (here : threads[i]? = some t) (rest : Option τ) (p : τ → Bool) :
    (advance threads i rest).countP p + (p t).toNat =
      threads.countP p + rest.elim 0 fun t' => (p t').toNat := by
  obtain ⟨others, before, after⟩ := advance_perm here
  rw [countP_of_perm before, (after rest).countP_eq]
  cases rest with
  | none => simp
  | some t' =>
      rw [show (some t').toList ++ others = t' :: others from rfl, countP_of_perm (.refl _)]
      simp only [Option.elim]
      omega

end FlexRic
