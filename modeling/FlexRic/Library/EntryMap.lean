import Mathlib.Data.List.Nodup
import Mathlib.Data.List.Perm.Basic
import Mathlib.Logic.Function.Basic

/-! # Finite maps and their entries

A finite map is a partial function; a container holds it as a list of entries,
in whatever order, whose keys are distinct. What a container does to its entries
then says what it does to the map.
-/

namespace FlexRic

variable {κ ν : Type*}

/-- The entries are those of the map, each listed once. -/
structure Represents (entries : List (κ × ν)) (m : κ → Option ν) : Prop where
  distinct : (entries.map Prod.fst).Nodup
  mem_iff : ∀ k v, (k, v) ∈ entries ↔ m k = some v

namespace Represents

variable {entries entries' : List (κ × ν)} {m m' : κ → Option ν} {k : κ} {v : ν}

theorem nil : Represents ([] : List (κ × ν)) fun _ => none where
  distinct := List.nodup_nil
  mem_iff := by simp

theorem perm (rep : Represents entries m) (perm : entries.Perm entries') :
    Represents entries' m where
  distinct := (perm.map Prod.fst).nodup_iff.mp rep.distinct
  mem_iff k v := by rw [← perm.mem_iff, rep.mem_iff]

theorem eq_none_iff (rep : Represents entries m) : m k = none ↔ k ∉ entries.map Prod.fst := by
  simp [Option.eq_none_iff_forall_ne_some, ← rep.mem_iff]

/-- The map is determined by its entries. -/
theorem map_unique (rep : Represents entries m) (rep' : Represents entries m') : m = m' := by
  funext k
  apply Option.ext
  intro v
  rw [← rep.mem_iff, ← rep'.mem_iff]

/-- Keeping some of the entries keeps the map where they are. -/
theorem filter (rep : Represents entries m) (p : κ → ν → Bool) :
    Represents (entries.filter fun e => p e.1 e.2) fun k => (m k).filter (p k) where
  distinct := rep.distinct.sublist (List.Sublist.map _ List.filter_sublist)
  mem_iff k v := by
    rw [List.mem_filter, rep.mem_iff, Option.filter_eq_some_iff]

variable [DecidableEq κ]

/-- A new entry under a key that was free. -/
theorem cons (rep : Represents entries m) (fresh : m k = none) (v : ν) :
    Represents ((k, v) :: entries) (Function.update m k (some v)) where
  distinct := List.nodup_cons.mpr ⟨rep.eq_none_iff.mp fresh, rep.distinct⟩
  mem_iff k' v' := by
    rw [List.mem_cons, rep.mem_iff, Prod.mk.injEq]
    by_cases same : k' = k
    · subst same
      simp [fresh, eq_comm]
    · simp [same]

/-- An entry goes, and its key is free. -/
theorem of_cons (rep : Represents ((k, v) :: entries) m) :
    m k = some v ∧ Represents entries (Function.update m k none) := by
  have distinct := List.nodup_cons.mp rep.distinct
  refine ⟨(rep.mem_iff k v).mp (by simp), distinct.2, fun k' v' => ?_⟩
  by_cases same : k' = k
  · subst same
    have gone : (k', v') ∉ entries := fun mem => distinct.1 (List.mem_map.mpr ⟨_, mem, rfl⟩)
    simpa using gone
  · have others := rep.mem_iff k' v'
    rw [List.mem_cons, Prod.mk.injEq] at others
    simpa [same] using others

end Represents

end FlexRic
