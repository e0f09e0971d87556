import Mathlib.Data.Nat.Find
import Mathlib.Tactic.Common

/-! # Linear probing

A probe starts at a place of a table and goes on, from the last place to the
first, until it meets an item to stop at. It meets one within a round if there
is any, and then it has passed all the items on its way there.
-/

namespace FlexRic

variable {α : Type}

/-- Look for an item to stop at, in so many places from `idx` on. -/
def probe (stop : α → Bool) (items : List α) : Nat → Nat → Option Nat
  | 0, _ => none
  | places + 1, idx =>
      match items[idx]? with
      | none => none
      | some a =>
          if stop a then some idx
          else probe stop items places (if idx + 1 = items.length then 0 else idx + 1)

/-- The item that a probe from `start` meets after `d` others. -/
def met (items : List α) (start d : Nat) : Option α := items[(start + d) % items.length]?

variable {stop : α → Bool} {items : List α} {start d places : Nat} {a : α}

theorem next_place (nonempty : 0 < items.length) (start : Nat) :
    (if start % items.length + 1 = items.length then 0 else start % items.length + 1) =
      (start + 1) % items.length := by
  have within := Nat.mod_lt start nonempty
  have same : (start + 1) % items.length = (start % items.length + 1) % items.length :=
    (Nat.mod_add_mod ..).symm
  rw [same]
  split
  · rename_i last
    rw [last, Nat.mod_self]
  · rw [Nat.mod_eq_of_lt (show start % items.length + 1 < items.length by omega)]

/-- A probe stops at the first item it is to stop at. -/
theorem probe_eq (near : d < places) (here : met items start d = some a) (stops : stop a)
    (passed : ∀ d' < d, ∀ b ∈ met items start d', ¬stop b) :
    probe stop items places (start % items.length) = some ((start + d) % items.length) := by
  induction d generalizing start places with
  | zero =>
      obtain ⟨places, rfl⟩ := Nat.exists_eq_add_of_lt near
      rw [met, Nat.add_zero] at here
      simp [probe, here, stops]
  | succ d ih =>
      cases places with
      | zero => cases near
      | succ places =>
          have bound := (List.getElem?_eq_some_iff.mp here).1
          have nonempty : 0 < items.length := Nat.lt_of_le_of_lt (Nat.zero_le _) bound
          have within := Nat.mod_lt start nonempty
          have first : items[start % items.length]? = some items[start % items.length] :=
            List.getElem?_eq_getElem within
          have goesOn := passed 0 (Nat.succ_pos d) _ first
          have shift (d : Nat) : met items (start + 1) d = met items start (d + 1) := by
            rw [met, met, Nat.add_assoc, Nat.add_comm 1 d]
          have rest := ih (Nat.lt_of_succ_lt_succ near) ((shift d).trans here)
            fun d' before b at_ =>
              passed (d' + 1) (Nat.succ_lt_succ before) b ((shift d').symm.trans at_)
          rw [probe, first]
          simp only [goesOn, Bool.false_eq_true, if_false, next_place nonempty, rest]
          rw [Nat.add_assoc, Nat.add_comm 1 d]

/-- Within a round every place is met. -/
theorem exists_met {i : Nat} (there : items[i]? = some a) (start : Nat) :
    ∃ d < items.length, met items start d = some a := by
  have bound := (List.getElem?_eq_some_iff.mp there).1
  have nonempty : 0 < items.length := Nat.lt_of_le_of_lt (Nat.zero_le _) bound
  have within := Nat.mod_lt start nonempty
  refine ⟨(i + (items.length - start % items.length)) % items.length, Nat.mod_lt _ nonempty, ?_⟩
  have round : (start + (i + (items.length - start % items.length)) % items.length) % items.length =
      i := by
    rw [Nat.add_mod_mod, ← Nat.mod_add_mod,
      show start % items.length + (i + (items.length - start % items.length)) =
        i + items.length by omega, Nat.add_mod_right, Nat.mod_eq_of_lt bound]
  rw [met, round, there]

/-- If there is an item to stop at, a probe of a round finds one. -/
theorem exists_probe (some_ : ∃ a ∈ items, stop a) (start : Nat) :
    ∃ d a, d < items.length ∧ met items start d = some a ∧ stop a ∧
      (∀ d' < d, ∀ b ∈ met items start d', ¬stop b) ∧
      probe stop items items.length (start % items.length) = some ((start + d) % items.length) := by
  obtain ⟨a, mem, stops⟩ := some_
  obtain ⟨i, there⟩ := List.getElem?_of_mem mem
  obtain ⟨d, near, here⟩ := exists_met there start
  have found : ∃ d, ∃ a ∈ met items start d, stop a := ⟨d, a, here, stops⟩
  classical
  obtain ⟨b, first, stopsFirst⟩ := Nat.find_spec found
  have least := Nat.find_min' found ⟨a, here, stops⟩
  have passed : ∀ d' < Nat.find found, ∀ b ∈ met items start d', ¬stop b :=
    fun d' before b at_ stopsThere => Nat.find_min found before ⟨b, at_, stopsThere⟩
  have nearFirst := Nat.lt_of_le_of_lt least near
  exact ⟨Nat.find found, b, nearFirst, first, stopsFirst, passed,
    probe_eq nearFirst first stopsFirst passed⟩

end FlexRic
