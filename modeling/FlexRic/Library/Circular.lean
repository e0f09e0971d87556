import FlexRic.Library.Buffer
import Mathlib.Algebra.Group.Nat.Defs
import Mathlib.Algebra.Order.Monoid.NatCast
import Mathlib.Data.Nat.Bitwise

/-! # Circular buffers

The places of a window that may go around the end of a buffer. A window that is
no longer than the buffer meets each slot at most once, so that within it a place
is its offset, or its offset less one round.
-/

namespace FlexRic

namespace Circular

variable {m t i j : Nat}

/-- The slot of the item at position `i` of a window that starts at `t`. -/
def slot (m t i : Nat) : Nat := (t + i) % m

theorem slot_lt (positive : 0 < m) : slot m t i < m := Nat.mod_lt _ positive

/-- A window goes around at most once. -/
theorem slot_eq (short : i < m) :
    slot m t i = if slot m t 0 + i < m then slot m t 0 + i else slot m t 0 + i - m := by
  have start : slot m t 0 < m := slot_lt (by omega)
  have shifted : slot m t i = (slot m t 0 + i) % m := by
    simp only [slot, Nat.add_zero, Nat.mod_add_mod]
  rw [shifted]
  split
  · exact Nat.mod_eq_of_lt ‹_›
  · rw [Nat.mod_eq_sub_mod (by omega)]
    exact Nat.mod_eq_of_lt (by omega)

theorem slot_inj (short : i < m) (short' : j < m) : slot m t i = slot m t j ↔ i = j := by
  have start : slot m t 0 < m := slot_lt (by omega)
  rw [slot_eq short, slot_eq short']
  split <;> split <;> omega

theorem slot_succ (short : i < m) :
    slot m t (i + 1) = if slot m t i + 1 = m then 0 else slot m t i + 1 := by
  have here : slot m t i < m := slot_lt (by omega)
  have next : slot m t (i + 1) = (slot m t i + 1) % m := by
    simp only [slot, ← Nat.add_assoc, Nat.mod_add_mod]
  rw [next]
  split
  · rw [‹_ + 1 = m›]
    exact Nat.mod_self m
  · exact Nat.mod_eq_of_lt (by omega)

theorem slot_add : slot m (t + i) j = slot m t (i + j) := by
  rw [slot, slot, Nat.add_assoc]

/-- Counters that wrap around do not matter when the wrap is a number of rounds. -/
theorem slot_mod {w : Nat} (rounds : m ∣ w) : slot m (t % w) i = slot m t i := by
  rw [slot, slot, Nat.add_mod, Nat.mod_mod_of_dvd _ rounds, ← Nat.add_mod]

end Circular

namespace Buffer

variable {ε : Type*} {α : Type} (outside : ε) {buf src : List α} {off n i : Nat}

/-- What is read is what is there. -/
theorem readAt_get (inside : off + n ≤ buf.length) : ∃ out, readAt outside buf off n = .ok out ∧
    out.length = n ∧ ∀ i, i < n → out[i]? = buf[off + i]? := by
  refine ⟨_, readAt_ok outside inside, ?_, ?_⟩
  · rw [List.length_take, List.length_drop]
    omega
  · intro i short
    rw [List.getElem?_take_of_lt short, List.getElem?_drop]

/-- A write changes what it covers. -/
theorem writeAt_get (inside : off + src.length ≤ buf.length) :
    ∃ buf', writeAt outside buf off src = .ok buf' ∧ buf'.length = buf.length ∧
      (∀ i, i < src.length → buf'[off + i]? = src[i]?) ∧
      ∀ i, i < off ∨ off + src.length ≤ i → buf'[i]? = buf[i]? := by
  have front : (buf.take off).length = off := by
    rw [List.length_take]
    omega
  refine ⟨_, bind_eq_ok.mpr ⟨(), check_pass _ inside, rfl⟩, ?_, ?_, ?_⟩
  · simp only [List.length_append, List.length_take, List.length_drop]
    omega
  · intro i short
    rw [List.append_assoc, List.getElem?_append_right (by omega), front,
      Nat.add_sub_cancel_left, List.getElem?_append_left short]
  · intro i apart
    rcases apart with before | after
    · rw [List.append_assoc, List.getElem?_append_left (by omega),
        List.getElem?_take_of_lt before]
    · rw [List.getElem?_append_right (by rw [List.length_append]; omega), List.length_append,
        front, List.getElem?_drop]
      congr 1
      omega

theorem fillAt_get (a : α) (inside : off + n ≤ buf.length) :
    ∃ buf', fillAt outside buf off n a = .ok buf' ∧ buf'.length = buf.length ∧
      ∀ i, i < off ∨ off + n ≤ i → buf'[i]? = buf[i]? := by
  have length := List.length_replicate (a := a) (n := n)
  have inside' : off + (List.replicate n a).length ≤ buf.length := length.symm ▸ inside
  obtain ⟨buf', written, kept, -, others⟩ := writeAt_get outside inside'
  rw [length] at others
  exact ⟨buf', bind_eq_ok.mpr ⟨(), check_pass _ inside, written⟩, kept, others⟩

end Buffer

end FlexRic
