import FlexRic.Agent.Channel
import Mathlib.Algebra.Group.Nat.Defs

/-! # Queue and pipe in step

The text of a request id takes four bytes exactly when the id has four decimal
digits. As long as the producers work for such ids only, the pipe holds four
bytes for every event that the loop has still to read for, those apart that a
producer is yet to write, and every step of the producers and of the loop keeps
it so.
-/

namespace FlexRic

namespace Channel

/-- The events of the loop's array that are not reported yet. -/
def taken (c : Channel) : List AindEvent :=
  match c.loop with
  | .idle => []
  | .report e rest => e :: rest
  | .read rest => rest

/-- The reads that the loop still owes for its array. -/
def unread (c : Channel) : Nat :=
  match c.loop with
  | .idle => 0
  | .report _ rest => rest.length + 1
  | .read rest => rest.length + 1

def writes : Producer → Bool
  | .push _ => false
  | .write _ => true

/-- The request id that a producer works for. -/
def idOf : Producer → UInt32
  | .push e => e.ricId.ricReqId
  | .write ricReqId => ricReqId

def FourDigits (ricReqId : UInt32) : Prop := 1000 ≤ ricReqId.toNat ∧ ricReqId.toNat < 10000

instance (ricReqId : UInt32) : Decidable (FourDigits ricReqId) :=
  inferInstanceAs (Decidable (_ ∧ _))

theorem length_decimal_le (ricReqId : UInt32) {k : Nat} (pos : 0 < k) :
    (decimal ricReqId).length ≤ k ↔ ricReqId.toNat < 10 ^ k :=
  Nat.length_toDigits_le_iff (by decide) pos

theorem length_decimal_pos (ricReqId : UInt32) : 0 < (decimal ricReqId).length :=
  Nat.length_toDigits_pos

theorem length_decimal_eq_four {ricReqId : UInt32} :
    (decimal ricReqId).length = 4 ↔ FourDigits ricReqId := by
  have four := length_decimal_le ricReqId (show 0 < 4 by decide)
  have three := length_decimal_le ricReqId (show 0 < 3 by decide)
  simp only [FourDigits]
  omega

/-- Four bytes are in the pipe, or will be, for each event that the loop has still
    to read for. Bytes that the loop was not told of belong to its own array. -/
structure InStep (c : Channel) : Prop where
  balanced : c.pipe.length + 4 * c.producers.countP writes = 4 * (c.unread + c.aind.length)
  noticed : c.edge = false → c.pipe.length ≤ 4 * c.unread
  digits : ∀ p ∈ c.producers, FourDigits (idOf p)

namespace InStep

variable {c : Channel}

theorem init : InStep Channel.init where
  balanced := rfl
  noticed _ := Nat.le_refl 0
  digits := nofun

theorem async {e : AindEvent} (inv : InStep c) (digits : FourDigits e.ricId.ricReqId) :
    InStep { c with producers := c.producers ++ [.push e] } where
  balanced := by
    have counted : (c.producers ++ [Producer.push e]).countP writes =
        c.producers.countP writes := by
      simp [writes]
    have before := inv.balanced
    simp only [unread, counted] at before ⊢
    exact before
  noticed := inv.noticed
  digits p mem := by
    rcases List.mem_append.mp mem with mem | mem
    · exact inv.digits p mem
    · rw [List.mem_singleton.mp mem]
      exact digits

theorem produce (inv : InStep c) (i : Nat) : InStep (c.produce i) := by
  unfold Channel.produce
  split
  · exact inv
  · rename_i e here
    have counted := countP_advance here (some (.write e.ricId.ricReqId)) writes
    have before := inv.balanced
    refine ⟨?_, inv.noticed, ?_⟩
    · simp only [writes, Bool.toNat_false, Option.elim, Bool.toNat_true] at counted
      simp only [unread, List.length_append, List.length_singleton] at before ⊢
      omega
    · intro p mem
      rcases mem_advance mem with old | new
      · exact inv.digits p old
      · cases new
        exact inv.digits (.push e) (List.mem_of_getElem? here)
  · rename_i ricReqId here
    have counted := countP_advance here none writes
    have four := length_decimal_eq_four.mpr (inv.digits _ (List.mem_of_getElem? here))
    have before := inv.balanced
    refine ⟨?_, nofun, ?_⟩
    · simp only [writes, Bool.toNat_true, Option.elim] at counted
      simp only [idOf] at four
      simp only [unread, List.length_append] at before ⊢
      omega
    · intro p mem
      rcases mem_advance mem with old | new
      · exact inv.digits p old
      · cases new

theorem unread_loopOn (events : List AindEvent) (c : Channel) :
    unread { c with loop := loopOn events } = events.length := by
  cases events <;> rfl

theorem wake (inv : InStep c) (idle : c.loop = .idle) :
    InStep { c with aind := [], edge := false, loop := loopOn c.aind } where
  balanced := by
    have before := inv.balanced
    have array := unread_loopOn c.aind { c with aind := [], edge := false }
    simp only at array
    simp only [unread, idle] at before
    simp only [array, List.length_nil]
    omega
  noticed _ := by
    have before := inv.balanced
    have array := unread_loopOn c.aind { c with aind := [], edge := false }
    simp only at array
    simp only [unread, idle] at before
    simp only [array]
    omega
  digits := inv.digits

theorem report {e : AindEvent} {rest : List AindEvent} (inv : InStep c)
    (at_ : c.loop = .report e rest) : InStep { c with loop := .read rest } where
  balanced := by simpa [unread, at_] using inv.balanced
  noticed := by simpa [unread, at_] using inv.noticed
  digits := inv.digits

/-- A read that returns takes the four bytes of one event. -/
theorem four_bytes (inv : InStep c) (some : c.pipe ≠ []) : 4 ≤ c.pipe.length := by
  have before := inv.balanced
  have pos := List.length_pos_of_ne_nil some
  omega

theorem read {rest : List AindEvent} (inv : InStep c) (at_ : c.loop = .read rest)
    (some : c.pipe ≠ []) : InStep { c with pipe := c.pipe.drop 4, loop := loopOn rest } := by
  have before := inv.balanced
  have four := inv.four_bytes some
  have array := unread_loopOn rest { c with pipe := c.pipe.drop 4 }
  simp only at array
  simp only [unread, at_] at before
  refine ⟨?_, ?_, inv.digits⟩
  · simp only [array, List.length_drop]
    omega
  · intro unnoticed
    have noticed := inv.noticed unnoticed
    simp only [unread, at_] at noticed
    simp only [array, List.length_drop]
    omega

end InStep

end Channel

end FlexRic
