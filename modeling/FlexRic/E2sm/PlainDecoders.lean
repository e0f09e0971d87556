import FlexRic.Slice.Coverage
import FlexRic.Stats.Acceptance
import FlexRic.Stats.Service
import FlexRic.Tc.Coverage

/-! # The plain decoders of the service models, on any payload

A decoder stays inside a payload when it returns a message or one of its assertions stops it
before it reads behind the end.
-/

namespace FlexRic.E2sm

open Wire
open Stats

theorem stays_overrun_iff {α : Type} {outcome : Except Wire.Fault α} :
    Stays Overrun outcome ↔ outcome ≠ .error .short := by
  constructor
  · rintro stays stopped
    exact stays .short stopped rfl
  · rintro inside e stopped rfl
    exact inside stopped

theorem readIndMsg_stays_iff {fields : List Field} (bytes : Bytes) :
    Stays Overrun (readAll (readIndMsg : Reader (IndMsg fields)) bytes) ↔
      needed fields bytes ≤ bytes.length := by
  rw [stays_overrun_iff, Ne, readAll_overreads, Nat.not_lt]

/-- Behind a check that stops the decoder before it reads anything. -/
theorem checked_stays_iff {α : Type} {guard : Except Wire.Fault Unit} {read : Except Wire.Fault α}
    (stops : ∀ e, guard = .error e → ¬Overrun e) :
    Stays Overrun (guard >>= fun _ => read) ↔ (guard = .ok () → Stays Overrun read) := by
  cases guard with
  | ok =>
      rw [ok_bind]
      exact ⟨fun stays _ => stays, fun stays => stays rfl⟩
  | error e =>
      rw [error_bind, stays_error]
      apply iff_of_true (stops e rfl)
      intro absurd
      cases absurd

theorem check_fine {c : Prop} [Decidable c] {fault e : Wire.Fault} (fine : ¬Overrun fault)
    (stopped : check c fault = .error e) : ¬Overrun e := by
  rw [← (check_eq_error.mp stopped).2]
  exact fine

/-- Of the other decoders each has one number to read, and asserts that it is there. -/
theorem decNumberPlain_inside (bytes : Bytes) :
    bytes.length = 4 ∧ (∃ v, decNumberPlain bytes = .ok v) ∨
      bytes.length ≠ 4 ∧ decNumberPlain bytes = .error .bound := by
  by_cases whole : bytes.length = 4
  · obtain ⟨v, read⟩ := readU32_takes.enough bytes (Nat.le_of_eq whole.symm)
    refine .inl ⟨whole, v, ?_⟩
    rw [decNumberPlain, check_pass _ whole, ok_bind, read]
    rfl
  · refine .inr ⟨whole, ?_⟩
    rw [decNumberPlain, check_eq_error.mpr ⟨whole, rfl⟩, error_bind]

end FlexRic.E2sm
