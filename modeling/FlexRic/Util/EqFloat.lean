import FlexRic.Library.Comparison

/-! # Floating-point numbers up to a tolerance

A field of type `float` is its four bytes. Numbers that differ little are taken for the
same; one that is not a number stops the process.
-/

namespace FlexRic

/-- Why a comparison or a copy ends the process. -/
inductive Abort where
  /-- `isnan(a) == false` -/
  | notANumber
  /-- `0!=0` next to a `return false`, and `ret != false` -/
  | differ
  /-- `src->active == 0 || src->active == 1` -/
  | active
  /-- a copy that is not equal to what was copied -/
  | copy
  /-- an alternative of a union that is not the one that was written -/
  | otherMember
  | notImplemented
  | bound
  /-- a null pointer that is read -/
  | null
  deriving DecidableEq, Repr

/-- `assert(0!=0)` before what would return false. -/
def orAbort (r : Except Abort Bool) : Except Abort Unit := do
  if ← r then pure () else throw .differ

@[simp] theorem orAbort_eq_ok {r : Except Abort Bool} {u : Unit} :
    orAbort r = .ok u ↔ r = .ok true := by
  cases r with
  | error e => simp [orAbort]
  | ok b => cases b <;> simp [orAbort, throw, throwThe, MonadExceptOf.throw]

/-- `FLT_MIN`, the least `float` that is normal. -/
def fltMin : Float := Float.ofBits 0x3810000000000000

/-- The difference of two numbers next to their size. Sums and differences are of type `float`,
    the rest is of type `double`. -/
def near (a b : Float32) (eps : Float) : Bool :=
  let diff := (a - b).toFloat.abs
  if a == 0 || b == 0 || diff < fltMin then diff < eps * fltMin
  else diff / (a.abs + b.abs).toFloat < eps

def eqFloat (a b : Float32) (eps : Float) : Except Abort Bool := do
  check (a.isNaN = false) .notANumber
  check (b.isNaN = false) .notANumber
  check (eps.isNaN = false) .notANumber
  if a == b then pure true else pure (near a b eps)

/-- Both are numbers, and they are equal or near each other. -/
structure Close (eps : Float) (a b : Float32) : Prop where
  here : a.isNaN = false
  there : b.isNaN = false
  near : (a == b) = true ∨ near a b eps = true

theorem compare_unpacked_self (a : Float.Model.UnpackedFloat) (number : a.isNaN = false) :
    a.compare a = some .eq := by
  cases a with
  | notANumber => cases number
  | infinity s => cases s <;> rfl
  | zero s => rfl
  | finite s m e =>
      have same : (compare e e).then (compare m m) = .eq := by simp
      cases s with
      | positive => exact congrArg some same
      | negative => exact congrArg (fun o => some (Ordering.swap o)) same

/-- A number is equal to itself. -/
theorem float_beq_self {a : Float32} (number : a.isNaN = false) : (a == a) = true := by
  change (a.toModel.unpack.compare a.toModel.unpack == some .eq) = true
  rw [compare_unpacked_self _ number]
  rfl

/-- Not so one that is not a number. -/
theorem float_beq_self_iff {a : Float32} : (a == a) = true ↔ a.isNaN = false := by
  constructor
  · intro same
    change (a.toModel.unpack.compare a.toModel.unpack == some .eq) = true at same
    change a.toModel.unpack.isNaN = false
    cases unpacked : a.toModel.unpack with
    | notANumber =>
        rw [unpacked] at same
        cases same
    | infinity | zero | finite => rfl
  · exact float_beq_self

/-- A `double` is equal to itself just when it is a number. -/
theorem double_beq_self_iff {a : Float} : (a == a) = true ↔ a.isNaN = false := by
  change (a.toModel.unpack.compare a.toModel.unpack == some .eq) = true ↔
    a.toModel.unpack.isNaN = false
  cases unpacked : a.toModel.unpack with
  | notANumber => exact ⟨nofun, nofun⟩
  | _ => exact iff_of_true (by rw [compare_unpacked_self _ rfl]; rfl) rfl

/-- What is equal to something is a number. -/
theorem number_of_double_beq {a b : Float} (same : (a == b) = true) :
    a.isNaN = false ∧ b.isNaN = false := by
  change (a.toModel.unpack.compare b.toModel.unpack == some .eq) = true at same
  change a.toModel.unpack.isNaN = false ∧ b.toModel.unpack.isNaN = false
  cases here : a.toModel.unpack with
  | notANumber =>
      rw [here] at same
      cases same
  | _ =>
      cases there : b.toModel.unpack with
      | notANumber =>
          rw [here, there] at same
          cases same
      | _ => exact ⟨rfl, rfl⟩

theorem sub_unpacked_self (a : Float.Model.UnpackedFloat) :
    a.sub .binary64 a = .notANumber ∨ a.sub .binary64 a = .zero .positive := by
  cases a with
  | notANumber => exact .inl rfl
  | infinity s => cases s <;> exact .inl rfl
  | zero s => cases s <;> exact .inr rfl
  | finite s m e =>
      right
      exact congrArg (fun mantissa => Float.Model.UnpackedFloat.normalize .binary64 mantissa
        (min e e) .positive) (Int.sub_self _)

/-- `0.0001f`, as a `double`. -/
def tolerance : Float := Float.ofBits 0x3F1A36E2E0000000

/-- Nothing is further from itself than the tolerance, be it a number or not. -/
theorem not_far_self (a : Float) : ¬tolerance < (a - a).abs := by
  have same : a - a = .ofModel (.pack (a.toModel.unpack.sub .binary64 a.toModel.unpack)) := rfl
  rcases sub_unpacked_self a.toModel.unpack with none_ | zero
  · rw [same, none_]
    decide +kernel
  · rw [same, zero]
    decide +kernel

/-- The four bytes of a `float` that is a number. -/
def IsNumber (bits : UInt32) : Prop := (Float32.ofBits bits).isNaN = false

variable {eps : Float} {a b : Float32}

theorem eqFloat_true_iff (constant : eps.isNaN = false) :
    eqFloat a b eps = .ok true ↔ Close eps a b := by
  simp only [eqFloat, bind_eq_ok, check_eq_ok]
  constructor
  · rintro ⟨_, here, _, there, _, -, answer⟩
    refine ⟨here, there, ?_⟩
    split at answer
    case isTrue same => exact .inl same
    case isFalse => exact .inr (pure_eq_ok.mp answer)
  · rintro ⟨here, there, same | nearby⟩
    · exact ⟨(), here, (), there, (), constant, by rw [if_pos same]; rfl⟩
    · refine ⟨(), here, (), there, (), constant, ?_⟩
      split
      · rfl
      · exact congrArg Except.ok nearby

theorem eqFloat_self_iff (constant : eps.isNaN = false) :
    eqFloat a a eps = .ok true ↔ a.isNaN = false := by
  rw [eqFloat_true_iff constant]
  constructor
  · exact Close.here
  · intro number
    exact ⟨number, number, .inl (float_beq_self number)⟩

end FlexRic
