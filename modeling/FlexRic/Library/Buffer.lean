import FlexRic.Library.Checked

/-! # Buffers with bounds

A buffer is what was allocated. A copy from it or into it goes through when it
stays inside, and is a failure otherwise.
-/

namespace FlexRic

namespace Buffer

variable {ε : Type*} {α : Type}

/-- Read `n` items from `off` on. -/
def readAt (outside : ε) (buf : List α) (off n : Nat) : Except ε (List α) := do
  check (off + n ≤ buf.length) outside
  pure ((buf.drop off).take n)

/-- Write the items from `off` on. -/
def writeAt (outside : ε) (buf : List α) (off : Nat) (src : List α) : Except ε (List α) := do
  check (off + src.length ≤ buf.length) outside
  pure (buf.take off ++ src ++ buf.drop (off + src.length))

/-- Write one item `n` times from `off` on. -/
def fillAt (outside : ε) (buf : List α) (off n : Nat) (a : α) : Except ε (List α) := do
  check (off + n ≤ buf.length) outside
  writeAt outside buf off (List.replicate n a)

variable (outside : ε) {buf src : List α} {off n : Nat}

theorem readAt_ok (inside : off + n ≤ buf.length) :
    readAt outside buf off n = .ok ((buf.drop off).take n) :=
  bind_eq_ok.mpr ⟨(), check_pass _ inside, rfl⟩

/-- A write that stays inside keeps the length and what is before it. -/
theorem writeAt_ok (inside : off + src.length ≤ buf.length) :
    ∃ buf', writeAt outside buf off src = .ok buf' ∧ buf'.length = buf.length ∧
      buf'.take (off + src.length) = buf.take off ++ src := by
  refine ⟨_, bind_eq_ok.mpr ⟨(), check_pass _ inside, rfl⟩, ?_, ?_⟩
  · simp only [List.length_append, List.length_take, List.length_drop]
    omega
  · rw [List.take_append_of_le_length, List.take_of_length_le]
    all_goals
      simp only [List.length_append, List.length_take]
      omega

theorem fillAt_ok (a : α) (inside : off + n ≤ buf.length) :
    ∃ buf', fillAt outside buf off n a = .ok buf' ∧ buf'.length = buf.length ∧
      buf'.take off = buf.take off := by
  have length := List.length_replicate (a := a) (n := n)
  have inside' : off + (List.replicate n a).length ≤ buf.length := length.symm ▸ inside
  obtain ⟨buf', written, kept, front⟩ := writeAt_ok outside inside'
  refine ⟨buf', bind_eq_ok.mpr ⟨(), check_pass _ inside, written⟩, kept, ?_⟩
  have cut := congrArg (List.take off) front
  rw [List.take_take, Nat.min_eq_left (Nat.le_add_right _ _)] at cut
  rw [cut, List.take_append_of_le_length, List.take_take, Nat.min_self]
  rw [List.length_take]
  omega

theorem writeAt_outside (beyond : buf.length < off + src.length) :
    writeAt outside buf off src = .error outside :=
  bind_eq_error.mpr (.inl (check_eq_error.mpr ⟨Nat.not_le_of_lt beyond, rfl⟩))

end Buffer

end FlexRic
