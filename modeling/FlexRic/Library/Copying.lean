import FlexRic.Library.Translation

/-! # Computations that fail just where they may

What passes and what is given are stated in one place, and put together along the binds.
-/

namespace FlexRic

variable {ε α β : Type} {x : Except ε α} {p q : Prop} {good : α → Prop}

/-- The computation completes just where it passes, and what it then gives is good. -/
structure Yields (x : Except ε α) (passes : Prop) (good : α → Prop) : Prop where
  completes : passes → ∃ a, x = .ok a
  given : ∀ a, x = .ok a → passes ∧ good a

theorem Yields.iff (yields : Yields x p good) (same : p ↔ q) : Yields x q good :=
  ⟨fun passes => yields.completes (same.mpr passes), fun a done =>
    ⟨same.mp (yields.given a done).1, (yields.given a done).2⟩⟩

theorem Yields.imp {better : α → Prop} (yields : Yields x p good)
    (enough : ∀ a, good a → better a) : Yields x p better :=
  ⟨yields.completes, fun a done => (yields.given a done).imp_right (enough a)⟩

theorem Yields.of_pure {a : α} (here : good a) : Yields (pure a : Except ε α) True good := by
  constructor
  · intro _
    exact ⟨a, rfl⟩
  · intro b done
    cases done
    exact ⟨trivial, here⟩

theorem Yields.of_check [Decidable p] {e : ε} : Yields (check p e) p fun _ => p := by
  constructor
  · intro passes
    exact ⟨(), check_pass e passes⟩
  · intro u done
    have passes := check_eq_ok.mp done
    exact ⟨passes, passes⟩

theorem Yields.bind {f : α → Except ε β} {good' : β → Prop} (here : Yields x p good)
    (rest : ∀ a, good a → Yields (f a) q good') : Yields (x >>= f) (p ∧ q) good' := by
  constructor
  · intro passes
    obtain ⟨a, done⟩ := here.completes passes.1
    rw [done, ok_bind]
    exact (rest a (here.given a done).2).completes passes.2
  · intro b done
    obtain ⟨a, first, second⟩ := bind_eq_ok.mp done
    have passes := here.given a first
    have later := (rest a passes.2).given b second
    exact ⟨⟨passes.1, later.1⟩, later.2⟩

theorem Yields.map {f : α → β} {good' : β → Prop} (here : Yields x p good)
    (each : ∀ a, good a → good' (f a)) : Yields (f <$> x) p good' := by
  constructor
  · intro passes
    obtain ⟨a, done⟩ := here.completes passes
    exact ⟨f a, map_eq_ok.mpr ⟨a, done, rfl⟩⟩
  · intro b done
    obtain ⟨a, first, rfl⟩ := map_eq_ok.mp done
    exact (here.given a first).imp_right (each a)

/-- A list is copied item by item. -/
theorem Yields.mapM {f : α → Except ε β} {P : α → Prop} {Good : α → β → Prop} {as : List α}
    (each : ∀ a ∈ as, Yields (f a) (P a) (Good a)) :
    Yields (as.mapM f) (∀ a ∈ as, P a) (List.Forall₂ Good as) := by
  induction as with
  | nil =>
      exact (Yields.of_pure .nil).iff (iff_of_true trivial nofun)
  | cons a as ih =>
      have rest := ih fun b mem => each b (List.mem_cons_of_mem _ mem)
      have here := each a List.mem_cons_self
      rw [List.mapM_cons]
      apply (here.bind fun b first => rest.bind fun bs others => .of_pure (.cons first others)).iff
      rw [List.forall_mem_cons, and_true]

theorem Yields.option {f : α → Except ε β} {P : α → Prop} {Good : α → β → Prop} {o : Option α}
    (each : ∀ a ∈ o, Yields (f a) (P a) (Good a)) :
    Yields (o.mapM f) (∀ a ∈ o, P a) (Option.Rel Good o) := by
  cases o with
  | none => exact (Yields.of_pure .none).iff (iff_of_true trivial nofun)
  | some a =>
      apply ((each a rfl).map fun b here => Option.Rel.some here).iff
      simp

theorem Yields.each {f : α → Except ε PUnit} {P : α → Prop} {as : List α}
    (each : ∀ a ∈ as, Yields (f a) (P a) fun _ => True) :
    Yields (as.forM f) (∀ a ∈ as, P a) fun _ => True := by
  induction as with
  | nil => exact (Yields.of_pure trivial).iff (iff_of_true trivial nofun)
  | cons a as ih =>
      have rest := ih fun b mem => each b (List.mem_cons_of_mem _ mem)
      rw [List.forM_eq_forM, List.forM_cons, List.forall_mem_cons]
      exact (each a List.mem_cons_self).bind fun _ _ => rest

/-- Each item of the second of two related lists has one of the first. -/
theorem related_of_mem {R : α → β → Prop} {as : List α} {bs : List β} {b : β}
    (related : List.Forall₂ R as bs) (mem : b ∈ bs) : ∃ a ∈ as, R a b := by
  induction related with
  | nil => cases mem
  | cons here others ih =>
      rcases List.mem_cons.mp mem with rfl | mem
      · exact ⟨_, List.mem_cons_self, here⟩
      · obtain ⟨a, memA, there⟩ := ih mem
        exact ⟨a, List.mem_cons_of_mem _ memA, there⟩

end FlexRic
