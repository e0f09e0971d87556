import FlexRic.Library.Checked
import Mathlib.Data.List.Forall2

/-! # Comparisons that may abort

A comparison goes from field to field and stops at the first that differs. It tells
whether two values are the same when it completes and answers just that.
-/

namespace FlexRic

variable {ε α β : Type} {r s : Except ε Bool} {p q : Prop}

/-- The comparison completes, and its answer is whether `p` holds. -/
def Tells (r : Except ε Bool) (p : Prop) : Prop := ∃ b, r = .ok b ∧ (b = true ↔ p)

@[simp] theorem tells_ok {b : Bool} : Tells (.ok b : Except ε Bool) p ↔ (b = true ↔ p) := by
  simp [Tells]

@[simp] theorem tells_pure {b : Bool} : Tells (pure b : Except ε Bool) p ↔ (b = true ↔ p) :=
  tells_ok

@[simp] theorem not_tells_error {e : ε} : ¬Tells (.error e) p := by
  simp [Tells]

@[simp] theorem not_tells_throw {e : ε} : ¬Tells (throw e : Except ε Bool) p := not_tells_error

theorem tells_decide [Decidable p] : Tells (pure (decide p) : Except ε Bool) p :=
  tells_pure.mpr decide_eq_true_iff

theorem Tells.iff (tells : Tells r p) (same : p ↔ q) : Tells r q := by
  obtain ⟨b, done, answer⟩ := tells
  exact ⟨b, done, answer.trans same⟩

/-- What a comparison tells is what makes it answer yes. -/
theorem Tells.true_iff (tells : Tells r p) : r = .ok true ↔ p := by
  obtain ⟨b, rfl, answer⟩ := tells
  rw [← answer, Except.ok.injEq]

/-- A comparison that takes the same for the same fails only by its yes, or by no answer. -/
theorem tells_iff_of_complete (complete : p → r = .ok true) : Tells r p ↔ p ∨ r = .ok false := by
  constructor
  · rintro ⟨b, rfl, answer⟩
    cases b with
    | false => exact .inr rfl
    | true => exact .inl (answer.mp rfl)
  · rintro (same | differ)
    · exact ⟨true, complete same, iff_of_true rfl same⟩
    · refine ⟨false, differ, iff_of_false Bool.false_ne_true fun same => ?_⟩
      cases differ.symm.trans (complete same)

/-- The rest is compared only when nothing has differed so far. -/
def both (here rest : Except ε Bool) : Except ε Bool := do
  if ← here then rest else pure false

@[simp] theorem both_ok {b : Bool} :
    both (.ok b) s = if b = true then s else pure false := rfl

@[simp] theorem both_pure {b : Bool} :
    both (pure b) s = if b = true then s else pure false := rfl

@[simp] theorem both_error {e : ε} : both (.error e) s = .error e := rfl

theorem Tells.both (here : Tells r p) (rest : p → Tells s q) : Tells (both r s) (p ∧ q) := by
  obtain ⟨b, rfl, answer⟩ := here
  cases b with
  | false =>
      have differ : ¬p := fun same => Bool.false_ne_true (answer.mpr same)
      exact ⟨false, rfl, iff_of_false Bool.false_ne_true fun same => differ same.1⟩
  | true =>
      have same : p := answer.mp rfl
      exact (rest same).iff (and_iff_right same).symm

theorem both_true_iff : FlexRic.both r s = .ok true ↔ r = .ok true ∧ s = .ok true := by
  cases r with
  | error e => simp [FlexRic.both]
  | ok b => cases b <;> simp [FlexRic.both, pure, Except.pure]

theorem both_false_iff : FlexRic.both r s = .ok false ↔
    r = .ok false ∨ r = .ok true ∧ s = .ok false := by
  cases r with
  | error e => simp [FlexRic.both]
  | ok b => cases b <;> simp [FlexRic.both, pure, Except.pure]

/-- Two lists of one length, whose items are compared one after the other. -/
def eqLst (eq : α → α → Except ε Bool) : List α → List α → Except ε Bool
  | a :: as, b :: bs => do
      let same ← eq a b
      if same then eqLst eq as bs else pure false
  | _, _ => pure true

theorem eqLst_cons {eq : α → α → Except ε Bool} {a b : α} {as bs : List α} :
    eqLst eq (a :: as) (b :: bs) = both (eq a b) (eqLst eq as bs) := rfl

theorem Tells.lst {eq : α → α → Except ε Bool} {Same : α → α → Prop} {as bs : List α}
    (lengths : as.length = bs.length) (each : ∀ a ∈ as, ∀ b ∈ bs, Tells (eq a b) (Same a b)) :
    Tells (eqLst eq as bs) (List.Forall₂ Same as bs) := by
  induction as generalizing bs with
  | nil =>
      cases bs with
      | nil => exact tells_pure.mpr (iff_of_true rfl .nil)
      | cons b bs => cases lengths
  | cons a as ih =>
      cases bs with
      | nil => cases lengths
      | cons b bs =>
          rw [eqLst_cons, List.forall₂_cons]
          apply Tells.both (each a List.mem_cons_self b List.mem_cons_self)
          intro _
          exact ih (Nat.succ.inj lengths) fun a mem b memB =>
            each a (List.mem_cons_of_mem _ mem) b (List.mem_cons_of_mem _ memB)

theorem forall₂_and_iff {T R S : α → α → Prop} {as bs : List α}
    (each : ∀ a ∈ as, ∀ b ∈ bs, T a b ↔ R a b ∧ S a b) :
    List.Forall₂ T as bs ↔ List.Forall₂ R as bs ∧ List.Forall₂ S as bs := by
  induction as generalizing bs with
  | nil => cases bs <;> simp
  | cons a as ih =>
      cases bs with
      | nil => simp
      | cons b bs =>
          have rest := ih fun a mem b memB =>
            each a (List.mem_cons_of_mem _ mem) b (List.mem_cons_of_mem _ memB)
          rw [List.forall₂_cons, List.forall₂_cons, List.forall₂_cons, rest,
            each a List.mem_cons_self b List.mem_cons_self]
          exact and_and_and_comm

/-- The lengths are compared before the items. -/
def eqCounted (eq : α → α → Except ε Bool) (as bs : List α) : Except ε Bool :=
  both (pure (as.length = bs.length)) (eqLst eq as bs)

theorem Tells.counted {eq : α → α → Except ε Bool} {Same : α → α → Prop} {as bs : List α}
    (each : ∀ a ∈ as, ∀ b ∈ bs, Tells (eq a b) (Same a b)) :
    Tells (eqCounted eq as bs) (List.Forall₂ Same as bs) := by
  have lengths : Tells (pure (as.length = bs.length) : Except ε Bool) (as.length = bs.length) :=
    tells_decide
  apply (lengths.both fun same => Tells.lst same each).iff
  exact and_iff_right_of_imp List.Forall₂.length_eq

/-- The items of two lists are compared one after the other by a comparison without an answer. -/
def eachPair (compare : α → α → Except ε Unit) : List α → List α → Except ε Unit
  | a :: as, b :: bs => do
      compare a b
      eachPair compare as bs
  | _, _ => pure ()

theorem eachPair_eq_ok {compare : α → α → Except ε Unit} {Same : α → α → Prop} {as bs : List α}
    {u : Unit} (lengths : as.length = bs.length)
    (each : ∀ a b, compare a b = .ok () ↔ Same a b) :
    eachPair compare as bs = .ok u ↔ List.Forall₂ Same as bs := by
  induction as generalizing bs with
  | nil =>
      cases bs with
      | nil => exact iff_of_true rfl .nil
      | cons b bs => cases lengths
  | cons a as ih =>
      cases bs with
      | nil => cases lengths
      | cons b bs =>
          rw [eachPair, bind_eq_ok, List.forall₂_cons, ← ih (Nat.succ.inj lengths), ← each]
          constructor
          · rintro ⟨_, first, others⟩
            exact ⟨first, others⟩
          · rintro ⟨first, others⟩
            exact ⟨(), first, others⟩

/-- Where both are there, they are the same. -/
def Compatible (o o' : Option α) : Prop := ∀ a ∈ o, ∀ b ∈ o', a = b

theorem Compatible.symm {o o' : Option α} (same : Compatible o o') : Compatible o' o :=
  fun b memB a memA => (same a memA b memB).symm

/-- Both or neither is there besides. -/
theorem eq_iff_compatible {o o' : Option α} :
    o = o' ↔ Compatible o o' ∧ o.isSome = o'.isSome := by
  cases o <;> cases o' <;> simp [Compatible]

/-- Both are there, and they differ. -/
def clash (eq : α → α → Bool) : Option α → Option α → Bool
  | some a, some b => !eq a b
  | _, _ => false

theorem clash_eq_false_iff {eq : α → α → Bool} {o o' : Option α}
    (exact : ∀ a b, eq a b = true ↔ a = b) : clash eq o o' = false ↔ Compatible o o' := by
  cases o <;> cases o' <;> simp [clash, Compatible, exact]

/-- The comparison answers yes just where `yes` holds, and no just where `no` does. -/
structure Answers (r : Except ε Bool) (yes no : Prop) : Prop where
  yes : r = .ok true ↔ yes
  no : r = .ok false ↔ no

/-- A comparison that says no only to what differs is right where it says no, or yes to what
    is the same. -/
theorem Answers.tells_iff {yes no : Prop} (answers : Answers r yes no) (sound : no → ¬p) :
    Tells r p ↔ p ∧ yes ∨ no := by
  constructor
  · rintro ⟨b, done, answer⟩
    cases b with
    | false => exact .inr (answers.no.mp done)
    | true => exact .inl ⟨answer.mp rfl, answers.yes.mp done⟩
  · rintro (⟨same, yes⟩ | no)
    · exact ⟨true, answers.yes.mpr yes, iff_of_true rfl same⟩
    · exact ⟨false, answers.no.mpr no, iff_of_false Bool.false_ne_true (sound no)⟩

/-- So it is when it is known what makes it say yes to what is the same. -/
theorem tells_iff_of_agree {yes no : Prop} (agree : p → (r = .ok true ↔ yes))
    (differ : r = .ok false ↔ no) (sound : no → ¬p) : Tells r p ↔ p ∧ yes ∨ no := by
  constructor
  · rintro ⟨b, done, answer⟩
    cases b with
    | false => exact .inr (differ.mp done)
    | true =>
        have same : p := answer.mp rfl
        exact .inl ⟨same, (agree same).mp done⟩
  · rintro (⟨same, yes⟩ | no)
    · exact ⟨true, (agree same).mpr yes, iff_of_true rfl same⟩
    · exact ⟨false, differ.mpr no, iff_of_false Bool.false_ne_true (sound no)⟩

theorem Answers.iff {yes no yes' no' : Prop} (answers : Answers r yes no) (same : yes ↔ yes')
    (same' : no ↔ no') : Answers r yes' no' :=
  ⟨answers.yes.trans same, answers.no.trans same'⟩

/-- An exact comparison says no where it does not say yes. -/
theorem Tells.answers (tells : Tells r p) : Answers r p (¬p) := by
  obtain ⟨b, rfl, answer⟩ := tells
  constructor
  · rw [Except.ok.injEq, answer]
  · rw [Except.ok.injEq, ← answer, Bool.not_eq_true]

theorem Answers.of_pure {b : Bool} (answer : b = true ↔ p) :
    Answers (pure b : Except ε Bool) p (¬p) := (tells_pure.mpr answer).answers

theorem Answers.of_decide [Decidable p] : Answers (pure (decide p) : Except ε Bool) p (¬p) :=
  .of_pure decide_eq_true_iff

theorem Answers.of_throw {e : ε} : Answers (throw e : Except ε Bool) False False :=
  ⟨⟨nofun, False.elim⟩, ⟨nofun, False.elim⟩⟩

theorem Answers.both {yes no yes' no' : Prop} (here : Answers r yes no)
    (rest : yes → Answers s yes' no') : Answers (both r s) (yes ∧ yes') (no ∨ yes ∧ no') where
  yes := by
    rw [both_true_iff, here.yes]
    exact and_congr_right fun same => (rest same).yes
  no := by
    rw [both_false_iff, here.no, here.yes]
    exact or_congr_right (and_congr_right fun same => (rest same).no)

/-- Neither of two comparisons says no. -/
theorem Answers.both_yes {yes yes' : Prop} (here : Answers r yes False)
    (rest : yes → Answers s yes' False) : Answers (FlexRic.both r s) (yes ∧ yes') False :=
  (here.both rest).iff Iff.rfl (by rw [and_false, or_false])

theorem Answers.mapError {ε' : Type} {yes no : Prop} (answers : Answers r yes no) (f : ε → ε') :
    Answers (r.mapError f) yes no := by
  cases r with
  | error e =>
      exact ⟨⟨nofun, fun same => nomatch answers.yes.mpr same⟩,
        ⟨nofun, fun differ => nomatch answers.no.mpr differ⟩⟩
  | ok b =>
      constructor
      · rw [← answers.yes, mapError_ok, Except.ok.injEq, Except.ok.injEq]
      · rw [← answers.no, mapError_ok, Except.ok.injEq, Except.ok.injEq]

/-- An assertion stands before the answer no. -/
def insist (e : ε) (r : Except ε Bool) : Except ε Bool := do
  if ← r then pure true else throw e

theorem Answers.insist {e : ε} {yes no : Prop} (answers : Answers r yes no) :
    Answers (insist e r) yes False := by
  rw [FlexRic.insist]
  cases r with
  | error e =>
      exact ⟨⟨nofun, fun same => nomatch answers.yes.mpr same⟩, ⟨nofun, False.elim⟩⟩
  | ok b =>
      cases b with
      | false => exact ⟨⟨nofun, fun same => nomatch answers.yes.mpr same⟩, ⟨nofun, False.elim⟩⟩
      | true => exact ⟨iff_of_true rfl (answers.yes.mp rfl), ⟨nofun, False.elim⟩⟩

theorem insist_true_iff {e : ε} : insist e r = .ok true ↔ r = .ok true := by
  rw [insist]
  cases r with
  | error e => exact ⟨nofun, nofun⟩
  | ok b =>
      cases b with
      | false => exact ⟨nofun, nofun⟩
      | true => exact Iff.rfl

theorem eqLst_true_iff {eq : α → α → Except ε Bool} {Same : α → α → Prop} {as bs : List α}
    (lengths : as.length = bs.length)
    (each : ∀ a ∈ as, ∀ b ∈ bs, eq a b = .ok true ↔ Same a b) :
    eqLst eq as bs = .ok true ↔ List.Forall₂ Same as bs := by
  induction as generalizing bs with
  | nil =>
      cases bs with
      | nil => exact iff_of_true rfl .nil
      | cons b bs => cases lengths
  | cons a as ih =>
      cases bs with
      | nil => cases lengths
      | cons b bs =>
          have rest := ih (Nat.succ.inj lengths) fun a mem b memB =>
            each a (List.mem_cons_of_mem _ mem) b (List.mem_cons_of_mem _ memB)
          rw [eqLst_cons, both_true_iff, List.forall₂_cons, rest,
            each a List.mem_cons_self b List.mem_cons_self]

theorem eqCounted_true_iff {eq : α → α → Except ε Bool} {Same : α → α → Prop} {as bs : List α}
    (each : ∀ a ∈ as, ∀ b ∈ bs, eq a b = .ok true ↔ Same a b) :
    eqCounted eq as bs = .ok true ↔ List.Forall₂ Same as bs := by
  rw [eqCounted, both_true_iff, pure_eq_ok, decide_eq_true_iff]
  constructor
  · intro same
    exact (eqLst_true_iff same.1 each).mp same.2
  · intro same
    exact ⟨same.length_eq, (eqLst_true_iff same.length_eq each).mpr same⟩

/-- The items are taken for the same when they are, and the first of each pair is as it
    should be. -/
theorem eqLst_kept_iff {eq : α → α → Except ε Bool} {Same : α → α → Prop} {Kept : α → Prop}
    {as bs : List α} (lengths : as.length = bs.length)
    (each : ∀ a ∈ as, ∀ b ∈ bs, eq a b = .ok true ↔ Same a b ∧ Kept a) :
    eqLst eq as bs = .ok true ↔ List.Forall₂ Same as bs ∧ ∀ a ∈ as, Kept a := by
  rw [eqLst_true_iff lengths each, and_comm, ← List.forall₂_and_left]
  exact ⟨List.Forall₂.imp fun _ _ => And.symm, List.Forall₂.imp fun _ _ => And.symm⟩

theorem eqCounted_kept_iff {eq : α → α → Except ε Bool} {Same : α → α → Prop} {Kept : α → Prop}
    {as bs : List α} (each : ∀ a ∈ as, ∀ b ∈ bs, eq a b = .ok true ↔ Same a b ∧ Kept a) :
    eqCounted eq as bs = .ok true ↔ List.Forall₂ Same as bs ∧ ∀ a ∈ as, Kept a := by
  rw [eqCounted, both_true_iff, pure_eq_ok, decide_eq_true_iff]
  constructor
  · intro same
    exact (eqLst_kept_iff same.1 each).mp same.2
  · intro same
    exact ⟨same.1.length_eq, (eqLst_kept_iff same.1.length_eq each).mpr same⟩

/-- Of two lists that are the same only the items of the first matter. -/
theorem eqLst_same_iff {eq : α → α → Except ε Bool} {Same : α → α → Prop} {Kept : α → Prop}
    {as bs : List α} (same : List.Forall₂ Same as bs)
    (each : ∀ a b, Same a b → (eq a b = .ok true ↔ Kept a)) :
    eqLst eq as bs = .ok true ↔ ∀ a ∈ as, Kept a := by
  induction same with
  | nil => exact iff_of_true rfl nofun
  | cons first rest ih =>
      rw [eqLst_cons, both_true_iff, List.forall_mem_cons, each _ _ first, ih]

theorem eqCounted_same_iff {eq : α → α → Except ε Bool} {Same : α → α → Prop} {Kept : α → Prop}
    {as bs : List α} (same : List.Forall₂ Same as bs)
    (each : ∀ a b, Same a b → (eq a b = .ok true ↔ Kept a)) :
    eqCounted eq as bs = .ok true ↔ ∀ a ∈ as, Kept a := by
  rw [eqCounted, both_true_iff, pure_eq_ok, decide_eq_true_iff, eqLst_same_iff same each]
  exact and_iff_right same.length_eq

/-- So it is of a list and itself. -/
theorem eqCounted_self_iff {eq : α → α → Except ε Bool} {Kept : α → Prop} {as : List α}
    (each : ∀ a, eq a a = .ok true ↔ Kept a) :
    eqCounted eq as as = .ok true ↔ ∀ a ∈ as, Kept a := by
  have same : List.Forall₂ Eq as as := List.forall₂_same.mpr fun _ _ => rfl
  apply eqCounted_same_iff same
  rintro a _ rfl
  exact each a

/-- Of the first pair that is not taken for the same it is said that it differs. -/
def FirstDiffers (Yes No : α → α → Prop) : List α → List α → Prop
  | a :: as, b :: bs => No a b ∨ Yes a b ∧ FirstDiffers Yes No as bs
  | _, _ => False

/-- Where it differs the lists are not the same. -/
theorem FirstDiffers.sound {Yes No Same : α → α → Prop} (each : ∀ a b, No a b → ¬Same a b)
    {as bs : List α} (differs : FirstDiffers Yes No as bs) : ¬List.Forall₂ Same as bs := by
  induction as generalizing bs with
  | nil => exact differs.elim
  | cons a as ih =>
      cases bs with
      | nil => exact differs.elim
      | cons b bs =>
          intro same
          rw [List.forall₂_cons] at same
          rcases differs with here | ⟨-, later⟩
          · exact each a b here same.1
          · exact ih later same.2

theorem Answers.lst {eq : α → α → Except ε Bool} {Yes No : α → α → Prop} {as bs : List α}
    (lengths : as.length = bs.length)
    (each : ∀ a ∈ as, ∀ b ∈ bs, Answers (eq a b) (Yes a b) (No a b)) :
    Answers (eqLst eq as bs) (List.Forall₂ Yes as bs) (FirstDiffers Yes No as bs) := by
  induction as generalizing bs with
  | nil =>
      cases bs with
      | nil => exact ⟨iff_of_true rfl .nil, ⟨nofun, False.elim⟩⟩
      | cons b bs => cases lengths
  | cons a as ih =>
      cases bs with
      | nil => cases lengths
      | cons b bs =>
          have here := each a List.mem_cons_self b List.mem_cons_self
          have rest := ih (Nat.succ.inj lengths) fun a mem b memB =>
            each a (List.mem_cons_of_mem _ mem) b (List.mem_cons_of_mem _ memB)
          rw [eqLst_cons]
          exact (here.both fun _ => rest).iff List.forall₂_cons.symm Iff.rfl

theorem not_firstDiffers {Yes : α → α → Prop} {as bs : List α} :
    ¬FirstDiffers Yes (fun _ _ => False) as bs := by
  induction as generalizing bs with
  | nil => exact id
  | cons a as ih =>
      cases bs with
      | nil => exact id
      | cons b bs => exact fun differs => differs.elim id fun rest => ih rest.2

/-- Nor is a list of items that are never said to differ. -/
theorem Answers.lst_yes {eq : α → α → Except ε Bool} {Yes : α → α → Prop} {as bs : List α}
    (lengths : as.length = bs.length)
    (each : ∀ a ∈ as, ∀ b ∈ bs, Answers (eq a b) (Yes a b) False) :
    Answers (eqLst eq as bs) (List.Forall₂ Yes as bs) False :=
  (Answers.lst lengths each).iff Iff.rfl (iff_of_false not_firstDiffers id)

/-- Two lists are said to differ, by their lengths or by their items. -/
def ListApart (Yes No : α → α → Prop) (as bs : List α) : Prop :=
  as.length ≠ bs.length ∨ as.length = bs.length ∧ FirstDiffers Yes No as bs

theorem ListApart.sound {Yes No Same : α → α → Prop} (each : ∀ a b, No a b → ¬Same a b)
    {as bs : List α} (apart : ListApart Yes No as bs) : ¬List.Forall₂ Same as bs := by
  rcases apart with lengths | ⟨-, differs⟩
  · exact fun same => lengths same.length_eq
  · exact differs.sound each

theorem Answers.counted {eq : α → α → Except ε Bool} {Yes No : α → α → Prop} {as bs : List α}
    (each : ∀ a ∈ as, ∀ b ∈ bs, Answers (eq a b) (Yes a b) (No a b)) :
    Answers (eqCounted eq as bs) (List.Forall₂ Yes as bs) (ListApart Yes No as bs) := by
  rw [eqCounted]
  by_cases lengths : as.length = bs.length
  · exact ((Answers.of_decide (p := as.length = bs.length)).both fun _ => .lst lengths each).iff
      (and_iff_right lengths) Iff.rfl
  · have differ : FlexRic.both (pure (as.length = bs.length)) (eqLst eq as bs) = .ok false := by
      rw [both_pure, decide_eq_false lengths]
      rfl
    rw [differ]
    exact ⟨⟨nofun, fun same => absurd same.length_eq lengths⟩, iff_of_true rfl (.inl lengths)⟩

/-- As many items as the first list has are read of both. -/
def eqUpTo (outside : ε) (eq : α → α → Except ε Bool) : List α → List α → Except ε Bool
  | [], _ => pure true
  | _ :: _, [] => throw outside
  | a :: as, b :: bs => both (eq a b) (eqUpTo outside eq as bs)

theorem Answers.upTo {outside : ε} {eq : α → α → Except ε Bool} {Yes No : α → α → Prop}
    {as bs : List α} (each : ∀ a ∈ as, ∀ b ∈ bs, Answers (eq a b) (Yes a b) (No a b)) :
    Answers (eqUpTo outside eq as bs) (List.Forall₂ Yes as (bs.take as.length))
      (FirstDiffers Yes No as bs) := by
  induction as generalizing bs with
  | nil => exact ⟨iff_of_true rfl .nil, ⟨nofun, False.elim⟩⟩
  | cons a as ih =>
      cases bs with
      | nil => exact ⟨⟨nofun, nofun⟩, ⟨nofun, False.elim⟩⟩
      | cons b bs =>
          have here := each a List.mem_cons_self b List.mem_cons_self
          have rest := ih fun a mem b memB =>
            each a (List.mem_cons_of_mem _ mem) b (List.mem_cons_of_mem _ memB)
          rw [eqUpTo]
          apply (here.both fun _ => rest).iff ?_ Iff.rfl
          rw [List.length_cons, List.take_succ_cons, List.forall₂_cons]

theorem eqUpTo_same_iff {outside : ε} {eq : α → α → Except ε Bool} {Same : α → α → Prop}
    {Kept : α → Prop} {as bs : List α} (same : List.Forall₂ Same as bs)
    (each : ∀ a b, Same a b → (eq a b = .ok true ↔ Kept a)) :
    eqUpTo outside eq as bs = .ok true ↔ ∀ a ∈ as, Kept a := by
  induction same with
  | nil => exact iff_of_true rfl nofun
  | cons first rest ih =>
      rw [eqUpTo, both_true_iff, List.forall_mem_cons, each _ _ first, ih]

theorem eqUpTo_self_iff {outside : ε} {eq : α → α → Except ε Bool} {Kept : α → Prop}
    {as : List α} (each : ∀ a, eq a a = .ok true ↔ Kept a) :
    eqUpTo outside eq as as = .ok true ↔ ∀ a ∈ as, Kept a := by
  have same : List.Forall₂ Eq as as := List.forall₂_same.mpr fun _ _ => rfl
  apply eqUpTo_same_iff same
  rintro a _ rfl
  exact each a

theorem insist_ne_false {e : ε} : insist e r ≠ .ok false := by
  rw [insist]
  cases r with
  | error e => nofun
  | ok b => cases b <;> nofun

theorem eqLst_ne_false {eq : α → α → Except ε Bool} (never : ∀ a b, eq a b ≠ .ok false)
    (as bs : List α) : eqLst eq as bs ≠ .ok false := by
  induction as generalizing bs with
  | nil => cases bs <;> nofun
  | cons a as ih =>
      cases bs with
      | nil => nofun
      | cons b bs =>
          rw [eqLst_cons, ne_eq, both_false_iff]
          exact fun differ => differ.elim (never a b) fun later => ih bs later.2

/-- Only the lengths are then said to differ. -/
theorem eqCounted_false_iff {eq : α → α → Except ε Bool} {as bs : List α}
    (never : ∀ a b, eq a b ≠ .ok false) :
    eqCounted eq as bs = .ok false ↔ as.length ≠ bs.length := by
  rw [eqCounted, both_false_iff, pure_eq_ok, decide_eq_false_iff_not]
  exact or_iff_left fun later => eqLst_ne_false never as bs later.2

theorem eqUpTo_ne_false {outside : ε} {eq : α → α → Except ε Bool}
    (never : ∀ a b, eq a b ≠ .ok false) (as bs : List α) :
    eqUpTo outside eq as bs ≠ .ok false := by
  induction as generalizing bs with
  | nil => nofun
  | cons a as ih =>
      cases bs with
      | nil => nofun
      | cons b bs =>
          rw [eqUpTo, ne_eq, both_false_iff]
          exact fun differ => differ.elim (never a b) fun later => ih bs later.2

/-- A field that is compared first says no, or what follows does. -/
theorem both_decide_false_iff [Decidable p] :
    FlexRic.both (pure (decide p)) s = .ok false ↔ ¬p ∨ s = .ok false := by
  by_cases here : p
  · simp [here]
  · simp [here, pure, Except.pure]

/-- Two pointers: both are null, or neither is and they point to the same. -/
def eqPtr (eq : α → α → Except ε Bool) : Option α → Option α → Except ε Bool
  | none, none => pure true
  | some a, some b => eq a b
  | _, _ => pure false

theorem Tells.ptr {eq : α → α → Except ε Bool} {Same : α → α → Prop} {o o' : Option α}
    (each : ∀ a ∈ o, ∀ b ∈ o', Tells (eq a b) (Same a b)) :
    Tells (eqPtr eq o o') (Option.Rel Same o o') := by
  cases o with
  | none =>
      cases o' with
      | none => exact tells_pure.mpr (iff_of_true rfl .none)
      | some b => exact tells_pure.mpr (iff_of_false nofun nofun)
  | some a =>
      cases o' with
      | none => exact tells_pure.mpr (iff_of_false nofun nofun)
      | some b => exact (each a rfl b rfl).iff Option.rel_some_some.symm

/-- What is the same as nothing is nothing. -/
theorem none_of_rel {Same : α → α → Prop} {o o' : Option α} (rel : Option.Rel Same o o')
    (here : o = none) : o' = none := by
  cases rel with
  | some _ => cases here
  | none => rfl

theorem Answers.ptr {eq : α → α → Except ε Bool} {Yes No : α → α → Prop} {o o' : Option α}
    (each : ∀ a ∈ o, ∀ b ∈ o', Answers (eq a b) (Yes a b) (No a b)) :
    Answers (eqPtr eq o o') (Option.Rel Yes o o')
      (o.isSome ≠ o'.isSome ∨ ∃ a ∈ o, ∃ b ∈ o', No a b) := by
  cases o with
  | none =>
      cases o' with
      | none => exact ⟨iff_of_true rfl .none, ⟨nofun, by simp⟩⟩
      | some b => exact ⟨⟨nofun, nofun⟩, iff_of_true rfl (.inl nofun)⟩
  | some a =>
      cases o' with
      | none => exact ⟨⟨nofun, nofun⟩, iff_of_true rfl (.inl nofun)⟩
      | some b =>
          have here := each a rfl b rfl
          exact here.iff (by simp) (by simp)

end FlexRic
