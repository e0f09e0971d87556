import FlexRic.Util.SeqRing

/-! # Runs of a ring sequence

Users push elements at the back, erase some at the front and ask how far apart
two iterators are. They expect a queue.
-/

namespace FlexRic

/-- Iterators are given by the steps that lead to them from the front. -/
inductive SeqRingEvent (α : Type) where
  | pushBack (data : α)
  | erase (n : Nat)
  | dist (first last : Nat)

namespace SeqRing

variable {α : Type}

/-- The last iterator is reached from the first one before the end is passed. -/
def Enabled (r : SeqRing α) : SeqRingEvent α → Prop
  | .pushBack _ => True
  | .erase n => n ≤ r.size
  | .dist first last => first ≤ last ∧ last ≤ r.size

instance (r : SeqRing α) : (e : SeqRingEvent α) → Decidable (r.Enabled e)
  | .pushBack _ => .isTrue trivial
  | .erase _ => inferInstanceAs (Decidable (_ ≤ _))
  | .dist .. => inferInstanceAs (Decidable (_ ∧ _))

/-- An operation, with the distance that it returns. -/
def step [Inhabited α] (r : SeqRing α) :
    SeqRingEvent α → Except SeqRingFailure (SeqRing α × Option Int)
  | .pushBack data => do
      let r ← r.pushBack data
      pure (r, none)
  | .erase n => do
      let r ← r.erase r.front (r.position n)
      pure (r, none)
  | .dist first last => do
      let d ← r.dist (r.position first) (r.position last)
      pure (r, some d)

/-- A ring of elements of this size. -/
def machine (α : Type) [Inhabited α] (eltSize : Nat) :
    Machine (SeqRing α) (SeqRingEvent α) SeqRingFailure (Option Int) where
  init := .init defaultElm eltSize
  enabled := Enabled
  step := step

instance [Inhabited α] (eltSize : Nat) (r : SeqRing α) (e : SeqRingEvent α) :
    Decidable ((machine α eltSize).enabled r e) :=
  inferInstanceAs (Decidable (r.Enabled e))

/-- What an operation does to a queue. -/
def apply (elems : List α) : SeqRingEvent α → List α
  | .pushBack data => elems ++ [data]
  | .erase n => elems.drop n
  | .dist .. => elems

/-- What it returns. -/
def answer : SeqRingEvent α → Option Int
  | .pushBack _ | .erase _ => none
  | .dist first last => some (last - first : Nat)

/-- The queue that a history leaves. -/
def contents (h : List (Entry (SeqRing α) (SeqRingEvent α) (Option Int))) : List α :=
  h.foldr (fun x elems => apply elems x.event) []

/-- The ring is the queue: it counts the elements, the loop from front to end visits
    each in order, and so does the access by position. -/
structure Refines (r : SeqRing α) (elems : List α) : Prop where
  size : r.size = elems.length
  walk : r.walk = .ok elems
  position : ∀ i, (short : i < elems.length) → r.deref (r.position i) = .ok elems[i]

/-- An operation goes through, returns what it should, and leaves the queue that it should. -/
def Served [Inhabited α] (r : SeqRing α) (elems : List α) (e : SeqRingEvent α) : Prop :=
  ∃ r', r.step e = .ok (r', answer e) ∧ r'.Refines (apply elems e)

/-- Elements have a size, and a ring of as many slots as a counter has values leaves
    the last of them alone; iterators differ, unless the ring is that large, and are
    less than `2 ^ 31` steps apart. -/
def Fits (r : SeqRing α) : SeqRingEvent α → Prop
  | .pushBack _ => r.eltSize ≠ 0 ∧ r.Room
  | .erase _ => True
  | .dist first last => (first = last → r.cap = 2 ^ 32) ∧ last - first < 2 ^ 31

instance (r : SeqRing α) : (e : SeqRingEvent α) → Decidable (r.Fits e)
  | .pushBack _ => inferInstanceAs (Decidable (_ ∧ (_ → _)))
  | .erase _ => .isTrue trivial
  | .dist .. => inferInstanceAs (Decidable ((_ → _) ∧ _))

variable [Inhabited α] {r r' : SeqRing α} {elems : List α} {eltSize : Nat} {e : SeqRingEvent α}
  {h : List (Entry (SeqRing α) (SeqRingEvent α) (Option Int))}

/-- The slots hold the queue of the history. Elements of no size are never pushed. -/
structure Kept (eltSize : Nat) (r : SeqRing α) (elems : List α) : Prop where
  holds : r.Holds elems
  width : r.eltSize = eltSize
  sized : r.cap ≠ defaultElm ∨ elems ≠ [] → r.eltSize ≠ 0

omit [Inhabited α] in
theorem Kept.refines (kept : Kept eltSize r elems) : r.Refines elems where
  size := kept.holds.size_eq
  walk := kept.holds.walk_eq fun some_ => kept.sized (.inr some_)
  position i short := by
    have sized := kept.sized (.inr (List.ne_nil_of_length_pos (by omega)))
    rw [kept.holds.position_eq, kept.holds.deref_slot sized short]

/-- What an operation that fits does. -/
theorem Kept.step (kept : Kept eltSize r elems) (enabled : r.Enabled e) (fits : r.Fits e) :
    ∃ r', r.step e = .ok (r', answer e) ∧ Kept eltSize r' (apply elems e) := by
  cases e with
  | pushBack data =>
      obtain ⟨sized, more⟩ := fits
      obtain ⟨r', pushed, holds, same⟩ := kept.holds.pushBack more data
      refine ⟨r', bind_eq_ok.mpr ⟨r', pushed, rfl⟩, holds, same.trans kept.width, fun _ => ?_⟩
      rwa [same]
  | erase n =>
      have le : n ≤ elems.length := kept.holds.size_eq ▸ enabled
      obtain ⟨r', erased, holds, same, cap⟩ :=
        kept.holds.erase le fun some_ => kept.sized (.inr some_)
      refine ⟨r', bind_eq_ok.mpr ⟨r', erased, rfl⟩, holds, same.trans kept.width, ?_⟩
      rw [same, cap]
      exact fun grown => kept.sized (grown.imp_right fun left none_ => left (by
        rw [apply, none_, List.drop_nil]))
  | dist first last =>
      obtain ⟨le, inside⟩ := enabled
      rw [kept.holds.size_eq] at inside
      obtain ⟨apart, near⟩ := fits
      have sized : r.eltSize ≠ 0 := by
        apply kept.sized
        rcases Nat.eq_or_lt_of_le le with same | less
        · exact .inl (by rw [apart same]; decide)
        · exact .inr (List.ne_nil_of_length_pos (by omega))
      have measured := kept.holds.dist_eq sized le inside
      have right : toInt32 (if first = last then r.cap else last - first) =
          ((last - first : Nat) : Int) := by
        split
        · rw [apart ‹_›, ‹first = last›, Nat.sub_self]
          decide
        · exact toInt32_eq near
      rw [right] at measured
      exact ⟨r, bind_eq_ok.mpr ⟨_, measured, rfl⟩, kept⟩

theorem kept_run (run : (machine α eltSize).Run r h) (meets : Machine.Meets Fits h) :
    Kept eltSize r (contents h) := by
  induction run with
  | start =>
      exact ⟨Holds.init (k := 5) (by omega) (by omega) eltSize, rfl, fun grown =>
        grown.elim (fun differ => absurd rfl differ) fun some_ => absurd rfl some_⟩
  | next _ enabled moved ih =>
      obtain ⟨here, earlier⟩ := Machine.meets_cons.mp meets
      obtain ⟨_, goes, kept⟩ := (ih earlier).step enabled here
      cases goes.symm.trans moved
      exact kept

/-- An operation that does not fit is not served. -/
theorem Kept.fits (kept : Kept eltSize r elems) (enabled : r.Enabled e)
    (served : Served r elems e) : r.Fits e := by
  obtain ⟨r', moved, refines⟩ := served
  cases e with
  | pushBack data =>
      obtain ⟨_, pushed, done⟩ := bind_eq_ok.mp moved
      cases pure_eq_ok.mp done
      have sized : r.eltSize ≠ 0 := by
        intro none_
        have empty := refines.walk.symm.trans
          (walk_of_no_size ((pushBack_eltSize pushed).trans none_))
        cases elems <;> cases empty
      refine ⟨sized, fun all => ?_⟩
      by_contra last
      rcases kept.holds.pushBack_last all last sized pushed with gone | lost
      · have counted := refines.size.symm.trans gone
        rw [apply, List.length_append, List.length_singleton] at counted
        omega
      · exact lost _ refines.walk
  | erase n => trivial
  | dist first last =>
      obtain ⟨le, inside⟩ := enabled
      rw [kept.holds.size_eq] at inside
      obtain ⟨d, measured, done⟩ := bind_eq_ok.mp moved
      cases pure_eq_ok.mp done
      have sized : r.eltSize ≠ 0 := by
        obtain ⟨_, read, -⟩ := bind_eq_ok.mp measured
        obtain ⟨_, checked, -⟩ := bind_eq_ok.mp read
        exact check_eq_ok.mp checked
      have value := measured.symm.trans (kept.holds.dist_eq sized le inside)
      rw [Except.ok.injEq] at value
      have small := toInt32_lt (if first = last then r.cap else last - first)
      rw [← value] at small
      refine ⟨fun same => ?_, by omega⟩
      by_contra less
      have half := kept.holds.cap_le_half less
      have positive := kept.holds.one_lt_cap
      rw [if_pos same, same, Nat.sub_self] at value
      rcases Nat.eq_or_lt_of_le half with top | below
      · rw [top] at value
        revert value
        decide
      · rw [toInt32_eq below] at value
        omega

/-- Along a run whose operations all fit, the ring is the queue of its history; and
    the next operation is served just when it fits. -/
theorem refines_queue_iff (run : (machine α eltSize).Run r h)
    (meets : Machine.Meets Fits h) :
    r.Refines (contents h) ∧
      ∀ e, r.Enabled e → (Served r (contents h) e ↔ r.Fits e) := by
  have kept := kept_run run meets
  refine ⟨kept.refines, fun e enabled => ⟨kept.fits enabled, fun fits => ?_⟩⟩
  obtain ⟨r', goes, kept'⟩ := kept.step enabled fits
  exact ⟨r', goes, kept'.refines⟩

/-- Enough pushes to enlarge the buffer while the elements go around in it. -/
def aroundAndOn : List (SeqRingEvent Nat) :=
  (List.range 20).map .pushBack ++ [.erase 12, .dist 1 3] ++
    (List.range 30).map .pushBack ++ [.dist 2 35, .erase 30]

theorem refines_queue_iff_aroundAndOn :
    let reached := (machine Nat 8).replay aroundAndOn
    reached.1.Refines (contents reached.2) ∧
      ∀ e, reached.1.Enabled e → (Served reached.1 (contents reached.2) e ↔ reached.1.Fits e) :=
  refines_queue_iff ((machine Nat 8).run_replay aroundAndOn) (by decide +kernel)

/-- On the empty ring the end is 32 steps from the front. -/
theorem empty_ring_dist :
    (machine Nat 8).Run (init defaultElm 8) [] ∧
      (init defaultElm 8 : SeqRing Nat).Enabled (.dist 0 0) ∧
      (init defaultElm 8 : SeqRing Nat).dist (init defaultElm 8 : SeqRing Nat).front
        (init defaultElm 8 : SeqRing Nat).stop = .ok 32 ∧
      ¬Served (init defaultElm 8 : SeqRing Nat) [] (.dist 0 0) := by
  refine ⟨.start, by decide, by decide, ?_⟩
  intro served
  obtain ⟨_, moved, -⟩ := served
  obtain ⟨d, measured, done⟩ := bind_eq_ok.mp moved
  cases pure_eq_ok.mp done
  exact absurd measured (by decide)

end SeqRing

end FlexRic
