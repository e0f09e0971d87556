import FlexRic.Util.SeqArr

/-! # Runs of a sequence array

Users push elements of the one size and erase between two iterators, and expect
a list. They get it as long as byte counts fit an `int`, the allocator has the blocks
that are asked for, elements that need a larger buffer have a size, and no erasure
shrinks the array while its elements are longer than the halved capacity.
-/

namespace FlexRic

inductive SeqArrEvent where
  | pushBack (value : List UInt8)
  | erase (start stop : Nat)

namespace SeqArr

def Enabled (arr : SeqArr) : SeqArrEvent → Prop
  | .pushBack value => value.length = arr.eltSize
  | .erase start stop => start ≤ stop ∧ stop ≤ arr.size

instance (arr : SeqArr) : (e : SeqArrEvent) → Decidable (arr.Enabled e)
  | .pushBack _ => inferInstanceAs (Decidable (_ = _))
  | .erase .. => inferInstanceAs (Decidable (_ ∧ _))

def step (limit : Nat) (junk : UInt8) (arr : SeqArr) :
    SeqArrEvent → Except SeqArrFailure (SeqArr × Unit)
  | .pushBack value => do
      let arr ← arr.pushBack limit junk value
      pure (arr, ())
  | .erase start stop => do
      let arr ← arr.erase limit start stop
      pure (arr, ())

/-- From an array that was set up; a reallocation leaves this byte in what it adds. -/
def machine (limit : Nat) (created : SeqArr) (junk : UInt8) :
    Machine SeqArr SeqArrEvent SeqArrFailure Unit where
  init := created
  enabled := Enabled
  step := step limit junk

instance (limit : Nat) (created : SeqArr) (junk : UInt8) (arr : SeqArr) (e : SeqArrEvent) :
    Decidable ((machine limit created junk).enabled arr e) :=
  inferInstanceAs (Decidable (arr.Enabled e))

/-- What an operation does to a list. -/
def apply (elems : List (List UInt8)) : SeqArrEvent → List (List UInt8)
  | .pushBack value => elems ++ [value]
  | .erase start stop => elems.take start ++ elems.drop stop

/-- The list that a history leaves. -/
def contents (h : List (Entry SeqArr SeqArrEvent Unit)) : List (List UInt8) :=
  h.foldr (fun x elems => apply elems x.event) []

/-- The bytes that an erasure counts fit an `int`. -/
def IntsFit (arr : SeqArr) : SeqArrEvent → Prop
  | .pushBack _ => True
  | .erase start stop => start < stop → arr.Counted start stop

/-- What is erased has bytes. -/
def Sized (arr : SeqArr) : SeqArrEvent → Prop
  | .pushBack _ => True
  | .erase start stop => start < stop → 0 < arr.eltSize

/-- What a new buffer needs. Where a push expands the array, elements have a size and there
    is a doubled buffer; where an erasure shrinks it, elements are no longer than the halved
    capacity and there is a buffer of its square. -/
def Resizes (limit : Nat) (arr : SeqArr) : SeqArrEvent → Prop
  | .pushBack _ => arr.Expandable limit
  | .erase start stop => start < stop → Sparse (arr.size - (stop - start)) arr.cap →
      arr.eltSize ≤ arr.cap / 2 ∧ arr.cap / 2 * (arr.cap / 2) ≤ limit

/-- The condition on the operations of a run. -/
def Fits (limit : Nat) (arr : SeqArr) (e : SeqArrEvent) : Prop :=
  arr.IntsFit e ∧ arr.Sized e ∧ arr.Resizes limit e

instance (arr : SeqArr) (start stop : Nat) : Decidable (arr.Counted start stop) :=
  inferInstanceAs (Decidable (_ ∧ _))

instance (limit : Nat) (arr : SeqArr) : (e : SeqArrEvent) → Decidable (arr.Fits limit e)
  | .pushBack _ => inferInstanceAs (Decidable (True ∧ True ∧ (_ → _)))
  | .erase .. => inferInstanceAs (Decidable ((_ → _) ∧ (_ → _) ∧ (_ → _ → _)))

/-- An operation goes through, does what it would do to a list, and leaves a
    buffer as large as the capacity says. -/
def Served (limit : Nat) (junk : UInt8) (arr : SeqArr) (elems : List (List UInt8))
    (e : SeqArrEvent) : Prop :=
  ∃ arr', arr.step limit junk e = .ok (arr', ()) ∧ arr'.Holds (apply elems e) ∧
    arr'.cap * arr'.eltSize ≤ arr'.data.length

variable {limit : Nat} {created arr arr' : SeqArr} {elems : List (List UInt8)} {junk : UInt8}
  {eltSize : Nat} {e : SeqArrEvent} {h : List (Entry SeqArr SeqArrEvent Unit)}

/-- What an operation that fits does. -/
theorem step_ok (sound : arr.Sound) (holds : arr.Holds elems) (enabled : arr.Enabled e)
    (fits : arr.Fits limit e) (junk : UInt8) :
    ∃ arr', arr.step limit junk e = .ok (arr', ()) ∧ arr'.Sound ∧ arr'.Holds (apply elems e) ∧
      arr'.eltSize = arr.eltSize := by
  cases e with
  | pushBack value =>
      obtain ⟨arr', pushed, sound', holds', same⟩ := pushBack_ok sound holds enabled fits.2.2 junk
      exact ⟨arr', bind_eq_ok.mpr ⟨arr', pushed, rfl⟩, sound', holds', same⟩
  | erase start stop =>
      obtain ⟨le, inside⟩ := enabled
      rcases Nat.eq_or_lt_of_le le with rfl | range
      · have nothing : arr.erase limit start start = .ok arr := by
          simp [erase, check]
        refine ⟨arr, bind_eq_ok.mpr ⟨arr, nothing, rfl⟩, sound, ?_, rfl⟩
        rw [apply, List.take_append_drop]
        exact holds
      · obtain ⟨left, erased, sound', holds', size, width, cap⟩ :=
          erase_eq limit sound holds range inside (fits.2.1 range) (fits.1 range)
        obtain ⟨arr', shrunk, sound'', holds'', same⟩ := maybeShrink_ok sound' holds'
          (by rw [size, width, cap]; exact fits.2.2 range)
        exact ⟨arr', bind_eq_ok.mpr ⟨arr', erased.trans shrunk, rfl⟩, sound'', holds'',
          same.trans width⟩

/-- Of elements without bytes an erasure takes none. -/
theorem Sized.of_served (holds : arr.Holds elems) (enabled : arr.Enabled e)
    (served : Served limit junk arr elems e) : arr.Sized e := by
  obtain ⟨arr', moved, holds', -⟩ := served
  cases e with
  | pushBack value => trivial
  | erase start stop =>
      intro range
      by_contra none
      have nothing : arr.erase limit start stop = .ok arr := by
        simp [erase, Nat.eq_zero_of_not_pos none, check]
      simp only [step, nothing, ok_bind, pure_eq_ok, Prod.mk.injEq, and_true] at moved
      subst moved
      have left := holds.count.symm.trans holds'.count
      have inside := holds.count ▸ enabled.2
      simp only [apply, List.length_append, List.length_take, List.length_drop] at left
      omega

/-- A push that is not given a buffer ends the process, and an erasure that shrinks too far
    leaves less than the capacity says, if anything. -/
theorem Resizes.of_served (sound : arr.Sound) (holds : arr.Holds elems)
    (enabled : arr.Enabled e) (fit : arr.IntsFit e) (sized : arr.Sized e)
    (served : Served limit junk arr elems e) : arr.Resizes limit e := by
  obtain ⟨arr', moved, -, allocated⟩ := served
  cases e with
  | pushBack value =>
      simp only [step, pushBack, bind_eq_ok] at moved
      obtain ⟨_, ⟨_, -, grown, expanded, -⟩, -⟩ := moved
      exact .of_ok sound expanded
  | erase start stop =>
      intro range sparse
      obtain ⟨left, erased, -, -, size, width, cap⟩ :=
        erase_eq limit sound holds range enabled.2 (sized range) (fit range)
      simp only [step, erased, bind_eq_ok, pure_eq_ok, Prod.mk.injEq, and_true] at moved
      obtain ⟨_, shrunk, rfl⟩ := moved
      rw [← size, ← cap] at sparse
      obtain ⟨cap', width', length, given⟩ := maybeShrink_sparse sparse shrunk
      rw [cap', width', length, width, cap] at allocated
      have half : 0 < arr.cap / 2 := by
        have large := sparse.le_half.1
        rw [cap, minSize] at large
        omega
      exact ⟨Nat.le_of_mul_le_mul_left allocated half, cap ▸ given⟩

/-- What a run keeps whose operations all fit. -/
structure Kept (eltSize : Nat) (arr : SeqArr) (h : List (Entry SeqArr SeqArrEvent Unit)) :
    Prop where
  sound : arr.Sound
  holds : arr.Holds (contents h)
  width : arr.eltSize = eltSize

theorem kept_created (set_up : init limit eltSize = .ok created) : Kept eltSize created [] := by
  obtain ⟨sound, holds, width, -, -⟩ := init_ok set_up
  exact ⟨sound, holds, width⟩

theorem kept_run (set_up : init limit eltSize = .ok created)
    (run : (machine limit created junk).Run arr h) (meets : Machine.Meets (Fits limit) h) :
    Kept eltSize arr h := by
  induction run with
  | start => exact kept_created set_up
  | next _ enabled moved ih =>
      obtain ⟨here, earlier⟩ := Machine.meets_cons.mp meets
      have kept := ih earlier
      obtain ⟨_, goes, sound, holds, same⟩ :=
        step_ok kept.sound kept.holds enabled here junk
      cases goes.symm.trans moved
      exact ⟨sound, holds, same.trans kept.width⟩

/-- Along a run whose operations all fit, the array is the list of its history in a
    buffer as large as the capacity says; and the next operation, its byte counts
    fitting, keeps that up just when what it erases has bytes and it gets the buffer that
    it needs. -/
theorem refines_list (set_up : init limit eltSize = .ok created)
    (run : (machine limit created junk).Run arr h) (meets : Machine.Meets (Fits limit) h) :
    arr.Holds (contents h) ∧ arr.eltSize = eltSize ∧ arr.cap * eltSize ≤ arr.data.length ∧
      ∀ e, arr.Enabled e → arr.IntsFit e →
        (Served limit junk arr (contents h) e ↔ arr.Sized e ∧ arr.Resizes limit e) := by
  have kept := kept_run set_up run meets
  refine ⟨kept.holds, kept.width, kept.width ▸ kept.sound.allocated, fun e enabled fit => ?_⟩
  constructor
  · intro served
    have sized := Sized.of_served kept.holds enabled served
    exact ⟨sized, .of_served kept.sound kept.holds enabled fit sized served⟩
  · rintro ⟨sized, resizes⟩
    obtain ⟨arr', goes, sound, holds, -⟩ :=
      step_ok kept.sound kept.holds enabled ⟨fit, sized, resizes⟩ junk
    exact ⟨arr', goes, holds, sound.allocated⟩

/-- The largest block of a 64-bit system. -/
def ptrdiffMax : Nat := 2 ^ 63 - 1

def ofWords : SeqArr := ⟨List.replicate 16 0, 0, 2, 8⟩

/-- Nine words, of which the first two are erased again. -/
def nineWords : List SeqArrEvent :=
  (List.range 9).map (fun i => .pushBack [0, i.toUInt8]) ++ [.erase 0 2]

theorem refines_list_nineWords :
    let reached := (machine ptrdiffMax ofWords 0).replay nineWords
    reached.1.Holds (contents reached.2) ∧ reached.1.eltSize = 2 ∧
      reached.1.cap * 2 ≤ reached.1.data.length ∧
      ∀ e, reached.1.Enabled e → reached.1.IntsFit e →
        (Served ptrdiffMax 0 reached.1 (contents reached.2) e ↔
          reached.1.Sized e ∧ reached.1.Resizes ptrdiffMax e) :=
  refines_list rfl ((machine ptrdiffMax ofWords 0).run_replay nineWords) (by decide +kernel)

/-- Pushes alone leave an array that is not too large for its elements. -/
theorem exists_pushes (set_up : init limit eltSize = .ok created) (positive : 0 < eltSize)
    (n : Nat) (room : (4 * n + 16) * eltSize ≤ limit) :
    ∃ arr h, (machine limit created 0).Run arr h ∧ Kept eltSize arr h ∧ arr.size = n ∧
      (arr.cap = minSize ∨ arr.cap ≤ 2 * n) := by
  induction n with
  | zero =>
      obtain ⟨-, -, -, size, cap⟩ := init_ok set_up
      exact ⟨_, [], .start, kept_created set_up, size, .inl cap⟩
  | succ n ih =>
      have less : (4 * n + 16) * eltSize ≤ (4 * (n + 1) + 16) * eltSize :=
        Nat.mul_le_mul_right _ (by omega)
      obtain ⟨arr, h, run, kept, size, small⟩ := ih (Nat.le_trans less room)
      have value : (List.replicate eltSize (7 : UInt8)).length = arr.eltSize := by
        rw [List.length_replicate, kept.width]
      have expandable : arr.Expandable limit := by
        intro full
        have base : minSize = 8 := rfl
        have twice : 2 * arr.cap ≤ 4 * n + 16 := by omega
        rw [kept.width]
        exact ⟨positive, Nat.le_trans (Nat.mul_le_mul_right _ twice) (Nat.le_trans less room)⟩
      obtain ⟨arr', pushed, sound, holds, same⟩ :=
        pushBack_ok kept.sound kept.holds value expandable 0
      have goes : arr.step limit 0 (.pushBack (List.replicate eltSize 7)) = .ok (arr', ()) :=
        bind_eq_ok.mpr ⟨arr', pushed, rfl⟩
      have next : (machine limit created 0).Run arr'
          (⟨arr, .pushBack (List.replicate eltSize 7), (), arr'⟩ :: h) :=
        run.next value goes
      obtain ⟨more, grown⟩ := cap_pushBack pushed
      refine ⟨arr', _, next, ⟨sound, holds, same.trans kept.width⟩, by rw [more, size], ?_⟩
      omega

/-- Erasing all but ten of 32 elements copies 1040 bytes to a buffer of 1024. -/
theorem erase_overruns (set_up : init ptrdiffMax 104 = .ok created) :
    ∃ arr h, (machine ptrdiffMax created 0).Run arr h ∧ arr.Enabled (.erase 0 22) ∧
      arr.step ptrdiffMax 0 (.erase 0 22) = .error .outOfBounds := by
  obtain ⟨arr, h, run, kept, size, small⟩ := exists_pushes set_up (by decide) 32 (by decide)
  have room := kept.sound.room
  obtain ⟨k, doubled⟩ := kept.sound.doubled
  have base : minSize = 8 := rfl
  rw [base] at doubled
  have cap : arr.cap = 64 := by
    have few : k < 4 := by
      rw [← Nat.pow_lt_pow_iff_right (a := 2) (by omega)]
      omega
    have many : 2 < k := by
      rw [← Nat.pow_lt_pow_iff_right (a := 2) (by omega)]
      omega
    rw [doubled, show k = 3 by omega]
    rfl
  have enabled : arr.Enabled (.erase 0 22) := ⟨by omega, by omega⟩
  refine ⟨arr, h, run, enabled, ?_⟩
  have counted : arr.Counted 0 22 := by
    rw [Counted, size, kept.width]
    omega
  obtain ⟨left, erased, sound, -, size', width, cap'⟩ :=
    erase_eq ptrdiffMax kept.sound kept.holds (by omega) enabled.2
      (by rw [kept.width]; omega) counted
  have sparse : Sparse left.size left.cap := by
    rw [size', cap', size, cap]
    decide
  have given : left.cap / 2 * (left.cap / 2) ≤ ptrdiffMax := by
    rw [cap', cap]
    decide
  have overruns := maybeShrink_overruns sound sparse given (by
    rw [size', cap', width, size, cap, kept.width]
    omega)
  exact bind_eq_error.mpr (.inl (erased.trans overruns))

def ofLong : SeqArr := ⟨List.replicate (8 * 104) 0, 0, 104, 8⟩

def ofEmpty : SeqArr := ⟨[], 0, 0, 8⟩

/-- Erasing all but ten of 32 elements of 104 bytes runs over the new buffer, and of elements
    without bytes the eighth push ends the process. -/
theorem shrink_overruns :
    (init ptrdiffMax 104 = .ok ofLong ∧ ∃ arr h, (machine ptrdiffMax ofLong 0).Run arr h ∧
      arr.Enabled (.erase 0 22) ∧ arr.step ptrdiffMax 0 (.erase 0 22) = .error .outOfBounds) ∧
    init ptrdiffMax 0 = .ok ofEmpty ∧
      let reached := (machine ptrdiffMax ofEmpty 0).replay (List.replicate 7 (.pushBack []))
      reached.1.size = 7 ∧ reached.1.Enabled (.pushBack []) ∧
        reached.1.step ptrdiffMax 0 (.pushBack []) = .error .memory := by
  have set_up : init ptrdiffMax 104 = .ok ofLong := rfl
  exact ⟨⟨set_up, erase_overruns set_up⟩, rfl, rfl, rfl, rfl⟩

end SeqArr

end FlexRic
