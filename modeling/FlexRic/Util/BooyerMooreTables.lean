import FlexRic.Library.GoodSuffix
import FlexRic.Util.BooyerMoore

/-! # The tables of the search

The first table holds last occurrences, the second the least good shifts. Both loops of the
second walk along borders, from the widest on.
-/

namespace FlexRic.BooyerMoore

open Word

/-- The needle is short enough for tables of type `int`. -/
def Text.Short (needle : Text) : Prop := needle.len + 1 < 2 ^ 31

theorem asInt_eq {v : Nat} (small : v < 2 ^ 31) : asInt v = v := by
  have same : v % 2 ^ 32 = v := Nat.mod_eq_of_lt (small.trans (by decide))
  rw [asInt, same, if_pos small]

theorem subSize_eq {a b : Nat} (le : b ≤ a) (small : a < 2 ^ 64) : subSize a b = a - b := by
  rw [subSize]
  omega

theorem subSize_minusOne {a : Nat} (small : a < 2 ^ 63) : subSize a minusOne = a + 1 := by
  rw [subSize, minusOne]
  omega

variable {needle : Text}

/-- What the first table holds for a character among the first `n`. -/
inductive LastAmong (needle : Text) (n : Nat) (c : Char7) (v : Nat) : Prop where
  | last : v < n → needle.char v = c → (∀ y < n, needle.char y = c → y ≤ v) →
      LastAmong needle n c v
  | never : (∀ y < n, needle.char y ≠ c) → v = minusOne → LastAmong needle n c v

theorem preProcessDelta1_last (short : needle.Short) (c : Char7) :
    LastAmong needle needle.len c (preProcessDelta1 needle c) := by
  have first (n : Nat) (le : n ≤ needle.len) : LastAmong needle n c
      (((List.range n).foldl (fun arr i => Function.update arr (needle.char i) (asInt i))
        fun _ => minusOne) c) := by
    induction n with
    | zero => exact .never nofun rfl
    | succ n ih =>
        rw [List.range_succ, List.foldl_append, List.foldl_cons, List.foldl_nil]
        have fits : n < 2 ^ 31 := by
          rw [Text.Short] at short
          omega
        by_cases here : needle.char n = c
        · subst here
          rw [Function.update_self, asInt_eq fits]
          exact .last (Nat.lt_succ_self n) rfl fun y lt _ => Nat.le_of_lt_succ lt
        · rw [Function.update_of_ne (Ne.symm here)]
          cases ih (Nat.le_of_succ_le le) with
          | last lt occurs last =>
              refine .last (Nat.lt_succ_of_lt lt) occurs fun y lt same => ?_
              obtain below | rfl := Nat.lt_succ_iff_lt_or_eq.mp lt
              · exact last y below same
              · exact absurd same here
          | never never value =>
              refine .never (fun y lt => ?_) value
              obtain below | rfl := Nat.lt_succ_iff_lt_or_eq.mp lt
              · exact never y below
              · exact here
  exact first needle.len le_rfl

/-- What the second table holds at `p` after the suffixes from `x₀` on: the move of the last
    broken border among them, or nothing yet. -/
inductive Filled (needle : Text) (x₀ p v : Nat) : Prop where
  | empty : (∀ x, x₀ ≤ x → ¬Broken needle.char needle.len x p) → v = 0 → Filled needle x₀ p v
  | last {x : Nat} : x₀ ≤ x → Broken needle.char needle.len x p →
      (∀ x', Broken needle.char needle.len x' p → x' ≤ x) → v = p - x → Filled needle x₀ p v

variable {x p v : Nat}

/-- What is filled stays. -/
theorem Filled.of_ne_zero (filled : Filled needle (x + 1) p v) (nonzero : v ≠ 0) :
    Filled needle x p v := by
  cases filled with
  | empty _ zero => exact absurd zero nonzero
  | last later broken last value => exact .last (Nat.le_of_succ_le later) broken last value

theorem Filled.of_not_broken (filled : Filled needle (x + 1) p v)
    (unbroken : ¬Broken needle.char needle.len x p) : Filled needle x p v := by
  cases filled with
  | last later broken last value => exact .last (Nat.le_of_succ_le later) broken last value
  | empty none zero =>
      refine .empty (fun x' from_x => ?_) zero
      obtain rfl | later := Nat.eq_or_lt_of_le from_x
      · exact unbroken
      · exact none x' later

theorem Filled.none_of_zero (filled : Filled needle x p 0) :
    ∀ x', x ≤ x' → ¬Broken needle.char needle.len x' p := by
  cases filled with
  | empty none => exact none
  | last _ broken _ value =>
      have := broken.border.lt
      omega

/-- What was nothing yet is filled by a broken border. -/
theorem Filled.fill (filled : Filled needle (x + 1) p 0)
    (broken : Broken needle.char needle.len x p) : Filled needle x p (p - x) := by
  refine .last le_rfl broken (fun x' broken' => ?_) rfl
  by_contra later
  exact filled.none_of_zero x' (by omega) broken'

/-- A border that is broken off behind a border that is not broken off is broken off there. -/
theorem broken_of_unbroken {j : Nat} (border : Border needle.char needle.len x j)
    (same : needle.char (x - 1) = needle.char (j - 1)) (lt : j < p)
    (broken : Broken needle.char needle.len x p) : Broken needle.char needle.len j p where
  positive := Nat.zero_lt_of_lt border.lt
  border := border.of_both broken.border lt
  differs := same ▸ broken.differs

/-- Where the walk over the borders of the suffix from `x` on has come to `j`. -/
structure Walk (needle : Text) (x j : Nat) (shift : Nat → Nat) : Prop where
  le : j ≤ needle.len + 1
  border : Border needle.char needle.len x j
  passed : ∀ q, Border needle.char needle.len x q → q < j →
    needle.char (x - 1) ≠ needle.char (q - 1)
  done : ∀ p, p ≤ needle.len → p < j → Filled needle x p (shift p)
  todo : ∀ p, p ≤ needle.len → j ≤ p → Filled needle (x + 1) p (shift p)

/-- The widest borders of the suffixes from `x` on. -/
def Widest (needle : Text) (x : Nat) (pattern : Nat → Nat) : Prop :=
  ∀ y, x ≤ y → y ≤ needle.len → WidestBorder needle.char needle.len y (pattern y)

theorem fillAt_of_ne {shift : Nat → Nat} {j : Nat} (other : p ≠ j) (v : Nat) :
    fillAt shift j v p = shift p := by
  rw [fillAt]
  split
  · exact Function.update_of_ne other _ _
  · rfl

theorem fillAt_self {shift : Nat → Nat} {j v : Nat} (small : v < 2 ^ 31) :
    fillAt shift j v j = if shift j = 0 then v else shift j := by
  rw [fillAt]
  split
  · rw [Function.update_self, asInt_eq small]
  · rfl

theorem Walk.next {j : Nat} {shift pattern : Nat → Nat} (short : needle.Short) (positive : 0 < x)
    (widest : Widest needle x pattern) (walk : Walk needle x j shift) (inside : j < needle.len + 1)
    (differs : needle.char (x - 1) ≠ needle.char (j - 1)) :
    Walk needle x (pattern j) (fillAt shift j (subSize j x)) := by
  rw [Text.Short] at short
  have moves := walk.border.lt
  have broken : Broken needle.char needle.len x j := ⟨positive, walk.border, differs⟩
  have next := widest j moves.le (by omega)
  have further := next.border.lt
  have between (q : Nat) (border : Border needle.char needle.len x q) (lt : q < pattern j) :
      q ≤ j := by
    by_contra later
    have := next.least q (walk.border.of_both border (by omega))
    omega
  have entry : Filled needle x j (fillAt shift j (subSize j x) j) := by
    have old := walk.todo j (by omega) le_rfl
    rw [subSize_eq moves.le (by omega), fillAt_self (by omega)]
    split
    case isTrue zero => exact (zero ▸ old).fill broken
    case isFalse nonzero => exact old.of_ne_zero nonzero
  refine ⟨?_, walk.border.trans next.border, fun q border lt => ?_, fun p le lt => ?_,
    fun p le later => ?_⟩
  · exact next.least _ (border_behind inside (Nat.le_succ _))
  · obtain lt | rfl := Nat.lt_or_eq_of_le (between q border lt)
    · exact walk.passed q border lt
    · exact differs
  · obtain earlier | rfl | later := Nat.lt_trichotomy p j
    · rw [fillAt_of_ne earlier.ne]
      exact walk.done p le earlier
    · exact entry
    · rw [fillAt_of_ne later.ne']
      apply (walk.todo p le later.le).of_not_broken
      intro broken
      have := between p broken.border lt
      omega
  · rw [fillAt_of_ne (by omega)]
    exact walk.todo p le (by omega)

/-- The walk has come to its end. -/
def Ended (needle : Text) (x j : Nat) : Prop :=
  ¬(j < needle.len + 1 ∧ needle.char (x - 1) ≠ needle.char (j - 1))

theorem slide_ends {shift pattern : Nat → Nat} (short : needle.Short) (positive : 0 < x)
    (widest : Widest needle x pattern) {fuel j : Nat} (enough : needle.len + 1 - j < fuel)
    (walk : Walk needle x j shift) :
    ∃ j' shift', slide needle pattern x fuel j shift = some (j', shift') ∧
      Walk needle x j' shift' ∧ Ended needle x j' := by
  induction fuel generalizing j shift with
  | zero => exact absurd enough (Nat.not_lt_zero _)
  | succ fuel ih =>
      rw [slide]
      split
      case isTrue more =>
          have next := walk.next short positive widest more.1 more.2
          have further := (widest j walk.border.lt.le (by omega)).border.lt
          exact ih (by omega) next
      case isFalse ended => exact ⟨j, shift, rfl, walk, ended⟩

/-- Where the walk ends, the widest border of the next suffix begins one place earlier. -/
theorem Walk.widest {j : Nat} {shift : Nat → Nat} (walk : Walk needle (x + 1) j shift)
    (ended : Ended needle (x + 1) j) : WidestBorder needle.char needle.len x (j - 1) := by
  have moves := walk.border.lt
  obtain ⟨k, rfl⟩ : ∃ k, j = k + 1 := ⟨j - 1, by omega⟩
  rw [Nat.add_sub_cancel]
  constructor
  · refine border_iff_succ.mpr ⟨walk.border, fun inside => ?_⟩
    by_contra differs
    exact ended ⟨by omega, differs⟩
  · intro q border
    obtain ⟨longer, first⟩ := border_iff_succ.mp border
    by_contra earlier
    have le := walk.le
    exact walk.passed (q + 1) longer (by omega) (first (by omega))

theorem Walk.filled {j : Nat} {shift : Nat → Nat} (walk : Walk needle x j shift)
    (ended : Ended needle x j) (le : p ≤ needle.len) : Filled needle x p (shift p) := by
  by_cases before : p < j
  · exact walk.done p le before
  have later : j ≤ p := by omega
  have same : needle.char (x - 1) = needle.char (j - 1) := by
    by_contra differs
    exact ended ⟨by omega, differs⟩
  have old := walk.todo p le later
  by_cases broken : Broken needle.char needle.len x p
  · obtain rfl | lt := Nat.eq_or_lt_of_le later
    · exact absurd same broken.differs
    · apply old.of_ne_zero
      intro zero
      rw [zero] at old
      exact old.none_of_zero j walk.border.lt (broken_of_unbroken walk.border same lt broken)
  · exact old.of_not_broken broken

theorem fillPattern_ends {fuel i j : Nat} {shift pattern : Nat → Nat} (short : needle.Short)
    (enough : needle.len + 1 < fuel) (le : i ≤ needle.len)
    (border : WidestBorder needle.char needle.len i j) (widest : Widest needle i pattern)
    (filled : ∀ p ≤ needle.len, Filled needle (i + 1) p (shift p)) :
    ∃ shift' pattern', fillPattern needle fuel i j shift pattern = some (shift', pattern') ∧
      Widest needle 0 pattern' ∧ ∀ p ≤ needle.len, Filled needle 1 p (shift' p) := by
  induction i generalizing j shift pattern with
  | zero => exact ⟨shift, pattern, rfl, widest, filled⟩
  | succ i ih =>
      have most := border.least _ (border_behind (by omega) (Nat.le_succ needle.len))
      have walk : Walk needle (i + 1) j shift := by
        refine ⟨most, border.border, fun q other lt => ?_, fun p le lt => ?_,
          fun p le _ => filled p le⟩
        · exact absurd (border.least q other) (by omega)
        · apply (filled p le).of_not_broken
          intro broken
          exact absurd (border.least p broken.border) (by omega)
      have turns : needle.len + 1 - j < fuel := by omega
      obtain ⟨j', shift', slid, walk', ended⟩ :=
        slide_ends short (Nat.succ_pos i) widest turns walk
      have next := walk'.widest ended
      have moves := walk'.border.lt
      have last := walk'.le
      rw [Text.Short] at short
      have down : subSize j' 1 = j' - 1 := subSize_eq (by omega) (by omega)
      have stored : asInt (j' - 1) = j' - 1 := asInt_eq (by omega)
      rw [fillPattern, slid]
      change ∃ _ _, fillPattern needle fuel i (subSize j' 1) shift'
        (Function.update pattern i (asInt (subSize j' 1))) = _ ∧ _
      rw [down, stored]
      apply ih (by omega) next
      · intro y from_i inside
        obtain rfl | later := Nat.eq_or_lt_of_le from_i
        · rw [Function.update_self]
          exact next
        · rw [Function.update_of_ne later.ne']
          exact widest y later inside
      · intro p le
        exact walk'.filled ended le

/-- The first border of the whole needle that begins at `p` or later. -/
structure LeastWhole (needle : Text) (p q : Nat) : Prop where
  border : Border needle.char needle.len 0 q
  behind : p ≤ q
  least : ∀ q', Border needle.char needle.len 0 q' → p ≤ q' → q ≤ q'

theorem fillShift_spec {pattern shift : Nat → Nat} {rest i j : Nat} (short : needle.Short)
    (widest : Widest needle 0 pattern) (nonempty : 0 < needle.len)
    (count : i + rest = needle.len + 1) (whole : LeastWhole needle i j) :
    (∀ p < i, fillShift pattern rest i j shift p = shift p) ∧
    ∀ p, i ≤ p → p ≤ needle.len →
      (shift p ≠ 0 → fillShift pattern rest i j shift p = shift p) ∧
      (shift p = 0 → LeastWhole needle p (fillShift pattern rest i j shift p)) := by
  induction rest generalizing i j shift with
  | zero =>
      refine ⟨fun _ _ => rfl, fun p from_i le => ?_⟩
      omega
  | succ rest ih =>
      have inside := whole.least needle.len (border_behind nonempty le_rfl) (by omega)
      rw [Text.Short] at short
      have next : LeastWhole needle (i + 1) (if j = i then pattern j else j) := by
        split
        case isTrue same =>
            subst same
            have narrower := widest j (Nat.zero_le j) inside
            refine ⟨whole.border.trans narrower.border, narrower.border.lt,
              fun q border later => ?_⟩
            exact narrower.least q (whole.border.of_both border later)
        case isFalse other =>
            have behind := whole.behind
            exact ⟨whole.border, by omega, fun q border later =>
              whole.least q border (Nat.le_of_succ_le later)⟩
      obtain ⟨before, behind⟩ := @ih (fillAt shift i j) (i + 1) _ (by omega) next
      rw [fillShift]
      constructor
      · intro p lt
        rw [before p (by omega), fillAt_of_ne lt.ne]
      · intro p from_i le
        obtain rfl | later := Nat.eq_or_lt_of_le from_i
        · rw [before i (Nat.lt_succ_self i), fillAt_self (by omega)]
          split
          case isTrue zero => exact ⟨fun nonzero => absurd zero nonzero, fun _ => whole⟩
          case isFalse nonzero => exact ⟨fun _ => rfl, fun zero => absurd zero nonzero⟩
        · have rest := behind p later le
          rwa [fillAt_of_ne later.ne'] at rest

/-- The empty border is the only one behind the needle. -/
theorem widestBorder_end : WidestBorder needle.char needle.len needle.len (needle.len + 1) :=
  ⟨border_behind (Nat.lt_succ_self _) (Nat.le_succ _), fun _ border => border.lt⟩

/-- The second table holds the least good shifts. -/
theorem preProcessDelta2_ends {fuel : Nat} (short : needle.Short) (nonempty : 0 < needle.len)
    (enough : needle.len + 1 < fuel) :
    ∃ d2, preProcessDelta2 fuel needle = some d2 ∧
      ∀ j < needle.len, LeastGoodShift needle.char needle.len j (d2 (j + 1)) := by
  have start : Widest needle needle.len
      (Function.update (fun _ => 0) needle.len (asInt (needle.len + 1))) := by
    intro y from_len le
    obtain rfl := Nat.le_antisymm le from_len
    rw [Function.update_self, asInt_eq short]
    exact widestBorder_end
  have zeros (p : Nat) (le : p ≤ needle.len) : Filled needle (needle.len + 1) p 0 := by
    refine .empty (fun x behind broken => ?_) rfl
    have := broken.border.lt
    omega
  obtain ⟨shift, pattern, filled, widest, first⟩ :=
    fillPattern_ends short enough le_rfl widestBorder_end start zeros
  have whole : LeastWhole needle 0 (pattern 0) := by
    have border := widest 0 le_rfl (Nat.zero_le _)
    exact ⟨border.border, Nat.zero_le _, fun q other _ => border.least q other⟩
  obtain ⟨-, second⟩ :=
    @fillShift_spec needle pattern shift (needle.len + 1) 0 _ short widest nonempty (by omega) whole
  refine ⟨fillShift pattern (needle.len + 1) 0 (pattern 0) shift, ?_, fun j inside => ?_⟩
  · rw [preProcessDelta2, filled]
    rfl
  · obtain ⟨kept, border⟩ := second (j + 1) (Nat.zero_le _) inside
    cases first (j + 1) inside with
    | empty none zero =>
        have last := border zero
        apply leastGoodShift_of_border (fun x broken => ?_) last.border last.behind last.least
        exact none x broken.positive broken
    | last _ broken last value =>
        have moves := broken.border.lt
        rw [kept (by omega), value]
        exact leastGoodShift_of_broken broken last

end FlexRic.BooyerMoore
