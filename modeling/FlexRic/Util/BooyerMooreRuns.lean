import FlexRic.Util.BooyerMooreTables

/-! # Where the search ends

A window that does not match is followed by one further to the right, and no occurrence is
skipped, as long as the place that is looked at moves further than the suffix that did match
is long. When it does not, the search comes back for ever.
-/

namespace FlexRic.BooyerMoore

open Word

/-- What the two tables hold. -/
structure Tables (needle : Text) (d1 : Char7 → Nat) (d2 : Nat → Nat) : Prop where
  last : ∀ c, LastAmong needle needle.len c (d1 c)
  good : ∀ j < needle.len, LeastGoodShift needle.char needle.len j (d2 (j + 1))

variable {needle haystack : Text} {d1 : Char7 → Nat} {d2 : Nat → Nat} {p q w : Place}

/-- A character that occurs is moved at most over its occurrence. -/
theorem Tables.shift1_le (tables : Tables needle d1 d2) {c : Char7} {y : Nat}
    (inside : y < needle.len) (occurs : needle.char y = c) :
    subSize (needle.len - 1) (d1 c) + y < needle.len := by
  have fits : needle.len < 2 ^ 63 := needle.fits
  cases tables.last c with
  | last lt _ last =>
      have := last y inside occurs
      rw [subSize_eq (by omega) (by omega)]
      omega
  | never never => exact absurd occurs (never y inside)

theorem Tables.shift1_le_len (tables : Tables needle d1 d2) (c : Char7)
    (nonempty : 0 < needle.len) : subSize (needle.len - 1) (d1 c) ≤ needle.len := by
  have fits : needle.len < 2 ^ 63 := needle.fits
  cases tables.last c with
  | last lt =>
      rw [subSize_eq (by omega) (by omega)]
      omega
  | never _ value =>
      rw [value, subSize_minusOne (by omega)]
      omega

/-- A short move is one over an occurrence. -/
theorem Tables.occurs_of_shift1 (tables : Tables needle d1 d2) {c : Char7} {j : Nat}
    (short : subSize (needle.len - 1) (d1 c) + j < needle.len) :
    ∃ y, j ≤ y ∧ y < needle.len ∧ needle.char y = c := by
  have fits : needle.len < 2 ^ 63 := needle.fits
  cases tables.last c with
  | last lt occurs =>
      rw [subSize_eq (by omega) (by omega)] at short
      exact ⟨d1 c, by omega, lt, occurs⟩
  | never _ value =>
      rw [value, subSize_minusOne (by omega)] at short
      omega

theorem shiftAt_le_iff {n : Nat} :
    shiftAt d1 d2 needle haystack p ≤ n ↔
      0 < n ∧ subSize (needle.len - 1) (d1 (haystack.char p.i)) ≤ n ∧ d2 (p.j + 1) ≤ n := by
  rw [shiftAt, Nat.max_le, Nat.max_le]
  rfl

theorem Tables.shiftAt_le_len (tables : Tables needle d1 d2) (inside : p.j < needle.len) :
    shiftAt d1 d2 needle haystack p ≤ needle.len := by
  have whole : GoodShift needle.char needle.len p.j needle.len :=
    ⟨by omega, fun y _ lt le => absurd lt (by omega), fun le => absurd inside (by omega)⟩
  exact shiftAt_le_iff.mpr ⟨by omega, tables.shift1_le_len _ (by omega),
    (tables.good p.j inside).least _ whole⟩

/-- The character looked at occurs in the suffix that did match, and the needle moved by no
    more than the length of this suffix agrees with it. -/
structure Trapped (needle haystack : Text) (p : Place) : Prop where
  here : p.i < haystack.len
  differs : haystack.char p.i ≠ needle.char p.j
  occurs : ∃ y, p.j < y ∧ y < needle.len ∧ needle.char y = haystack.char p.i
  moved : ∃ t, t + p.j < needle.len ∧ GoodShift needle.char needle.len p.j t

/-- In a trap the place moves no further than the suffix is long. -/
theorem trapped_iff (tables : Tables needle d1 d2) (inside : p.j < needle.len)
    (here : p.i < haystack.len) (differs : haystack.char p.i ≠ needle.char p.j) :
    Trapped needle haystack p ↔ shiftAt d1 d2 needle haystack p + p.j < needle.len := by
  have least := tables.good p.j inside
  constructor
  · intro trapped
    obtain ⟨y, behind, lt, occurs⟩ := trapped.occurs
    obtain ⟨t, short, good⟩ := trapped.moved
    have := tables.shift1_le lt occurs
    have := least.least t good
    have := good.positive
    have bound : shiftAt d1 d2 needle haystack p ≤ needle.len - 1 - p.j :=
      shiftAt_le_iff.mpr ⟨by omega, by omega, by omega⟩
    omega
  · intro short
    obtain ⟨-, first, second⟩ := shiftAt_le_iff.mp (le_refl (shiftAt d1 d2 needle haystack p))
    have before : subSize (needle.len - 1) (d1 (haystack.char p.i)) + p.j < needle.len := by omega
    obtain ⟨y, behind, lt, occurs⟩ := tables.occurs_of_shift1 before
    have other : p.j ≠ y := by
      rintro rfl
      exact differs occurs.symm
    exact ⟨here, differs, ⟨y, by omega, lt, occurs⟩, ⟨_, by omega, least.good⟩⟩

/-- What is behind the place matches. -/
structure Suffix (needle haystack : Text) (p : Place) : Prop where
  inside : p.j < needle.len
  behind : ∀ k, 0 < k → p.j + k < needle.len →
    p.i + k < haystack.len ∧ haystack.char (p.i + k) = needle.char (p.j + k)

/-- The last place of the window. -/
def windowEnd (needle : Text) (p : Place) : Nat := p.i + (needle.len - 1 - p.j)

theorem suffix_fresh (nonempty : 0 < needle.len) (i : Nat) :
    Suffix needle haystack ⟨i, needle.len - 1⟩ where
  inside := by
    change needle.len - 1 < needle.len
    omega
  behind k positive lt := by
    change needle.len - 1 + k < needle.len at lt
    omega

theorem Suffix.windowEnd_lt (suffix : Suffix needle haystack p) (here : p.i < haystack.len) :
    windowEnd needle p < haystack.len := by
  have inside := suffix.inside
  rw [windowEnd]
  by_cases last : p.j + 1 = needle.len
  · rwa [show needle.len - 1 - p.j = 0 by omega]
  · exact (suffix.behind (needle.len - 1 - p.j) (by omega) (by omega)).1

/-- A character that matches makes the suffix longer. -/
theorem Suffix.longer (suffix : Suffix needle haystack p) (here : p.i < haystack.len)
    (same : haystack.char p.i = needle.char p.j) (left : 0 < p.i) (more : 0 < p.j) :
    Suffix needle haystack ⟨p.i - 1, p.j - 1⟩ where
  inside := by
    have := suffix.inside
    change p.j - 1 < needle.len
    omega
  behind k positive lt := by
    change p.j - 1 + k < needle.len at lt
    change p.i - 1 + k < haystack.len ∧ haystack.char (p.i - 1 + k) = needle.char (p.j - 1 + k)
    obtain ⟨k, rfl⟩ : ∃ k', k = k' + 1 := ⟨k - 1, by omega⟩
    rw [show p.i - 1 + (k + 1) = p.i + k by omega, show p.j - 1 + (k + 1) = p.j + k by omega]
    cases k with
    | zero => exact ⟨here, same⟩
    | succ k => exact suffix.behind (k + 1) (Nat.succ_pos k) (by omega)

/-- Every window over a trap, from the one that follows it, differs from the haystack at the
    trap or behind it. -/
theorem Suffix.conflict (tables : Tables needle d1 d2) (suffix : Suffix needle haystack w)
    (trapped : Trapped needle haystack w) {last : Nat}
    (least : w.i + shiftAt d1 d2 needle haystack w ≤ last) (most : last ≤ windowEnd needle w) :
    ∃ k < needle.len, w.i + k ≤ last ∧
      needle.char (needle.len - 1 - k) ≠ haystack.char (last - k) := by
  have inside := suffix.inside
  have good := (tables.good w.j inside).good
  have positive := good.positive
  obtain ⟨-, -, moved⟩ := shiftAt_le_iff.mp (le_refl (shiftAt d1 d2 needle haystack w))
  rw [windowEnd] at most
  by_contra none
  have same (k : Nat) (lt : k < needle.len) (le : w.i + k ≤ last) :
      needle.char (needle.len - 1 - k) = haystack.char (last - k) := by
    by_contra other
    exact none ⟨k, lt, le, other⟩
  -- the window ends `e` places before the one with the trap
  obtain ⟨e, window⟩ : ∃ e, last + e = w.i + (needle.len - 1 - w.j) := ⟨_, Nat.add_sub_cancel' most⟩
  have agree (n : Nat) (le : w.i + n ≤ last) :
      needle.char (w.j + e + n) = haystack.char (w.i + n) := by
    have offset := same (last - (w.i + n)) (by omega) (by omega)
    rwa [show needle.len - 1 - (last - (w.i + n)) = w.j + e + n by omega,
      show last - (last - (w.i + n)) = w.i + n by omega] at offset
  have here := agree 0 (by omega)
  have step : needle.char (w.j + e + d2 (w.j + 1)) = needle.char (w.j + d2 (w.j + 1)) := by
    rw [agree (d2 (w.j + 1)) (by omega)]
    exact (suffix.behind _ positive (by omega)).2
  have trap := good.fits (w.j + d2 (w.j + 1)) (by omega) (by omega) (by omega)
  have copy := good.fits (w.j + e + d2 (w.j + 1)) (by omega) (by omega) (by omega)
  rw [Nat.add_sub_cancel] at trap copy
  apply trapped.differs
  calc haystack.char w.i = needle.char (w.j + e) := here.symm
    _ = needle.char (w.j + e + d2 (w.j + 1)) := copy
    _ = needle.char (w.j + d2 (w.j + 1)) := step
    _ = needle.char w.j := trap.symm

/-- From a window over a trap no place moves beyond the window of the trap. -/
theorem Suffix.shiftAt_le (tables : Tables needle d1 d2) (trap : Suffix needle haystack w)
    (trapped : Trapped needle haystack w) (suffix : Suffix needle haystack p)
    (differs : haystack.char p.i ≠ needle.char p.j) (behind : w.i ≤ p.i)
    (least : w.i + shiftAt d1 d2 needle haystack w ≤ windowEnd needle p)
    (most : windowEnd needle p ≤ windowEnd needle w) :
    p.i + shiftAt d1 d2 needle haystack p ≤ windowEnd needle w := by
  have short := (trapped_iff tables trap.inside trapped.here trapped.differs).mp trapped
  have inside := suffix.inside
  have good := (tables.good w.j trap.inside).good
  obtain ⟨-, first, second⟩ := shiftAt_le_iff.mp (le_refl (shiftAt d1 d2 needle haystack w))
  rw [windowEnd] at least most ⊢
  rw [windowEnd] at most
  obtain ⟨a, place⟩ : ∃ a, p.i = w.i + a := ⟨p.i - w.i, by omega⟩
  obtain ⟨e, window⟩ : ∃ e, p.j = w.j + e + a := ⟨p.j - w.j - a, by omega⟩
  obtain rfl | moved := Nat.eq_zero_or_pos e
  · -- the window of the trap itself
    obtain rfl | later := Nat.eq_zero_or_pos a
    · have same : p = w := by
        cases p
        cases w
        simp_all
      rw [same]
      omega
    · refine absurd ?_ differs
      have matched := (trap.behind a later (by omega)).2
      rwa [place, window]
  · have copied (y : Nat) (after : p.j < y) (lt : y < needle.len) :
        needle.char (y - e) = needle.char y := by
      obtain ⟨k, rfl⟩ := Nat.exists_eq_add_of_lt after
      have here := (suffix.behind (k + 1) (Nat.succ_pos k) (by omega)).2
      have there := (trap.behind (a + (k + 1)) (by omega) (by omega)).2
      rw [show p.i + (k + 1) = w.i + (a + (k + 1)) by omega, there] at here
      rwa [show p.j + k + 1 - e = w.j + (a + (k + 1)) by omega]
    have least_good := (tables.good p.j inside).least
    obtain rfl | later := Nat.eq_zero_or_pos a
    · -- the character of the trap again, which is moved to the right place or further
      rw [Nat.add_zero] at place
      have moves : d2 (p.j + 1) ≤ needle.len - 1 - w.j := by
        by_cases same : needle.char w.j = needle.char p.j
        · apply (least_good (e + d2 (w.j + 1))
            ⟨by omega, fun y after lt _ => ?_, fun _ => ?_⟩).trans
          · omega
          · have further := good.fits (y - e) (by omega) (by omega) (by omega)
            rw [← copied y after lt, ← further, Nat.sub_sub]
          · rw [show p.j - (e + d2 (w.j + 1)) = w.j - d2 (w.j + 1) by omega, ← same]
            exact good.differs (by omega)
        · apply (least_good e ⟨moved, fun y after lt _ => copied y after lt, fun _ => ?_⟩).trans
          · omega
          · rwa [show p.j - e = w.j by omega]
      have bound : shiftAt d1 d2 needle haystack p ≤ needle.len - 1 - w.j := by
        refine shiftAt_le_iff.mpr ⟨by omega, ?_, moves⟩
        rw [place]
        omega
      omega
    · have char : needle.char (w.j + a) = haystack.char p.i := by
        rw [place]
        exact (trap.behind a later (by omega)).2.symm
      have shifted : GoodShift needle.char needle.len p.j e := by
        refine ⟨moved, fun y after lt _ => copied y after lt, fun _ => ?_⟩
        rw [show p.j - e = w.j + a by omega, char]
        exact differs
      have := least_good e shifted
      have := tables.shift1_le (by omega) char
      have bound : shiftAt d1 d2 needle haystack p ≤ needle.len - 1 - w.j - a :=
        shiftAt_le_iff.mpr ⟨by omega, by omega, by omega⟩
      omega

/-- In a window over a trap, before the place where the two differ. -/
structure StuckAt (needle haystack : Text) (d1 : Char7 → Nat) (d2 : Nat → Nat) (w p : Place) :
    Prop where
  trap : Suffix needle haystack w
  trapped : Trapped needle haystack w
  suffix : Suffix needle haystack p
  least : w.i + shiftAt d1 d2 needle haystack w ≤ windowEnd needle p
  most : windowEnd needle p ≤ windowEnd needle w
  conflict : ∃ k ≤ p.j, w.i + k ≤ p.i ∧ needle.char (p.j - k) ≠ haystack.char (p.i - k)

/-- A window over a trap begins with its last place. -/
theorem stuckAt_fresh (tables : Tables needle d1 d2) (trap : Suffix needle haystack w)
    (trapped : Trapped needle haystack w) {last : Nat}
    (least : w.i + shiftAt d1 d2 needle haystack w ≤ last) (most : last ≤ windowEnd needle w) :
    StuckAt needle haystack d1 d2 w ⟨last, needle.len - 1⟩ := by
  have inside := trap.inside
  have window : windowEnd needle ⟨last, needle.len - 1⟩ = last := by
    rw [windowEnd, Nat.sub_self, Nat.add_zero]
  obtain ⟨k, lt, le, differs⟩ := trap.conflict tables trapped least most
  refine ⟨trap, trapped, suffix_fresh (by omega) last, by rwa [window], by rwa [window], k, ?_, le,
    differs⟩
  change k ≤ needle.len - 1
  omega

/-- A turn leads from a window over a trap to a window over a trap. -/
theorem StuckAt.next (tables : Tables needle d1 d2) (stuck : StuckAt needle haystack d1 d2 w p) :
    ∃ w' q, searchStep d1 d2 needle haystack p = .go q ∧ StuckAt needle haystack d1 d2 w' q := by
  have bound := haystack.fits
  have trapEnd := stuck.trap.windowEnd_lt stuck.trapped.here
  rw [Text.len] at trapEnd
  have inside := stuck.suffix.inside
  obtain ⟨k, le, behind, conflict⟩ := stuck.conflict
  have most := stuck.most
  have here : p.i < haystack.len := by
    rw [windowEnd] at most
    exact (Nat.le_add_right _ _).trans_lt (most.trans_lt trapEnd)
  rw [searchStep, if_pos here]
  by_cases same : haystack.char p.i = needle.char p.j
  · -- the place of the conflict is further to the left
    have further : k ≠ 0 := by
      rintro rfl
      exact conflict same.symm
    have left : 0 < p.i := by omega
    have more : 0 < p.j := by omega
    have down : subSize p.i 1 = p.i - 1 := subSize_eq left (by rw [Text.len] at here; omega)
    rw [if_neg (not_not.mpr same), if_neg more.ne', down]
    have window : windowEnd needle ⟨p.i - 1, p.j - 1⟩ = windowEnd needle p := by
      simp only [windowEnd]
      omega
    refine ⟨w, _, rfl, stuck.trap, stuck.trapped, stuck.suffix.longer here same left more,
      window ▸ stuck.least, window ▸ most, k - 1, ?_, ?_, ?_⟩
    · change k - 1 ≤ p.j - 1
      omega
    · change w.i + (k - 1) ≤ p.i - 1
      omega
    · change needle.char (p.j - 1 - (k - 1)) ≠ haystack.char (p.i - 1 - (k - 1))
      rwa [show p.j - 1 - (k - 1) = p.j - k by omega, show p.i - 1 - (k - 1) = p.i - k by omega]
  · have next := stuck.trap.shiftAt_le tables stuck.trapped stuck.suffix same (by omega)
      stuck.least most
    rw [if_pos same, Nat.mod_eq_of_lt (by omega)]
    by_cases forward : windowEnd needle p ≤ p.i + shiftAt d1 d2 needle haystack p
    · exact ⟨w, _, rfl, stuckAt_fresh tables stuck.trap stuck.trapped
        (stuck.least.trans forward) next⟩
    · -- the window comes back, so this place is a trap itself
      have back : shiftAt d1 d2 needle haystack p + p.j < needle.len := by
        rw [windowEnd] at forward
        omega
      have trapped := (trapped_iff tables inside here same).mpr back
      exact ⟨p, _, rfl, stuckAt_fresh tables stuck.suffix trapped le_rfl (by omega)⟩

/-- From there on the search does not end. -/
theorem StuckAt.never_ends (tables : Tables needle d1 d2)
    (stuck : StuckAt needle haystack d1 d2 w p) (fuel : Nat) :
    searchLoop d1 d2 needle haystack fuel p = none := by
  induction fuel generalizing w p with
  | zero => rfl
  | succ fuel ih =>
      obtain ⟨w', q, turn, stuck'⟩ := stuck.next tables
      rw [searchLoop, turn]
      exact ih stuck'

/-- The needle occurs at `s`. -/
structure OccursAt (needle haystack : Text) (s : Nat) : Prop where
  inside : s + needle.len ≤ haystack.len
  chars : ∀ k < needle.len, haystack.char (s + k) = needle.char k

/-- No occurrence is before the window. -/
structure Searching (needle haystack : Text) (p : Place) : Prop where
  suffix : Suffix needle haystack p
  start : p.j ≤ p.i
  before : ∀ s, s + p.j < p.i → ¬OccursAt needle haystack s

/-- No move skips an occurrence. -/
theorem shiftAt_of_occurs (tables : Tables needle d1 d2) (suffix : Suffix needle haystack p)
    (differs : haystack.char p.i ≠ needle.char p.j) {s t : Nat} (positive : 0 < t)
    (place : s + p.j = p.i + t) (occurs : OccursAt needle haystack s) :
    shiftAt d1 d2 needle haystack p + p.j < needle.len + t := by
  have inside := suffix.inside
  have good : GoodShift needle.char needle.len p.j t := by
    refine ⟨positive, fun y after lt le => ?_, fun le => ?_⟩
    · obtain ⟨k, rfl⟩ := Nat.exists_eq_add_of_lt after
      have here := (suffix.behind (k + 1) (Nat.succ_pos k) (by omega)).2
      have there := occurs.chars (p.j + k + 1 - t) (by omega)
      rw [show s + (p.j + k + 1 - t) = p.i + (k + 1) by omega] at there
      exact there.symm.trans here
    · have there := occurs.chars (p.j - t) (by omega)
      rw [show s + (p.j - t) = p.i by omega] at there
      rw [← there]
      exact differs
  have second := (tables.good p.j inside).least t good
  have first : subSize (needle.len - 1) (d1 (haystack.char p.i)) + p.j < needle.len + t := by
    by_cases short : t ≤ p.j
    · have there := occurs.chars (p.j - t) (by omega)
      rw [show s + (p.j - t) = p.i by omega] at there
      have := tables.shift1_le (by omega) there.symm
      omega
    · have := tables.shift1_le_len (haystack.char p.i) (by omega)
      omega
  have bound : shiftAt d1 d2 needle haystack p ≤ needle.len + t - 1 - p.j :=
    shiftAt_le_iff.mpr ⟨by omega, by omega, by omega⟩
  omega

/-- How much is left to look at: windows first, places of a window second. -/
def left (needle haystack : Text) (p : Place) : Nat :=
  (haystack.len + needle.len - windowEnd needle p) * (needle.len + 1) + p.j

theorem matchesAt_iff {s : Nat} :
    matchesAt needle haystack s = true ↔
      ∀ k < needle.len, haystack.char (s + k) = needle.char k := by
  simp [matchesAt]

theorem searchNaive_eq_some {s : Nat} (occurs : OccursAt needle haystack s)
    (first : ∀ s' < s, ¬OccursAt needle haystack s') :
    searchNaive needle haystack = some s := by
  rw [searchNaive, List.find?_range_eq_some]
  refine ⟨matchesAt_iff.mpr occurs.chars, List.mem_range.mpr ?_, fun s' lt => ?_⟩
  · have := occurs.inside
    omega
  · have inside := occurs.inside
    rw [Bool.not_eq_true', ← Bool.not_eq_true, matchesAt_iff]
    exact fun chars => first s' lt ⟨by omega, chars⟩

theorem searchNaive_eq_none (nowhere : ∀ s, ¬OccursAt needle haystack s) :
    searchNaive needle haystack = none := by
  rw [searchNaive, List.find?_eq_none]
  intro s mem
  rw [matchesAt_iff]
  intro chars
  have := List.mem_range.mp mem
  exact nowhere s ⟨by omega, chars⟩

/-- Where the whole needle has matched. -/
theorem Searching.found (searching : Searching needle haystack p) (here : p.i < haystack.len)
    (same : haystack.char p.i = needle.char p.j) (whole : p.j = 0) :
    searchNaive needle haystack = some p.i := by
  have behind := searching.suffix.behind
  have inside := searching.suffix.inside
  rw [whole] at same behind inside
  apply searchNaive_eq_some
  · constructor
    · by_cases single : needle.len = 1
      · omega
      · have := (behind (needle.len - 1) (by omega) (by omega)).1
        omega
    · intro k lt
      cases k with
      | zero => exact same
      | succ k =>
          have matched := (behind (k + 1) (Nat.succ_pos k) (by omega)).2
          rwa [Nat.zero_add] at matched
  · intro s lt
    exact searching.before s (by omega)

/-- Where another character has matched. -/
theorem Searching.longer (searching : Searching needle haystack p) (here : p.i < haystack.len)
    (same : haystack.char p.i = needle.char p.j) (more : 0 < p.j) :
    Searching needle haystack ⟨p.i - 1, p.j - 1⟩ ∧
      left needle haystack ⟨p.i - 1, p.j - 1⟩ < left needle haystack p := by
  have start := searching.start
  have inside := searching.suffix.inside
  refine ⟨⟨searching.suffix.longer here same (by omega) more, ?_, fun s lt => ?_⟩, ?_⟩
  · change p.j - 1 ≤ p.i - 1
    omega
  · change s + (p.j - 1) < p.i - 1 at lt
    exact searching.before s (by omega)
  · have window : windowEnd needle ⟨p.i - 1, p.j - 1⟩ = windowEnd needle p := by
      simp only [windowEnd]
      omega
    rw [left, left, window]
    change _ + (p.j - 1) < _
    omega

/-- Where a character did not match, and the place moves further than the suffix is long. -/
theorem Searching.further (tables : Tables needle d1 d2) (searching : Searching needle haystack p)
    (here : p.i < haystack.len) (differs : haystack.char p.i ≠ needle.char p.j) {i : Nat}
    (moves : p.i + shiftAt d1 d2 needle haystack p = i) (forward : p.i + needle.len ≤ i + p.j) :
    Searching needle haystack ⟨i, needle.len - 1⟩ ∧
      left needle haystack ⟨i, needle.len - 1⟩ < left needle haystack p := by
  have start := searching.start
  have inside := searching.suffix.inside
  refine ⟨⟨suffix_fresh (by omega) i, ?_, fun s lt occurs => ?_⟩, ?_⟩
  · change needle.len - 1 ≤ i
    omega
  · change s + (needle.len - 1) < i at lt
    obtain before | here | behind := Nat.lt_trichotomy (s + p.j) p.i
    · exact searching.before s before occurs
    · exact differs (here ▸ occurs.chars p.j inside)
    · obtain ⟨t, place⟩ := Nat.exists_eq_add_of_lt behind
      have := shiftAt_of_occurs tables searching.suffix differs (Nat.succ_pos t) place occurs
      omega
  · have bigger : windowEnd needle p < windowEnd needle ⟨i, needle.len - 1⟩ := by
      simp only [windowEnd]
      omega
    have most : windowEnd needle p < haystack.len + needle.len := by
      rw [windowEnd]
      omega
    have windows : haystack.len + needle.len - windowEnd needle ⟨i, needle.len - 1⟩ <
        haystack.len + needle.len - windowEnd needle p := by omega
    calc left needle haystack ⟨i, needle.len - 1⟩
        < (haystack.len + needle.len - windowEnd needle ⟨i, needle.len - 1⟩ + 1) *
            (needle.len + 1) := by
          rw [left, Nat.succ_mul]
          change _ + (needle.len - 1) < _
          omega
      _ ≤ (haystack.len + needle.len - windowEnd needle p) * (needle.len + 1) :=
          Nat.mul_le_mul_right _ windows
      _ ≤ left needle haystack p := Nat.le_add_right _ _

/-- Behind the haystack there is no window. -/
theorem Searching.missing (searching : Searching needle haystack p)
    (outside : haystack.len ≤ p.i) : searchNaive needle haystack = none := by
  have inside := searching.suffix.inside
  have last : p.j + 1 = needle.len := by
    by_contra more
    have := (searching.suffix.behind 1 Nat.one_pos (by omega)).1
    omega
  apply searchNaive_eq_none
  intro s occurs
  have := occurs.inside
  exact searching.before s (by omega) occurs

/-- A turn that is not made in a trap ends the search with what the slow search finds, or leaves
    less to look at. -/
theorem Searching.turn (tables : Tables needle d1 d2) (searching : Searching needle haystack p)
    (free : ¬Trapped needle haystack p) :
    (∃ q, searchStep d1 d2 needle haystack p = .go q ∧ Searching needle haystack q ∧
      left needle haystack q < left needle haystack p) ∨
    (∃ s, searchStep d1 d2 needle haystack p = .found s ∧
      searchNaive needle haystack = some s) ∨
    searchStep d1 d2 needle haystack p = .missing ∧ searchNaive needle haystack = none := by
  have start := searching.start
  have inside := searching.suffix.inside
  have small : haystack.len < 2 ^ 63 := haystack.fits
  have short : needle.len < 2 ^ 63 := needle.fits
  rw [searchStep]
  by_cases here : p.i < haystack.len
  · rw [if_pos here]
    by_cases same : haystack.char p.i = needle.char p.j
    · rw [if_neg (not_not.mpr same)]
      by_cases whole : p.j = 0
      · rw [if_pos whole]
        exact .inr (.inl ⟨p.i, rfl, searching.found here same whole⟩)
      · rw [if_neg whole, subSize_eq (by omega) (by omega)]
        exact .inl ⟨_, rfl, searching.longer here same (by omega)⟩
    · have forward : ¬shiftAt d1 d2 needle haystack p + p.j < needle.len := fun back =>
        free ((trapped_iff tables inside here same).mpr back)
      have most : shiftAt d1 d2 needle haystack p ≤ needle.len := tables.shiftAt_le_len inside
      rw [if_pos same, Nat.mod_eq_of_lt (by omega)]
      exact .inl ⟨_, rfl, searching.further tables here same rfl (by omega)⟩
  · rw [if_neg here]
    exact .inr (.inr ⟨rfl, searching.missing (by omega)⟩)

theorem slide_mono {x fuel fuel' j : Nat} {shift pattern : Nat → Nat}
    {r : Nat × (Nat → Nat)} (le : fuel ≤ fuel')
    (ends : slide needle pattern x fuel j shift = some r) :
    slide needle pattern x fuel' j shift = some r := by
  induction fuel generalizing fuel' j shift with
  | zero => cases ends
  | succ fuel ih =>
      obtain ⟨fuel', rfl⟩ := Nat.exists_eq_add_of_le' le
      rw [← Nat.add_assoc, slide]
      rw [slide] at ends
      split
      case isTrue more =>
          rw [if_pos more] at ends
          exact ih (Nat.le_add_left fuel fuel') ends
      case isFalse ended => rwa [if_neg ended] at ends

theorem fillPattern_mono {fuel fuel' i j : Nat} {shift pattern : Nat → Nat}
    {r : (Nat → Nat) × (Nat → Nat)} (le : fuel ≤ fuel')
    (ends : fillPattern needle fuel i j shift pattern = some r) :
    fillPattern needle fuel' i j shift pattern = some r := by
  induction i generalizing j shift pattern with
  | zero => exact ends
  | succ i ih =>
      rw [fillPattern, Option.bind_eq_bind, Option.bind_eq_some_iff] at ends ⊢
      obtain ⟨walked, slid, rest⟩ := ends
      exact ⟨walked, slide_mono le slid, ih rest⟩

theorem preProcessDelta2_mono {fuel fuel' : Nat} (le : fuel ≤ fuel')
    (ends : preProcessDelta2 fuel needle = some d2) : preProcessDelta2 fuel' needle = some d2 := by
  rw [preProcessDelta2, Option.bind_eq_bind, Option.bind_eq_some_iff] at ends ⊢
  obtain ⟨filled, walked, rest⟩ := ends
  exact ⟨filled, fillPattern_mono le walked, rest⟩

theorem preProcessDelta2_tables {fuel : Nat} (short : needle.Short) (nonempty : 0 < needle.len)
    (ends : preProcessDelta2 fuel needle = some d2) :
    Tables needle (preProcessDelta1 needle) d2 := by
  obtain ⟨d2', enough, good⟩ :=
    preProcessDelta2_ends short nonempty (Nat.lt_of_lt_of_le (Nat.lt_succ_self _)
      (Nat.le_add_left (needle.len + 2) fuel))
  have same := preProcessDelta2_mono (Nat.le_add_right fuel (needle.len + 2)) ends
  obtain rfl : d2 = d2' := Option.some.inj (same.symm.trans enough)
  exact ⟨preProcessDelta1_last short, good⟩

/-- The places the search comes to. -/
inductive Reached (needle haystack : Text) : Place → Prop where
  | start : Reached needle haystack (firstPlace needle)
  | next {fuel : Nat} {d2 : Nat → Nat} {p q : Place} : Reached needle haystack p →
      preProcessDelta2 fuel needle = some d2 →
      searchStep (preProcessDelta1 needle) d2 needle haystack p = .go q →
      Reached needle haystack q

/-- The search comes to no trap. -/
def Free (needle haystack : Text) : Prop := ∀ p, Reached needle haystack p →
  ¬Trapped needle haystack p

/-- The search ends with what the slow search finds. -/
def SearchRight (needle haystack : Text) : Prop :=
  ∃ fuel, searchBooyerMoore fuel needle haystack = some (searchNaive needle haystack)

theorem searching_first (nonempty : 0 < needle.len) :
    Searching needle haystack (firstPlace needle) where
  suffix := suffix_fresh nonempty (needle.len - 1)
  start := le_rfl
  before s lt := by
    change s + (needle.len - 1) < needle.len - 1 at lt
    omega

/-- With time for all that is left to look at the search ends. -/
theorem searchLoop_ends {table : Nat} (tables : Tables needle (preProcessDelta1 needle) d2)
    (made : preProcessDelta2 table needle = some d2) (free : Free needle haystack) {fuel : Nat}
    (reached : Reached needle haystack p) (searching : Searching needle haystack p)
    (enough : left needle haystack p < fuel) :
    searchLoop (preProcessDelta1 needle) d2 needle haystack fuel p =
      some (searchNaive needle haystack) := by
  induction fuel generalizing p with
  | zero => exact absurd enough (Nat.not_lt_zero _)
  | succ fuel ih =>
      obtain ⟨q, turn, searching', less⟩ | ⟨s, turn, found⟩ | ⟨turn, missing⟩ :=
        searching.turn tables (free p reached)
      · rw [searchLoop, turn]
        exact ih (reached.next made turn) searching' (by omega)
      · rw [searchLoop, turn, found]
      · rw [searchLoop, turn, missing]

theorem preProcessDelta2_unique {fuel fuel' : Nat} {d2 d2' : Nat → Nat}
    (made : preProcessDelta2 fuel needle = some d2)
    (made' : preProcessDelta2 fuel' needle = some d2') : d2 = d2' := by
  have here := preProcessDelta2_mono (Nat.le_add_right fuel fuel') made
  have there := preProcessDelta2_mono (Nat.le_add_left fuel' fuel) made'
  exact Option.some.inj (here.symm.trans there)

/-- The first trap is a window over itself. -/
theorem Searching.stuckAt (tables : Tables needle d1 d2) (searching : Searching needle haystack p)
    (trapped : Trapped needle haystack p) : StuckAt needle haystack d1 d2 p p := by
  have suffix := searching.suffix
  have back := (trapped_iff tables suffix.inside trapped.here trapped.differs).mp trapped
  refine ⟨suffix, trapped, suffix, ?_, le_rfl, 0, Nat.zero_le _, le_rfl, trapped.differs.symm⟩
  rw [windowEnd]
  omega

/-- At every place the search comes to no trap was met yet, or it is in a window over one. -/
theorem Reached.searching_or_stuck {fuel : Nat} (short : needle.Short)
    (nonempty : 0 < needle.len) (made : preProcessDelta2 fuel needle = some d2)
    (reached : Reached needle haystack p) :
    Searching needle haystack p ∨
      ∃ w, StuckAt needle haystack (preProcessDelta1 needle) d2 w p := by
  have tables := preProcessDelta2_tables short nonempty made
  induction reached with
  | start => exact .inl (searching_first nonempty)
  | @next _ d2' p q _ made' turn ih =>
      obtain rfl := preProcessDelta2_unique made' made
      have leave {w : Place}
          (stuck : StuckAt needle haystack (preProcessDelta1 needle) d2' w p) :
          ∃ w, StuckAt needle haystack (preProcessDelta1 needle) d2' w q := by
        obtain ⟨w', q', turn', stuck'⟩ := stuck.next tables
        obtain rfl : q = q' := Turn.go.inj (turn.symm.trans turn')
        exact ⟨w', stuck'⟩
      rcases ih with searching | ⟨w, stuck⟩
      · by_cases trapped : Trapped needle haystack p
        · exact .inr (leave (searching.stuckAt tables trapped))
        · obtain ⟨q', turn', searching', -⟩ | ⟨s, turn', -⟩ | ⟨turn', -⟩ :=
            searching.turn tables trapped
          · obtain rfl : q = q' := Turn.go.inj (turn.symm.trans turn')
            exact .inl searching'
          · cases turn.symm.trans turn'
          · cases turn.symm.trans turn'
      · exact .inr (leave stuck)

/-- A search that ends also ends from every place it comes to. -/
theorem Reached.ends {table fuel : Nat} {r : Option Nat}
    (made : preProcessDelta2 table needle = some d2)
    (ends : searchLoop (preProcessDelta1 needle) d2 needle haystack fuel (firstPlace needle) =
      some r)
    (reached : Reached needle haystack p) :
    ∃ rest, searchLoop (preProcessDelta1 needle) d2 needle haystack rest p = some r := by
  induction reached with
  | start => exact ⟨fuel, ends⟩
  | next _ made' turn ih =>
      obtain rfl := preProcessDelta2_unique made' made
      obtain ⟨rest, ends⟩ := ih
      cases rest with
      | zero => cases ends
      | succ rest =>
          rw [searchLoop, turn] at ends
          exact ⟨rest, ends⟩

theorem right_of_free (short : needle.Short) (nonempty : 0 < needle.len)
    (free : Free needle haystack) : SearchRight needle haystack := by
  by_cases empty : haystack.len = 0
  · refine ⟨0, ?_⟩
    rw [searchBooyerMoore, if_pos (.inr empty), searchNaive_eq_none]
    intro s occurs
    have := occurs.inside
    omega
  obtain ⟨fuel, enough, time⟩ : ∃ fuel, needle.len + 1 < fuel ∧
      left needle haystack (firstPlace needle) < fuel :=
    ⟨needle.len + 2 + left needle haystack (firstPlace needle), by omega, by omega⟩
  obtain ⟨d2, made, -⟩ := preProcessDelta2_ends short nonempty enough
  have tables := preProcessDelta2_tables short nonempty made
  have started : ¬(needle.len = 0 ∨ haystack.len = 0) := by omega
  refine ⟨fuel, ?_⟩
  rw [searchBooyerMoore, if_neg started, made]
  exact searchLoop_ends tables made free .start (searching_first nonempty) time

theorem free_of_right (short : needle.Short) (nonempty : 0 < needle.len)
    (right : SearchRight needle haystack) : Free needle haystack := by
  intro p reached trapped
  obtain ⟨fuel, ends⟩ := right
  have started : ¬(needle.len = 0 ∨ haystack.len = 0) := by
    have := trapped.here
    omega
  rw [searchBooyerMoore, if_neg started, Option.bind_eq_bind, Option.bind_eq_some_iff] at ends
  obtain ⟨d2, made, ends⟩ := ends
  have tables := preProcessDelta2_tables short nonempty made
  have stuck : ∃ w, StuckAt needle haystack (preProcessDelta1 needle) d2 w p := by
    rcases reached.searching_or_stuck short nonempty made with searching | stuck
    · exact ⟨p, searching.stuckAt tables trapped⟩
    · exact stuck
  obtain ⟨w, stuck⟩ := stuck
  obtain ⟨rest, ends⟩ := reached.ends made ends
  cases (stuck.never_ends tables rest).symm.trans ends

/-- A search that comes to no trap ends with what the slow search finds, and one that comes to a
    trap does not end, for a needle whose tables fit. -/
theorem search_booyer_moore_right_iff (needle haystack : Text) (nonempty : 0 < needle.len) :
    (needle.Short ∧ Free needle haystack → SearchRight needle haystack) ∧
    (needle.Short ∧ SearchRight needle haystack → Free needle haystack) := by
  constructor
  · rintro ⟨short, free⟩
    exact right_of_free short nonempty free
  · rintro ⟨short, right⟩
    exact free_of_right short nonempty right

/-- A search that ends came to no trap. -/
theorem search_booyer_moore_right_ab :
    Free ⟨[0, 1], by decide⟩ ⟨[0, 0, 1], by decide⟩ := by
  have short : Text.Short ⟨[0, 1], by decide⟩ := by
    rw [Text.Short]
    decide
  apply (search_booyer_moore_right_iff _ _ (by decide)).2
  exact ⟨short, 20, by decide +kernel⟩

/-- In this haystack the needle occurs, but the search does not end. -/
theorem search_booyer_moore_stuck :
    searchNaive aba bbaaba = some 3 ∧ ¬SearchRight aba bbaaba := by
  refine ⟨by decide, fun right => ?_⟩
  have short : aba.Short := by
    rw [Text.Short]
    decide
  have nonempty : 0 < aba.len := by decide
  obtain ⟨d2, made, -⟩ := preProcessDelta2_ends short nonempty (Nat.lt_succ_self _)
  have second : Reached aba bbaaba ⟨1, 1⟩ := Reached.start.next made rfl
  have third : Reached aba bbaaba ⟨0, 0⟩ := second.next made rfl
  apply free_of_right short nonempty right ⟨0, 0⟩ third
  refine ⟨by decide, by decide, ⟨1, by decide⟩, 2, by decide, by decide, fun y _ lt le => ?_, ?_⟩
  · obtain rfl : y = 2 := Nat.le_antisymm (Nat.le_of_lt_succ lt) le
    rfl
  · exact fun le => absurd le (by decide)

end FlexRic.BooyerMoore
