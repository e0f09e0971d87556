import FlexRic.Library.Checked
import Mathlib.Algebra.Group.Nat.Defs
import Mathlib.Logic.Function.Basic

/-! # Search for a string

The search looks at a window of the haystack from its end. A character that does not match
moves the place that is looked at, by its last occurrence in the needle or by the shift
that is good for the suffix that did match.
-/

namespace FlexRic.BooyerMoore

/-- A character of seven bits. -/
abbrev Char7 := Fin 128

/-- A string with its length. No object is larger than the difference of two pointers. -/
structure Text where
  chars : List Char7
  fits : chars.length < 2 ^ 63

def Text.len (text : Text) : Nat := text.chars.length

def Text.char (text : Text) (i : Nat) : Char7 := text.chars.getD i 0

theorem aba_fits : ([0, 1, 0] : List Char7).length < 2 ^ 63 := by decide

/-- The needle aba. -/
def aba : Text := ⟨[0, 1, 0], aba_fits⟩

theorem bbaaba_fits : ([1, 1, 0, 0, 1, 0] : List Char7).length < 2 ^ 63 := by decide

/-- The haystack bbaaba. -/
def bbaaba : Text := ⟨[1, 1, 0, 0, 1, 0], bbaaba_fits⟩

/-- The difference of two numbers of type `size_t`. -/
def subSize (a b : Nat) : Nat := (a + (2 ^ 64 - b)) % 2 ^ 64

/-- What is read as a `size_t` after it was stored as an `int`. -/
def asInt (v : Nat) : Nat :=
  if v % 2 ^ 32 < 2 ^ 31 then v % 2 ^ 32 else v % 2 ^ 32 + (2 ^ 64 - 2 ^ 32)

/-- The `int` of value -1 as a `size_t`. -/
def minusOne : Nat := 2 ^ 64 - 1

/-- The rightmost occurrence of every character. -/
def preProcessDelta1 (needle : Text) : Char7 → Nat :=
  (List.range needle.len).foldl (fun arr i => Function.update arr (needle.char i) (asInt i))
    fun _ => minusOne

/-- An entry is stored where there is none yet. -/
def fillAt (shift : Nat → Nat) (j v : Nat) : Nat → Nat :=
  if shift j = 0 then Function.update shift j (asInt v) else shift

/-- The inner loop over the borders of the suffix from `i` on. -/
def slide (needle : Text) (pattern : Nat → Nat) (i : Nat) :
    Nat → Nat → (Nat → Nat) → Option (Nat × (Nat → Nat))
  | 0, _, _ => none
  | fuel + 1, j, shift =>
      if j < needle.len + 1 ∧ needle.char (i - 1) ≠ needle.char (j - 1) then
        slide needle pattern i fuel (pattern j) (fillAt shift j (subSize j i))
      else some (j, shift)

/-- The outer loop, from the end of the needle. -/
def fillPattern (needle : Text) (fuel : Nat) :
    Nat → Nat → (Nat → Nat) → (Nat → Nat) → Option ((Nat → Nat) × (Nat → Nat))
  | 0, _, shift, pattern => some (shift, pattern)
  | i + 1, j, shift, pattern => do
      let (j, shift) ← slide needle pattern (i + 1) fuel j shift
      let j := subSize j 1
      fillPattern needle fuel i j shift (Function.update pattern i (asInt j))

/-- The second case, for what the first left at zero. -/
def fillShift (pattern : Nat → Nat) : Nat → Nat → Nat → (Nat → Nat) → Nat → Nat
  | 0, _, _, shift => shift
  | rest + 1, i, j, shift =>
      fillShift pattern rest (i + 1) (if j = i then pattern j else j) (fillAt shift i j)

/-- The good suffix heuristic. -/
def preProcessDelta2 (fuel : Nat) (needle : Text) : Option (Nat → Nat) := do
  let j := needle.len + 1
  let (shift, pattern) ← fillPattern needle fuel needle.len j (fun _ => 0)
    (Function.update (fun _ => 0) needle.len (asInt j))
  some (fillShift pattern (needle.len + 1) 0 (pattern 0) shift)

/-- The places looked at in the haystack and in the needle. -/
structure Place where
  i : Nat
  j : Nat
  deriving DecidableEq, Repr

inductive Turn where
  | go (place : Place)
  | found (i : Nat)
  | missing
  deriving DecidableEq, Repr

/-- How far the place in the haystack moves. -/
def shiftAt (d1 : Char7 → Nat) (d2 : Nat → Nat) (needle haystack : Text) (place : Place) : Nat :=
  let shift1 := subSize (needle.len - 1) (d1 (haystack.char place.i))
  let shift2 := d2 (place.j + 1)
  max 1 (max shift1 shift2)

/-- A turn of the loop. -/
def searchStep (d1 : Char7 → Nat) (d2 : Nat → Nat) (needle haystack : Text) (place : Place) :
    Turn :=
  if place.i < haystack.len then
    if haystack.char place.i ≠ needle.char place.j then
      .go ⟨(place.i + shiftAt d1 d2 needle haystack place) % 2 ^ 64, needle.len - 1⟩
    else if place.j = 0 then .found place.i
    else .go ⟨subSize place.i 1, place.j - 1⟩
  else .missing

/-- The loop. Nothing is the answer while it has not ended. -/
def searchLoop (d1 : Char7 → Nat) (d2 : Nat → Nat) (needle haystack : Text) :
    Nat → Place → Option (Option Nat)
  | 0, _ => none
  | fuel + 1, place =>
      match searchStep d1 d2 needle haystack place with
      | .go place => searchLoop d1 d2 needle haystack fuel place
      | .found i => some (some i)
      | .missing => some none

/-- The window the search starts with. -/
def firstPlace (needle : Text) : Place := ⟨needle.len - 1, needle.len - 1⟩

def searchBooyerMoore (fuel : Nat) (needle haystack : Text) : Option (Option Nat) :=
  if needle.len = 0 ∨ haystack.len = 0 then some none
  else do
    let d2 ← preProcessDelta2 fuel needle
    searchLoop (preProcessDelta1 needle) d2 needle haystack fuel (firstPlace needle)

/-- The inner loop of `search_naive` at a position. -/
def matchesAt (needle haystack : Text) (i : Nat) : Bool :=
  (List.range needle.len).all fun j => haystack.char (i + j) = needle.char j

/-- The outer loop goes to every position, here to those where the needle still fits. -/
def searchNaive (needle haystack : Text) : Option Nat :=
  (List.range (haystack.len + 1 - needle.len)).find? (matchesAt needle haystack)

end FlexRic.BooyerMoore
