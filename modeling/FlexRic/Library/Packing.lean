import FlexRic.Library.Checked
import FlexRic.Library.Wire

/-! # Units packed into bytes

A generated codec packs units of one type. What is sent goes through a buffer of a
fixed size; what is received is refused when it is empty or not a unit.
-/

namespace FlexRic

open Wire (Bytes)

/-- A codec for the units of one type. A unit never takes no bytes at all. -/
structure Packing (Pdu : Type) where
  pack : Pdu → Option Bytes
  unpack : Bytes → Option Pdu
  pack_ne_nil : ∀ pdu, pack pdu ≠ some []

namespace Packing

variable {Pdu : Type} {ε : Type*}

/-- The bytes of a unit, written to a buffer of `room` bytes. -/
def send (p : Packing Pdu) (room : Nat) (refused : ε) (pdu : Pdu) : Except ε Bytes :=
  match p.pack pdu with
  | some ba => do
      check (ba.length ≤ room) refused
      pure ba
  | none => .error refused

def receive (p : Packing Pdu) (refused : ε) (ba : Bytes) : Except ε Pdu := do
  check (ba ≠ []) refused
  match p.unpack ba with
  | some pdu => pure pdu
  | none => throw refused

/-- The codec reads the unit back from what it packed. -/
def Inverts (p : Packing Pdu) (pdu : Pdu) : Prop :=
  ∃ ba, p.pack pdu = some ba ∧ p.unpack ba = some pdu

/-- What the unit is packed into fits the buffer. -/
def Fits (p : Packing Pdu) (room : Nat) (pdu : Pdu) : Prop :=
  ∀ ba, p.pack pdu = some ba → ba.length ≤ room

variable {p : Packing Pdu} {room : Nat} {pdu : Pdu} {refused : ε}

theorem received (inverts : p.Inverts pdu) (fits : p.Fits room pdu) :
    (p.send room refused pdu >>= p.receive refused) = .ok pdu := by
  obtain ⟨ba, packed, unpacked⟩ := inverts
  have some : ba ≠ [] := fun empty => p.pack_ne_nil pdu (empty ▸ packed)
  have sent : p.send room refused pdu = .ok ba := by
    simp only [send, packed, check_pass _ (fits ba packed)]
    rfl
  rw [sent, ok_bind, receive, check_pass _ some, ok_bind, unpacked]
  rfl

theorem only_ne_nil [DecidableEq Pdu] (unit pdu : Pdu) (ba : Bytes) :
    (if pdu = unit ∧ ba ≠ [] then some ba else none) ≠ some [] := by
  split
  case isTrue both =>
    intro same
    exact both.2 (Option.some.inj same)
  case isFalse => nofun

/-- A codec that knows one unit and its bytes. -/
def only [DecidableEq Pdu] (unit : Pdu) (ba : Bytes) : Packing Pdu where
  pack pdu := if pdu = unit ∧ ba ≠ [] then some ba else none
  unpack read := if read = ba then some unit else none
  pack_ne_nil pdu := only_ne_nil unit pdu ba

/-- A codec whose units are all packed into the same bytes, which it reads as one of them. -/
def always (unit : Pdu) (first : UInt8) (rest : Bytes) : Packing Pdu where
  pack _ := some (first :: rest)
  unpack read := if read = first :: rest then some unit else none
  pack_ne_nil _ empty := List.cons_ne_nil first rest (Option.some.inj empty)

end Packing

section
variable {ε : Type*} {α Pdu : Type} {p : Packing Pdu} {room : Nat} {refused : ε}
  {enc : α → Except ε Pdu} {dec : Pdu → Except ε α}

/-- The value is made a unit, and the unit is packed. -/
def encodeWith (enc : α → Except ε Pdu) (p : Packing Pdu) (room : Nat) (refused : ε) (a : α) :
    Except ε Bytes :=
  enc a >>= p.send room refused

def decodeWith (dec : Pdu → Except ε α) (p : Packing Pdu) (refused : ε) (ba : Bytes) :
    Except ε α :=
  p.receive refused ba >>= dec

theorem encoded_ne_nil {a : α} {ba : Bytes} (encoded : encodeWith enc p room refused a = .ok ba) :
    ba ≠ [] := by
  obtain ⟨pdu, -, sent⟩ := bind_eq_ok.mp encoded
  rintro rfl
  unfold Packing.send at sent
  split at sent
  · rename_i packed
    obtain ⟨_, -, same⟩ := bind_eq_ok.mp sent
    cases pure_eq_ok.mp same
    exact p.pack_ne_nil pdu packed
  · cases sent

/-- The units of the value are inverted, and they fit. -/
def Packing.Carries (p : Packing Pdu) (room : Nat) (enc : α → Except ε Pdu) (a : α) : Prop :=
  ∀ pdu, enc a = .ok pdu → p.Inverts pdu ∧ p.Fits room pdu

/-- The value gets through as its unit, and the reader is left with that. -/
theorem packed_unit {a : α} {pdu : Pdu} (carries : p.Carries room enc a)
    (taken : enc a = .ok pdu) :
    ∃ ba, encodeWith enc p room refused a = .ok ba ∧ decodeWith dec p refused ba = dec pdu := by
  have carried := carries pdu taken
  have received : (p.send room refused pdu >>= p.receive refused) = .ok pdu :=
    Packing.received carried.1 carried.2
  obtain ⟨ba, sent, back⟩ := bind_eq_ok.mp received
  refine ⟨ba, ?_, ?_⟩
  · rw [encodeWith, taken, ok_bind, sent]
  · rw [decodeWith, back, ok_bind]

/-- Whether a value comes back is then a matter of its unit. -/
theorem packed_back {a : α} (carries : p.Carries room enc a) :
    (encodeWith enc p room refused a >>= decodeWith dec p refused) = (enc a >>= dec) := by
  cases taken : enc a with
  | error e =>
      rw [encodeWith, taken]
      rfl
  | ok pdu =>
      obtain ⟨ba, sent, read⟩ : ∃ ba, encodeWith enc p room refused a = .ok ba ∧
          decodeWith dec p refused ba = dec pdu := packed_unit carries taken
      rw [sent, ok_bind, ok_bind, read]

/-- The codec that knows the unit of a value carries the value. -/
theorem Packing.only_carries [DecidableEq Pdu] {a : α} {unit : Pdu} {ba : Bytes}
    (encoded : enc a = .ok unit) (filled : ba ≠ []) (short : ba.length ≤ room) :
    (Packing.only unit ba).Carries room enc a := by
  intro pdu encodedOther
  cases encoded.symm.trans encodedOther
  have packed : (Packing.only unit ba).pack unit = some ba := if_pos ⟨rfl, filled⟩
  refine ⟨⟨ba, packed, if_pos rfl⟩, ?_⟩
  intro other packedOther
  cases packed.symm.trans packedOther
  exact short

theorem Packing.always_carries {a : α} {unit : Pdu} {first : UInt8} {rest : Bytes}
    (encoded : enc a = .ok unit) (short : (first :: rest).length ≤ room) :
    (Packing.always unit first rest).Carries room enc a := by
  intro pdu encodedOther
  cases encoded.symm.trans encodedOther
  refine ⟨⟨first :: rest, rfl, if_pos rfl⟩, ?_⟩
  intro other packedOther
  cases packedOther
  exact short

end

end FlexRic
