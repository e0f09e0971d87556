import FlexRic.Asn.Identity

/-! # Identifiers as bit strings

The conversions of identifiers to bit strings and back. Most write the lowest octet
first and shift the last one up to where its unused bits are the low ones.
-/

namespace FlexRic.Asn

open Wire (Bytes)

/-- `cp_amf_region_id_to_bit_string`. -/
def cpAmfRegionIdToBitString (src : UInt8) : Except Fault BitString := do
  check (src < 64) .bound
  pure ⟨[src], 0⟩

/-- `cp_amf_region_id_to_u8`. -/
def cpAmfRegionIdToU8 (src : BitString) : Except Fault UInt8 := do
  check (src.bitsUnused = 0) .bound
  match src.buf with
  | [b0] => pure b0
  | _ => throw .bound

/-- `cp_amf_set_id_to_bit_string`. -/
def cpAmfSetIdToBitString (val : UInt16) : Except Fault BitString := do
  check (val.toNat < 1024) .bound
  pure ⟨[UInt8.ofNat (val.toNat <<< 6 >>> 8), UInt8.ofNat (val.toNat <<< 6)], 6⟩

/-- `cp_amf_set_id_to_u16`. -/
def cpAmfSetIdToU16 (src : BitString) : Except Fault UInt16 := do
  check (src.bitsUnused = 6) .bound
  match src.buf with
  | [b0, b1] => pure (UInt16.ofNat (b0.toNat <<< 8 >>> 6 ||| b1.toNat >>> 6))
  | _ => throw .bound

/-- `cp_amf_ptr_to_bit_string`. -/
def cpAmfPtrToBitString (src : UInt8) : Except Fault BitString := do
  check (src.toNat < 64) .bound
  pure ⟨[UInt8.ofNat (src.toNat <<< 2)], 2⟩

/-- `cp_amf_ptr_to_u8`. -/
def cpAmfPtrToU8 (src : BitString) : Except Fault UInt8 := do
  check (src.bitsUnused = 2) .bound
  match src.buf with
  | [b0] => pure (UInt8.ofNat (b0.toNat >>> 2))
  | _ => throw .bound

/-- `cp_nr_cell_id_to_bit_string`. -/
def cpNrCellIdToBitString (val : UInt64) : Except Fault BitString := do
  check (val.toNat < 68719476736) .bound
  pure ⟨[UInt8.ofNat val.toNat, UInt8.ofNat (val.toNat >>> 8), UInt8.ofNat (val.toNat >>> 16),
    UInt8.ofNat (val.toNat >>> 24), UInt8.ofNat (val.toNat >>> 32 <<< 4)], 4⟩

/-- A value of type `int`, as 32 bits, where one of type `uint64_t` is expected: the
    sign goes into all of the higher bits. -/
def intToU64 (bits : Nat) : Nat := if bits < 2 ^ 31 then bits else 2 ^ 64 - 2 ^ 32 + bits

/-- `cp_nr_cell_id_to_u64`. An octet shifted by 24 bits is an `int`. -/
def cpNrCellIdToU64 (src : BitString) : Except Fault UInt64 := do
  check (src.bitsUnused = 4) .bound
  match src.buf with
  | [b0, b1, b2, b3, b4] =>
      pure (UInt64.ofNat ((b4.toNat >>> 4) <<< 32 ||| intToU64 (b3.toNat <<< 24) |||
        b2.toNat <<< 16 ||| b1.toNat <<< 8 ||| b0.toNat))
  | _ => throw .bound

/-- The conversion of a number to three octets. -/
def cpToThreeOctets (bound unused val : Nat) : Except Fault BitString := do
  check (val < bound) .bound
  pure ⟨[UInt8.ofNat val, UInt8.ofNat (val >>> 8), UInt8.ofNat (val >>> 16 <<< unused)], unused⟩

def cpFromThreeOctets (unused : Nat) (src : BitString) : Except Fault UInt32 := do
  check (src.bitsUnused = unused) .bound
  match src.buf with
  | [b0, b1, b2] =>
      pure (UInt32.ofNat ((b2.toNat >>> unused) <<< 16 ||| b1.toNat <<< 8 ||| b0.toNat))
  | _ => throw .bound

/-- The conversion of a number to four octets. -/
def cpToFourOctets (bound unused val : Nat) : Except Fault BitString := do
  check (val < bound) .bound
  pure ⟨[UInt8.ofNat val, UInt8.ofNat (val >>> 8), UInt8.ofNat (val >>> 16),
    UInt8.ofNat (val >>> 24 <<< unused)], unused⟩

def cpFromFourOctets (unused : Nat) (src : BitString) : Except Fault UInt32 := do
  check (src.bitsUnused = unused) .bound
  match src.buf with
  | [b0, b1, b2, b3] =>
      pure (UInt32.ofNat ((b3.toNat >>> unused) <<< 24 ||| b2.toNat <<< 16 ||| b1.toNat <<< 8 |||
        b0.toNat))
  | _ => throw .bound

def cpEutraCellIdToBitString (val : UInt32) := cpToFourOctets 268435456 4 val.toNat

def cpEutraCellIdToU32 := cpFromFourOctets 4

def cpMacroEnbIdToBitString (val : UInt32) := cpToThreeOctets 1048576 4 val.toNat

def cpMacroEnbIdToU32 := cpFromThreeOctets 4

def cpHomeEnbIdToBitString (val : UInt32) := cpToFourOctets 268435456 4 val.toNat

def cpHomeEnbIdToU32 := cpFromFourOctets 4

def cpShortMacroEnbIdToBitString (val : UInt32) := cpToThreeOctets 262144 6 val.toNat

def cpShortMacroEnbIdToU32 := cpFromThreeOctets 6

def cpLongMacroEnbIdToBitString (val : UInt32) := cpToThreeOctets 2097152 3 val.toNat

def cpLongMacroEnbIdToU32 := cpFromThreeOctets 3

def cpMacroNgEnbIdToBitString (val : UInt32) := cpToThreeOctets 1048576 4 val.toNat

def cpMacroNgEnbIdToU32 := cpFromThreeOctets 4

def cpShortMacroNgEnbIdToBitString (val : UInt32) := cpToThreeOctets 262144 6 val.toNat

def cpShortMacroNgEnbIdToU32 := cpFromThreeOctets 6

def cpLongMacroNgEnbIdToBitString (val : UInt32) := cpToThreeOctets 2097152 3 val.toNat

def cpLongMacroNgEnbIdToU32 := cpFromThreeOctets 3

end FlexRic.Asn
