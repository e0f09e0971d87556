import FlexRic.Library.Wire

/-! # What the messages of the traffic control service model share

The encoder sizes a message, allocates that much and writes it; the decoder reads
it. Each part has its size `cal…`, its writer and its reader, as the source has
them one by one.
-/

namespace FlexRic.Tc

open Wire

/-- The four bytes of a `float`. -/
abbrev FloatBits := UInt32

/-- The many structs that hold one `dummy` word. -/
structure Dummy where
  dummy : UInt32
  deriving DecidableEq, Repr

def calDummy (_ : Dummy) : Nat := 4

def encDummy (d : Dummy) : Bytes := u32 d.dummy

def decDummy : Reader Dummy := do
  let dummy ← readU32
  pure { dummy }

@[simp] theorem length_encDummy (d : Dummy) : (encDummy d).length = calDummy d := length_u32 _

@[simp] theorem decDummy_run (d : Dummy) (rest : Bytes) :
    decDummy.run (encDummy d ++ rest) = .ok (d, rest) := by
  simp [decDummy, encDummy]

/-- `tc_cls_e`. -/
inductive ClsE where
  | rr
  | osi
  | sto
  deriving DecidableEq, Repr

instance : Tag ClsE where
  code
    | .rr => 0
    | .osi => 1
    | .sto => 2
  ofCode v :=
    if v = 0 then some .rr else if v = 1 then some .osi
    else if v = 2 then some .sto else none
  ofCode_code a := by cases a <;> rfl

/-- `tc_queue_e`. -/
inductive QueueE where
  | fifo
  | codel
  | ecnCodel
  deriving DecidableEq, Repr

instance : Tag QueueE where
  code
    | .fifo => 0
    | .codel => 1
    | .ecnCodel => 2
  ofCode v :=
    if v = 0 then some .fifo else if v = 1 then some .codel
    else if v = 2 then some .ecnCodel else none
  ofCode_code a := by cases a <;> rfl

/-- `tc_sch_e`. -/
inductive SchE where
  | rr
  | prio
  deriving DecidableEq, Repr

instance : Tag SchE where
  code
    | .rr => 0
    | .prio => 1
  ofCode v := if v = 0 then some .rr else if v = 1 then some .prio else none
  ofCode_code a := by cases a <;> rfl

/-- `tc_pcr_e`. -/
inductive PcrE where
  | dummy
  | bdp5g
  deriving DecidableEq, Repr

instance : Tag PcrE where
  code
    | .dummy => 0
    | .bdp5g => 1
  ofCode v := if v = 0 then some .dummy else if v = 1 then some .bdp5g else none
  ofCode_code a := by cases a <;> rfl

/-- `L3_filter_t`. -/
structure L3Filter where
  srcAddr : Int64
  dstAddr : Int64
  deriving DecidableEq

/-- `L4_filter_t`. -/
structure L4Filter where
  srcPort : Int32
  dstPort : Int32
  protocol : Int32
  deriving DecidableEq

/-- `tc_cls_osi_filter_t` as it lies in memory. It is copied whole, the bytes that
    align `l3` and the end of the struct with it. -/
structure OsiFilter where
  id : UInt32
  padL3 : UInt32
  l3 : L3Filter
  l4 : L4Filter
  l7 : Dummy
  dstQueue : Int32
  padEnd : UInt32
  deriving DecidableEq

/-- `sizeof(tc_cls_osi_filter_t)`. -/
def sizeofOsiFilter : Nat := 48

def encOsiFilter (f : OsiFilter) : Bytes :=
  u32 f.id ++ u32 f.padL3 ++ i64 f.l3.srcAddr ++ i64 f.l3.dstAddr ++ i32 f.l4.srcPort ++
    i32 f.l4.dstPort ++ i32 f.l4.protocol ++ encDummy f.l7 ++ i32 f.dstQueue ++ u32 f.padEnd

def decOsiFilter : Reader OsiFilter := do
  let id ← readU32
  let padL3 ← readU32
  let srcAddr ← readI64
  let dstAddr ← readI64
  let srcPort ← readI32
  let dstPort ← readI32
  let protocol ← readI32
  let l7 ← decDummy
  let dstQueue ← readI32
  let padEnd ← readU32
  pure { id, padL3, l3 := { srcAddr, dstAddr }, l4 := { srcPort, dstPort, protocol }, l7,
         dstQueue, padEnd }

@[simp] theorem length_encOsiFilter (f : OsiFilter) :
    (encOsiFilter f).length = sizeofOsiFilter := by
  simp [encOsiFilter, sizeofOsiFilter, calDummy]

@[simp] theorem decOsiFilter_run (f : OsiFilter) (rest : Bytes) :
    decOsiFilter.run (encOsiFilter f ++ rest) = .ok (f, rest) := by
  simp [decOsiFilter, encOsiFilter]

/-- `tc_sch_prio_t`. -/
abbrev SchPrio := Counted UInt32

def calSchPrio (p : SchPrio) : Nat := 4 + 4 * p.len.toNat

def encSchPrio (p : SchPrio) : Bytes := u32 p.len ++ writeMany u32 p.items

def decSchPrio : Reader SchPrio := do
  let len ← readU32
  let items ← readMany readU32 len.toNat
  pure { len, items }

@[simp] theorem length_encSchPrio (p : SchPrio) : (encSchPrio p).length = calSchPrio p := by
  rw [encSchPrio, List.length_append, length_u32, length_writeMany length_u32, calSchPrio]

@[simp] theorem decSchPrio_run (p : SchPrio) (rest : Bytes) :
    decSchPrio.run (encSchPrio p ++ rest) = .ok (p, rest) := by
  simp [decSchPrio, encSchPrio, readMany_run readU32_run]

end FlexRic.Tc
