import FlexRic.Slice.Messages
import FlexRic.Util.EqFloat

/-! # Equality and copies of slice messages

A configuration is compared name first, then slice by slice, the uplink before the downlink.
A slice that differs stops the process. Copies are compared with what was copied.
-/

namespace FlexRic.Slice

open Wire

/-- `==` of two fields of type `float`. -/
def sameFloat (a b : FloatBits) : Bool := Float32.ofBits a == Float32.ofBits b

def eqStaticSlice (m0 m1 : StaticSlice) : Bool :=
  m0.posHigh = m1.posHigh && m0.posLow = m1.posLow

def eqNvsRate (m0 m1 : NvsRate) : Bool :=
  sameFloat m0.mbpsReference m1.mbpsReference && sameFloat m0.mbpsRequired m1.mbpsRequired

def eqNvsCap (m0 m1 : NvsCapacity) : Bool := sameFloat m0.pctReserved m1.pctReserved

def eqNvsSlice : NvsSlice → NvsSlice → Bool
  | .rate m0, .rate m1 => eqNvsRate m0 m1
  | .capacity m0, .capacity m1 => eqNvsCap m0 m1
  | _, _ => false

def eqScn19OnDemand (m0 m1 : Scn19OnDemand) : Bool :=
  sameFloat m0.logDelta m1.logDelta && sameFloat m0.pctReserved m1.pctReserved && m0.tau = m1.tau

def eqScn19Slice : Scn19Slice → Scn19Slice → Bool
  | .dynamic m0, .dynamic m1 => eqNvsRate m0 m1
  | .fixed m0, .fixed m1 => eqStaticSlice m0 m1
  | .onDemand m0, .onDemand m1 => eqScn19OnDemand m0 m1
  | _, _ => false

def eqEdfSlice (m0 m1 : EdfSlice) : Except Abort Bool := do
  orAbort (pure (m0.overIds.len = m1.overIds.len))
  orAbort (pure (m0.overIds.items.toList = m1.overIds.items.toList))
  pure (m0.deadline = m1.deadline && m0.guaranteedPrbs = m1.guaranteedPrbs &&
    m0.maxReplenish = m1.maxReplenish && m0.overIds.len = m1.overIds.len)

/-- Parameters of one algorithm. -/
def eqAlgorithm : SliceParams → SliceParams → Except Abort Bool
  | .sta m0, .sta m1 => pure (eqStaticSlice m0 m1)
  | .nvs m0, .nvs m1 => pure (eqNvsSlice m0 m1)
  | .scn19 m0, .scn19 m1 => pure (eqScn19Slice m0 m1)
  | .edf m0, .edf m1 => eqEdfSlice m0 m1
  | _, _ => pure false

/-- Parameters of one algorithm that differ stop the process. -/
def eqSliceParams (m0 m1 : SliceParams) : Except Abort Bool := do
  if m0.type ≠ m1.type then
    pure false
  else
    orAbort (eqAlgorithm m0 m1)
    pure true

/-- Of the scheduler only the length is compared. -/
def eqSlice (m0 m1 : FrSlice) : Except Abort Bool :=
  both (pure (m0.id = m1.id)) <|
  both (pure (m0.label.len = m1.label.len)) <|
  both (pure (m0.label.items.toList = m1.label.items.toList)) <|
  both (pure (m0.sched.len = m1.sched.len)) <|
  eqSliceParams m0.params m1.params

/-- A name without characters is a null pointer. -/
def eqSchedName (m0 m1 : List UInt8) : Bool := m0 = m1

def eqUlDlSliceConf (m0 m1 : UlDlSliceConf) : Except Abort Bool :=
  both (pure (m0.schedName.len = m1.schedName.len)) <|
  both (pure (eqSchedName m0.schedName.items.toList m1.schedName.items.toList)) <|
  both (pure (m0.slices.len = m1.slices.len)) <| do
    eachPair (fun s0 s1 => orAbort (eqSlice s0 s1)) m0.slices.items.toList m1.slices.items.toList
    pure true

def eqSliceConf (m0 m1 : SliceConf) : Except Abort Bool :=
  both (eqUlDlSliceConf m0.ul m1.ul) (eqUlDlSliceConf m0.dl m1.dl)

def eqUeSliceAssoc (m0 m1 : UeSliceAssoc) : Bool :=
  m0.dlId = m1.dlId && m0.rnti = m1.rnti && m0.ulId = m1.ulId

def eqUeSliceConf (m0 m1 : UeSliceConf) : Bool :=
  m0.len = m1.len &&
    (m0.items.toList.zip m1.items.toList).all fun ues => eqUeSliceAssoc ues.1 ues.2

def eqSliceIndMsg (m0 m1 : SliceIndMsg) : Except Abort Bool :=
  both (eqSliceConf m0.sliceConf m1.sliceConf) <|
    pure (eqUeSliceConf m0.ueSliceConf m1.ueSliceConf && m0.tstamp = m1.tstamp)

def eqDelSlice (m0 m1 : DelSliceConf) : Bool :=
  m0.dl.len = m1.dl.len && m0.dl.items.toList = m1.dl.items.toList &&
    m0.ul.len = m1.ul.len && m0.ul.items.toList = m1.ul.items.toList

/-- The first number of each alternative of the union, which is where the others have theirs. -/
def SliceCtrlMsg.firstLen : SliceCtrlMsg → UInt32
  | .addModSlice conf => conf.dl.slices.len
  | .delSlice conf => conf.dl.len
  | .ueSlice conf => conf.len

/-- The second number of an alternative, where it has one. -/
def SliceCtrlMsg.secondLen : SliceCtrlMsg → Option UInt32
  | .addModSlice conf => some conf.dl.schedName.len
  | .delSlice conf => some conf.ul.len
  | .ueSlice _ => none

/-- The second message is read as if it had the type of the first. Lengths are still lengths,
    but arrays of the first type are not there, nor is what lies beyond the alternative that
    was written. -/
def eqOtherMember : SliceCtrlMsg → SliceCtrlMsg → Except Abort Bool
  | .addModSlice _, _ => throw .otherMember
  | .delSlice m0, m1 =>
      if m0.dl.len ≠ m1.firstLen then pure false
      else if m0.dl.len ≠ 0 then throw .otherMember
      else match m1.secondLen with
        | none => throw .otherMember
        | some len =>
            if m0.ul.len ≠ len then pure false
            else if m0.ul.len ≠ 0 then throw .otherMember
            else pure true
  | .ueSlice m0, m1 =>
      if m0.len ≠ m1.firstLen then pure false
      else if m0.len ≠ 0 then throw .otherMember
      else pure true

/-- The types are not compared. -/
def eqSliceCtrlMsg : SliceCtrlMsg → SliceCtrlMsg → Except Abort Bool
  | .addModSlice m0, .addModSlice m1 => eqSliceConf m0 m1
  | .delSlice m0, .delSlice m1 => pure (eqDelSlice m0 m1)
  | .ueSlice m0, .ueSlice m1 => pure (eqUeSliceConf m0 m1)
  | m0, m1 => eqOtherMember m0 m1

/-- The answers are not compared. -/
def eqSliceCtrlOut (m0 m1 : SliceCtrlOut) : Bool :=
  m0.diagnostic.len = m1.diagnostic.len &&
    m0.diagnostic.items.toList = m1.diagnostic.items.toList

/-- An array of its own, with as many items. -/
def cpCounted {α : Type} (src : Counted α) : Counted α where
  len := src.len
  items := src.items

def cpStaticSlice (src : StaticSlice) : StaticSlice where
  posHigh := src.posHigh
  posLow := src.posLow

def cpNvsRate (src : NvsRate) : NvsRate where
  mbpsReference := src.mbpsReference
  mbpsRequired := src.mbpsRequired

def cpNvsSlice : NvsSlice → NvsSlice
  | .rate src => .rate (cpNvsRate src)
  | .capacity src => .capacity ⟨src.pctReserved⟩

def cpScn19Slice : Scn19Slice → Scn19Slice
  | .dynamic src => .dynamic (cpNvsRate src)
  | .fixed src => .fixed (cpStaticSlice src)
  | .onDemand src => .onDemand
      { logDelta := src.logDelta, pctReserved := src.pctReserved, tau := src.tau }

def cpEdfSlice (src : EdfSlice) : EdfSlice where
  deadline := src.deadline
  guaranteedPrbs := src.guaranteedPrbs
  maxReplenish := src.maxReplenish
  overIds := cpCounted src.overIds

/-- The copy, before it is compared. -/
def copyParams : SliceParams → SliceParams
  | .sta src => .sta (cpStaticSlice src)
  | .nvs src => .nvs (cpNvsSlice src)
  | .scn19 src => .scn19 (cpScn19Slice src)
  | .edf src => .edf (cpEdfSlice src)

/-- `assert(eq == true)` behind a copy. -/
def orBadCopy (eq : Except Abort Bool) : Except Abort Unit := do
  let same ← eq
  check (same = true) .copy

def cpSliceParams (src : SliceParams) : Except Abort SliceParams := do
  let dst := copyParams src
  orBadCopy (eqSliceParams dst src)
  pure dst

def cpySlice (src : FrSlice) : Except Abort FrSlice := do
  let params ← cpSliceParams src.params
  let dst := {
    id := src.id
    label := cpCounted src.label
    sched := cpCounted src.sched
    params }
  orBadCopy (eqSlice src dst)
  pure dst

/-- The loop of `cpy_ul_dl_slice_conf`. -/
def cpySlices : (n : Nat) → List.Vector FrSlice n → Except Abort (List.Vector FrSlice n)
  | 0, _ => pure .nil
  | n + 1, slices => do
      let slice ← cpySlice slices.head
      let rest ← cpySlices n slices.tail
      pure (slice ::ᵥ rest)

def cpyUlDlSliceConf (src : UlDlSliceConf) : Except Abort UlDlSliceConf := do
  let slices ← cpySlices src.slices.len.toNat src.slices.items
  let dst := {
    schedName := cpCounted src.schedName
    slices := { len := src.slices.len, items := slices } }
  orBadCopy (eqUlDlSliceConf src dst)
  pure dst

def cpSliceConf (src : SliceConf) : Except Abort SliceConf := do
  let dl ← cpyUlDlSliceConf src.dl
  let ul ← cpyUlDlSliceConf src.ul
  let dst := { dl, ul }
  orBadCopy (eqSliceConf src dst)
  pure dst

def cpUeSliceAssoc (src : UeSliceAssoc) : UeSliceAssoc where
  ulId := src.ulId
  dlId := src.dlId
  rnti := src.rnti

def cpUeSliceConf (src : UeSliceConf) : UeSliceConf where
  len := src.len
  items := src.items.map cpUeSliceAssoc

def cpSliceIndMsg (src : SliceIndMsg) : Except Abort SliceIndMsg := do
  let sliceConf ← cpSliceConf src.sliceConf
  let out := {
    sliceConf
    ueSliceConf := cpUeSliceConf src.ueSliceConf
    tstamp := src.tstamp }
  orBadCopy (eqSliceIndMsg src out)
  pure out

def cpDelSlice (src : DelSliceConf) : DelSliceConf where
  dl := cpCounted src.dl
  ul := cpCounted src.ul

def cpSliceCtrlMsg : SliceCtrlMsg → Except Abort SliceCtrlMsg
  | .addModSlice src => do
      let conf ← cpSliceConf src
      pure (.addModSlice conf)
  | .delSlice src => pure (.delSlice (cpDelSlice src))
  | .ueSlice src => pure (.ueSlice (cpUeSliceConf src))

/-- The answer stays as it was initialised. -/
def cpSliceCtrlOut (src : SliceCtrlOut) : SliceCtrlOut where
  ans := .ok
  diagnostic := cpCounted src.diagnostic

end FlexRic.Slice
