import FlexRic.Library.Wire

/-! # The messages of the slice service model

Size, writer and reader of a message are three traversals of the source, each with a
function of its own for every part. The writers and readers are both called `fill_…`.
-/

namespace FlexRic.Slice

open Wire

/-- The four bytes of a `float`. -/
abbrev FloatBits := UInt32

/-- `static_slice_t`. -/
structure StaticSlice where
  posLow : UInt32
  posHigh : UInt32
  deriving DecidableEq

/-- `nvs_rate_t`. -/
structure NvsRate where
  mbpsRequired : FloatBits
  mbpsReference : FloatBits
  deriving DecidableEq

/-- `nvs_capacity_t`. -/
structure NvsCapacity where
  pctReserved : FloatBits
  deriving DecidableEq

/-- `nvs_slice_conf_e`. -/
inductive NvsSliceConf where
  | rate
  | capacity
  deriving DecidableEq, Repr

instance : Tag NvsSliceConf where
  code
    | .rate => 0
    | .capacity => 1
  ofCode v := if v = 0 then some .rate else if v = 1 then some .capacity else none
  ofCode_code a := by cases a <;> rfl

/-- `nvs_slice_t`. -/
inductive NvsSlice where
  | rate (rate : NvsRate)
  | capacity (capacity : NvsCapacity)
  deriving DecidableEq

def NvsSlice.conf : NvsSlice → NvsSliceConf
  | .rate _ => .rate
  | .capacity _ => .capacity

/-- `scn19_on_demand_t`. -/
structure Scn19OnDemand where
  pctReserved : FloatBits
  logDelta : FloatBits
  tau : UInt32
  deriving DecidableEq

/-- `scn19_slice_conf_e`. -/
inductive Scn19SliceConf where
  | dynamic
  | fixed
  | onDemand
  deriving DecidableEq, Repr

instance : Tag Scn19SliceConf where
  code
    | .dynamic => 0
    | .fixed => 1
    | .onDemand => 2
  ofCode v :=
    if v = 0 then some .dynamic else if v = 1 then some .fixed
    else if v = 2 then some .onDemand else none
  ofCode_code a := by cases a <;> rfl

/-- `scn19_slice_t`. -/
inductive Scn19Slice where
  | dynamic (dynamic : NvsRate)
  | fixed (fixed : StaticSlice)
  | onDemand (onDemand : Scn19OnDemand)
  deriving DecidableEq

def Scn19Slice.conf : Scn19Slice → Scn19SliceConf
  | .dynamic _ => .dynamic
  | .fixed _ => .fixed
  | .onDemand _ => .onDemand

/-- `edf_slice_t`. -/
structure EdfSlice where
  deadline : UInt32
  guaranteedPrbs : UInt32
  maxReplenish : UInt32
  overIds : Counted UInt32

/-- `slice_algorithm_e`. Sizes, writers and readers all stop at a slice without an
    algorithm, as at a number without a meaning. -/
inductive SliceAlgorithm where
  | static
  | nvs
  | scn19
  | edf
  deriving DecidableEq, Repr

instance : Tag SliceAlgorithm where
  code
    | .static => 1
    | .nvs => 2
    | .scn19 => 3
    | .edf => 4
  ofCode v :=
    if v = 1 then some .static else if v = 2 then some .nvs
    else if v = 3 then some .scn19 else if v = 4 then some .edf else none
  ofCode_code a := by cases a <;> rfl

/-- `slice_params_t`. -/
inductive SliceParams where
  | sta (sta : StaticSlice)
  | nvs (nvs : NvsSlice)
  | scn19 (scn19 : Scn19Slice)
  | edf (edf : EdfSlice)

def SliceParams.type : SliceParams → SliceAlgorithm
  | .sta _ => .static
  | .nvs _ => .nvs
  | .scn19 _ => .scn19
  | .edf _ => .edf

/-- `fr_slice_t`. -/
structure FrSlice where
  id : UInt32
  label : Counted UInt8
  sched : Counted UInt8
  params : SliceParams

/-- `ul_dl_slice_conf_t`. -/
structure UlDlSliceConf where
  slices : Counted FrSlice
  schedName : Counted UInt8

/-- `slice_conf_t`. -/
structure SliceConf where
  dl : UlDlSliceConf
  ul : UlDlSliceConf

/-- `ue_slice_assoc_t`. -/
structure UeSliceAssoc where
  dlId : UInt32
  ulId : UInt32
  rnti : UInt16
  deriving DecidableEq

/-- `ue_slice_conf_t`. -/
abbrev UeSliceConf := Counted UeSliceAssoc

/-- `slice_ind_msg_t`. -/
structure SliceIndMsg where
  sliceConf : SliceConf
  ueSliceConf : UeSliceConf
  tstamp : Int64

/-- `del_slice_conf_t`. -/
structure DelSliceConf where
  dl : Counted UInt32
  ul : Counted UInt32

/-- `slice_ctrl_msg_e`. -/
inductive SliceCtrlMsgType where
  | add
  | del
  | ueSliceAssoc
  deriving DecidableEq, Repr

instance : Tag SliceCtrlMsgType where
  code
    | .add => 0
    | .del => 1
    | .ueSliceAssoc => 2
  ofCode v :=
    if v = 0 then some .add else if v = 1 then some .del
    else if v = 2 then some .ueSliceAssoc else none
  ofCode_code a := by cases a <;> rfl

/-- `slice_ctrl_msg_t`. -/
inductive SliceCtrlMsg where
  | addModSlice (conf : SliceConf)
  | delSlice (conf : DelSliceConf)
  | ueSlice (conf : UeSliceConf)

def SliceCtrlMsg.type : SliceCtrlMsg → SliceCtrlMsgType
  | .addModSlice _ => .add
  | .delSlice _ => .del
  | .ueSlice _ => .ueSliceAssoc

/-- `slice_ctrl_out_e`. -/
inductive SliceCtrlOutE where
  | ok
  | error
  deriving DecidableEq, Repr

/-- `slice_ctrl_out_t`. -/
structure SliceCtrlOut where
  ans : SliceCtrlOutE
  diagnostic : Counted UInt8

def calStatic (_ : StaticSlice) : Nat := 4 + 4

def calNvs : NvsSlice → Nat
  | .rate _ => 4 + 4 + 4
  | .capacity _ => 4 + 4

def calScn19 : Scn19Slice → Nat
  | .dynamic _ => 4 + 4 + 4
  | .fixed _ => 4 + 4 + 4
  | .onDemand _ => 4 + 4 + 4 + 4

def calEdf (edf : EdfSlice) : Nat := 4 + 4 + 4 + 4 + 4 * edf.overIds.len.toNat

def calParams (par : SliceParams) : Nat :=
  4 + match par with
    | .sta sta => calStatic sta
    | .nvs nvs => calNvs nvs
    | .scn19 scn19 => calScn19 scn19
    | .edf edf => calEdf edf

/-- The loop body of `cal_slc`. -/
def calSlice (slc : FrSlice) : Nat :=
  4 + 4 + slc.label.len.toNat + 4 + slc.sched.len.toNat + calParams slc.params

def calUlDl (slc : UlDlSliceConf) : Nat :=
  4 + slc.schedName.len.toNat + 4 + (slc.slices.items.toList.map calSlice).sum

def calSliceConf (slc : SliceConf) : Nat := calUlDl slc.ul + calUlDl slc.dl

def calUeSliceAssoc (_ : UeSliceAssoc) : Nat := 4 + 4 + 2

def calUeSliceConf (slc : UeSliceConf) : Nat :=
  4 + (slc.items.toList.map calUeSliceAssoc).sum

def calIndMsgPayload (indMsg : SliceIndMsg) : Nat :=
  calSliceConf indMsg.sliceConf + calUeSliceConf indMsg.ueSliceConf + 8

def calDelSlice (del : DelSliceConf) : Nat :=
  4 + del.dl.len.toNat * 4 + 4 + del.ul.len.toNat * 4

def calCtrlMsgPayload (ctrlMsg : SliceCtrlMsg) : Nat :=
  4 + match ctrlMsg with
    | .addModSlice conf => calSliceConf conf
    | .delSlice conf => calDelSlice conf
    | .ueSlice conf => calUeSliceConf conf

/-- A counted string of characters. -/
def countedBytes (s : Counted UInt8) : Bytes := u32 s.len ++ s.items.toList

/-- A counted array of numbers. -/
def countedU32s (xs : Counted UInt32) : Bytes := u32 xs.len ++ writeMany u32 xs.items

namespace Enc

open Writer

def fillStatic (sta : StaticSlice) : Writer :=
  inside.seq (put (u32 sta.posHigh ++ u32 sta.posLow))

def fillRate (nvs : NvsRate) : Bytes := u32 nvs.mbpsReference ++ u32 nvs.mbpsRequired

def fillCapacity (nvs : NvsCapacity) : Bytes := u32 nvs.pctReserved

def fillNvs (nvs : NvsSlice) : Bytes :=
  tag nvs.conf ++ match nvs with
    | .rate rate => fillRate rate
    | .capacity capacity => fillCapacity capacity

def fillOnDemand (scn : Scn19OnDemand) : Bytes :=
  u32 scn.logDelta ++ u32 scn.pctReserved ++ u32 scn.tau

def fillScn19 (scn : Scn19Slice) : Writer :=
  (put (tag scn.conf)).seq <| match scn with
    | .dynamic rate => put (fillRate rate)
    | .fixed sta => fillStatic sta
    | .onDemand scn => put (fillOnDemand scn)

def fillEdf (edf : EdfSlice) : Bytes :=
  u32 edf.deadline ++ u32 edf.guaranteedPrbs ++ u32 edf.maxReplenish ++ countedU32s edf.overIds

def fillParams (par : SliceParams) : Writer :=
  (put (tag par.type)).seq <| match par with
    | .sta sta => fillStatic sta
    | .nvs nvs => put (fillNvs nvs)
    | .scn19 scn => fillScn19 scn
    | .edf edf => put (fillEdf edf)

def fillSlice (slc : FrSlice) : Writer :=
  inside.seq <| (put (u32 slc.id ++ countedBytes slc.label ++ countedBytes slc.sched)).seq
    (fillParams slc.params)

def fillUlDlSliceConf (conf : UlDlSliceConf) : Writer :=
  (put (countedBytes conf.schedName ++ u32 conf.slices.len)).seq
    (each fillSlice conf.slices.items.toList)

def fillSliceConf (conf : SliceConf) : Writer :=
  (fillUlDlSliceConf conf.dl).seq (fillUlDlSliceConf conf.ul)

def fillUeSliceAssoc (assoc : UeSliceAssoc) : Writer :=
  inside.seq (put (u32 assoc.dlId ++ u32 assoc.ulId ++ u16 assoc.rnti))

def fillUeSliceConf (slc : UeSliceConf) : Writer :=
  (put (u32 slc.len)).seq (each fillUeSliceAssoc slc.items.toList)

def fillDelSliceConf (conf : DelSliceConf) : Bytes := countedU32s conf.dl ++ countedU32s conf.ul

def fillSliceCtrlMsg (msg : SliceCtrlMsg) : Writer :=
  (put (tag msg.type)).seq <| match msg with
    | .addModSlice conf => fillSliceConf conf
    | .delSlice conf => put (fillDelSliceConf conf)
    | .ueSlice conf => fillUeSliceConf conf

end Enc

open Enc in
def sliceEncIndMsgPlain (indMsg : SliceIndMsg) : Except Fault Bytes := do
  let sz := calIndMsgPayload indMsg
  let it ← fillSliceConf indMsg.sliceConf sz []
  let it ← fillUeSliceConf indMsg.ueSliceConf sz it
  writeAll sz (it ++ i64 indMsg.tstamp)

open Enc in
def sliceEncCtrlMsgPlain (ctrlMsg : SliceCtrlMsg) : Except Fault Bytes := do
  let sz := calCtrlMsgPayload ctrlMsg
  let it ← fillSliceCtrlMsg ctrlMsg sz []
  writeAll sz it

/-- The answer itself is not written. -/
def sliceEncCtrlOutPlain (ctrl : SliceCtrlOut) : Except Fault Bytes :=
  writeAll (4 + ctrl.diagnostic.len.toNat) (countedBytes ctrl.diagnostic)

/-- A string of characters. Room is made for one more byte than it has, and that number
    is computed in 32 bits. -/
def readString : Reader (Counted UInt8) := do
  let len ← readU32
  if len ≠ 0 ∧ len + 1 = 0 then
    throw .outOfChunk
  let items ← readMany readU8 len.toNat
  pure { len, items }

namespace Dec

def fillStatic : Reader StaticSlice := do
  let posHigh ← readU32
  let posLow ← readU32
  pure { posLow, posHigh }

def fillRate : Reader NvsRate := do
  let mbpsReference ← readU32
  let mbpsRequired ← readU32
  pure { mbpsRequired, mbpsReference }

def fillCapacity : Reader NvsCapacity := do
  let pctReserved ← readU32
  pure { pctReserved }

def fillNvs : Reader NvsSlice := do
  match ← readTag with
  | NvsSliceConf.rate =>
      let rate ← fillRate
      pure (.rate rate)
  | NvsSliceConf.capacity =>
      let capacity ← fillCapacity
      pure (.capacity capacity)

def fillOnDemand : Reader Scn19OnDemand := do
  let logDelta ← readU32
  let pctReserved ← readU32
  let tau ← readU32
  pure { pctReserved, logDelta, tau }

def fillScn19 : Reader Scn19Slice := do
  match ← readTag with
  | Scn19SliceConf.dynamic =>
      let rate ← fillRate
      pure (.dynamic rate)
  | Scn19SliceConf.fixed =>
      let sta ← fillStatic
      pure (.fixed sta)
  | Scn19SliceConf.onDemand =>
      let scn ← fillOnDemand
      pure (.onDemand scn)

def fillEdf : Reader EdfSlice := do
  let deadline ← readU32
  let guaranteedPrbs ← readU32
  let maxReplenish ← readU32
  let overIds ← readCounted readU32
  pure { deadline, guaranteedPrbs, maxReplenish, overIds }

def fillParams : Reader SliceParams := do
  match ← readTag with
  | SliceAlgorithm.static =>
      let sta ← fillStatic
      pure (.sta sta)
  | SliceAlgorithm.nvs =>
      let nvs ← fillNvs
      pure (.nvs nvs)
  | SliceAlgorithm.scn19 =>
      let scn ← fillScn19
      pure (.scn19 scn)
  | SliceAlgorithm.edf =>
      let edf ← fillEdf
      pure (.edf edf)

def fillSlice : Reader FrSlice := do
  let id ← readU32
  let label ← readString
  let sched ← readString
  let params ← fillParams
  pure { id, label, sched, params }

def fillUlDlSliceConf : Reader UlDlSliceConf := do
  let schedName ← readString
  let slices ← readCounted fillSlice
  pure { slices, schedName }

def fillSliceConf : Reader SliceConf := do
  let dl ← fillUlDlSliceConf
  let ul ← fillUlDlSliceConf
  pure { dl, ul }

def fillUeSliceAssoc : Reader UeSliceAssoc := do
  let dlId ← readU32
  let ulId ← readU32
  let rnti ← readU16
  pure { dlId, ulId, rnti }

def fillUeSliceConf : Reader UeSliceConf := readCounted fillUeSliceAssoc

def fillDelSlice : Reader DelSliceConf := do
  let dl ← readCounted readU32
  let ul ← readCounted readU32
  pure { dl, ul }

def indMsg : Reader SliceIndMsg := do
  let sliceConf ← fillSliceConf
  let ueSliceConf ← fillUeSliceConf
  let tstamp ← readI64
  pure { sliceConf, ueSliceConf, tstamp }

def ctrlMsg : Reader SliceCtrlMsg := do
  match ← readTag with
  | SliceCtrlMsgType.add =>
      let conf ← fillSliceConf
      pure (.addModSlice conf)
  | SliceCtrlMsgType.del =>
      let conf ← fillDelSlice
      pure (.delSlice conf)
  | SliceCtrlMsgType.ueSliceAssoc =>
      let conf ← fillUeSliceConf
      pure (.ueSlice conf)

/-- The answer stays as it was initialised. -/
def ctrlOut : Reader SliceCtrlOut := do
  let diagnostic ← readCounted readU8
  pure { ans := .ok, diagnostic }

end Dec

def sliceDecIndMsgPlain (indMsg : Bytes) : Except Fault SliceIndMsg := readAll Dec.indMsg indMsg

def sliceDecCtrlMsgPlain (ctrlMsg : Bytes) : Except Fault SliceCtrlMsg :=
  readAll Dec.ctrlMsg ctrlMsg

/-- Whether all bytes were read is not looked at. -/
def sliceDecCtrlOutPlain (ctrlOut : Bytes) : Except Fault (SliceCtrlOut × Bytes) :=
  Dec.ctrlOut.run ctrlOut

end FlexRic.Slice
