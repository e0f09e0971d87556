import FlexRic.Kpm.Formats
import FlexRic.Library.Comparison

/-! # The definition of the KPM RAN function

A node tells its report styles and what can be measured in each. The formats of a style
are not sent: both sides know them from its number.
-/

namespace FlexRic.Kpm

open Asn (Fault)
open E2sm (longOf16 low16 octetStringFromBuf)
open Wire (Bytes)

/-- `maxnoofRICStyles`. -/
def maxnoofRicStyles : Nat := 63

/-- `ran_function_name_t`. -/
structure RanFunctionName where
  name : Bytes
  oid : Bytes
  description : Bytes
  instanceId : Option Int64
  deriving DecidableEq

/-- `style_ric_event_trigger_e`. -/
inductive EventTriggerStyle where
  | style1
  deriving DecidableEq

/-- `format_ric_event_trigger_e`. -/
inductive EventTriggerFormat where
  | format1
  deriving DecidableEq

/-- `ric_event_trigger_style_item_t`. -/
structure EventTriggerStyleItem where
  styleType : EventTriggerStyle
  styleName : Bytes
  formatType : EventTriggerFormat
  deriving DecidableEq

/-- `ric_service_report_e`. -/
inductive RicServiceReport where
  | style1 | style2 | style3 | style4 | style5
  deriving DecidableEq

/-- `format_action_def_e`. -/
inductive FormatActionDef where
  | format1 | format2 | format3 | format4 | format5
  deriving DecidableEq

/-- `format_ind_hdr_e`. -/
inductive FormatIndHdr where
  | format1
  deriving DecidableEq

/-- `format_ind_msg_e`. -/
inductive FormatIndMsg where
  | format1 | format2 | format3
  deriving DecidableEq

/-- A pointer, with what it points to. -/
structure Pointer (α : Type) where
  addr : Nat
  target : α
  deriving DecidableEq

/-- `meas_info_for_action_lst_t`. What its id is depends on whether addresses matter. -/
structure MeasInfoForAction (Id : Type) where
  name : Bytes
  id : Option Id
  binRangeDef : Option BinRangeDef
  deriving DecidableEq

/-- `ric_report_style_item_t`. -/
structure ReportStyleItem (Id : Type) where
  reportStyleType : RicServiceReport
  reportStyleName : Bytes
  actDefFormatType : FormatActionDef
  measInfoForActionLst : List (MeasInfoForAction Id)
  indHdrFormatType : FormatIndHdr
  indMsgFormatType : FormatIndMsg
  deriving DecidableEq

/-- `kpm_ran_function_def_t`. -/
structure KpmRanFunctionDef (Id : Type) where
  name : RanFunctionName
  ricEventTriggerStyleList : Option (List EventTriggerStyleItem)
  ricReportStyleList : Option (List (ReportStyleItem Id))
  deriving DecidableEq

section
variable {Id Id' : Type}

def MeasInfoForAction.map (f : Id → Id') (src : MeasInfoForAction Id) : MeasInfoForAction Id' where
  name := src.name
  id := src.id.map f
  binRangeDef := src.binRangeDef

def ReportStyleItem.map (f : Id → Id') (src : ReportStyleItem Id) : ReportStyleItem Id' where
  reportStyleType := src.reportStyleType
  reportStyleName := src.reportStyleName
  actDefFormatType := src.actDefFormatType
  measInfoForActionLst := src.measInfoForActionLst.map (·.map f)
  indHdrFormatType := src.indHdrFormatType
  indMsgFormatType := src.indMsgFormatType

def KpmRanFunctionDef.map (f : Id → Id') (src : KpmRanFunctionDef Id) : KpmRanFunctionDef Id' where
  name := src.name
  ricEventTriggerStyleList := src.ricEventTriggerStyleList
  ricReportStyleList := src.ricReportStyleList.map (·.map (·.map f))

end

/-- A definition as it lies in memory. -/
abbrev StoredFunctionDef := KpmRanFunctionDef (Pointer UInt16)

/-- What a definition in memory says. -/
def StoredFunctionDef.values (src : StoredFunctionDef) : KpmRanFunctionDef UInt16 :=
  src.map Pointer.target

/-- `RANfunction_Name_t`. -/
structure RanFunctionNameAsn where
  ranFunctionShortName : Bytes
  ranFunctionE2smOid : Bytes
  ranFunctionDescription : Bytes
  ranFunctionInstance : Option Int64
  deriving DecidableEq

/-- `RIC_EventTriggerStyle_Item_t`. -/
structure RicEventTriggerStyleItem where
  ricEventTriggerStyleType : Int64
  ricEventTriggerStyleName : Bytes
  ricEventTriggerFormatType : Int64
  deriving DecidableEq

/-- `MeasurementInfo_Action_Item_t`. -/
structure MeasurementInfoActionItem where
  measName : Bytes
  measId : Option Int64
  binRangeDef : Option BinRangeDefinition
  deriving DecidableEq

/-- `RIC_ReportStyle_Item_t`. -/
structure RicReportStyleItem where
  ricReportStyleType : Int64
  ricReportStyleName : Bytes
  ricActionFormatType : Int64
  measInfoActionList : List MeasurementInfoActionItem
  ricIndicationHeaderFormatType : Int64
  ricIndicationMessageFormatType : Int64
  deriving DecidableEq

/-- `E2SM_KPM_RANfunction_Description_t`. -/
structure RanFunctionDescription where
  ranFunctionName : RanFunctionNameAsn
  ricEventTriggerStyleList : Option (List RicEventTriggerStyleItem)
  ricReportStyleList : Option (List RicReportStyleItem)
  deriving DecidableEq

def encRanFunctionName (src : RanFunctionName) : Except Fault RanFunctionNameAsn := do
  let ranFunctionDescription ← octetStringFromBuf src.description
  let ranFunctionE2smOid ← octetStringFromBuf src.oid
  let ranFunctionShortName ← octetStringFromBuf src.name
  pure {
    ranFunctionShortName
    ranFunctionE2smOid
    ranFunctionDescription
    ranFunctionInstance := src.instanceId }

def encEventTriggerStyle (src : EventTriggerStyleItem) : Except Fault RicEventTriggerStyleItem :=
  match src.styleType with
  | .style1 => do
      let ricEventTriggerStyleName ← octetStringFromBuf src.styleName
      pure {
        ricEventTriggerStyleType := 1, ricEventTriggerStyleName, ricEventTriggerFormatType := 1 }

def encMeasInfoForAction (src : MeasInfoForAction UInt16) :
    Except Fault MeasurementInfoActionItem := do
  let measName ← octetStringFromBuf src.name
  check (src.binRangeDef = none) .notImplemented
  pure { measName, measId := src.id.map longOf16, binRangeDef := none }

/-- The number of a style, and those of the formats of its actions, headers and messages. -/
def styleNumbers : RicServiceReport → Int64 × Int64 × Int64 × Int64
  | .style1 => (1, 1, 1, 1)
  | .style2 => (2, 2, 1, 1)
  | .style3 => (3, 3, 1, 2)
  | .style4 => (4, 4, 1, 3)
  | .style5 => (5, 5, 1, 3)

/-- The formats that the item has are not looked at. -/
def encReportStyle (src : ReportStyleItem UInt16) : Except Fault RicReportStyleItem := do
  let ricReportStyleName ← octetStringFromBuf src.reportStyleName
  let measInfoActionList ←
    mapMWithin 1 maxnoofMeasurementInfo .bound encMeasInfoForAction src.measInfoForActionLst
  pure {
    ricReportStyleType := (styleNumbers src.reportStyleType).1
    ricReportStyleName
    ricActionFormatType := (styleNumbers src.reportStyleType).2.1
    measInfoActionList
    ricIndicationHeaderFormatType := (styleNumbers src.reportStyleType).2.2.1
    ricIndicationMessageFormatType := (styleNumbers src.reportStyleType).2.2.2 }

def encReportStyles (lst : List (ReportStyleItem UInt16)) :
    Except Fault (Option (List RicReportStyleItem)) := do
  let styles ← mapMWithin 0 maxnoofRicStyles .bound encReportStyle lst
  -- No list is allocated for no styles.
  pure (if lst = [] then none else some styles)

/-- The unit of `kpm_enc_func_def_asn`. -/
def funcDefUnit (src : KpmRanFunctionDef UInt16) : Except Fault RanFunctionDescription := do
  let ranFunctionName ← encRanFunctionName src.name
  let ricEventTriggerStyleList ←
    src.ricEventTriggerStyleList.mapM (mapMWithin 0 maxnoofRicStyles .bound encEventTriggerStyle)
  let ricReportStyleList ← src.ricReportStyleList.mapM encReportStyles
  pure { ranFunctionName, ricEventTriggerStyleList, ricReportStyleList := ricReportStyleList.join }

def decRanFunctionName (src : RanFunctionNameAsn) : RanFunctionName where
  name := src.ranFunctionShortName
  oid := src.ranFunctionE2smOid
  description := src.ranFunctionDescription
  instanceId := src.ranFunctionInstance

def decEventTriggerStyle (src : RicEventTriggerStyleItem) : Except Fault EventTriggerStyleItem := do
  check (src.ricEventTriggerStyleType = 1) .notImplemented
  pure { styleType := .style1, styleName := src.ricEventTriggerStyleName, formatType := .format1 }

def decMeasInfoForAction (src : MeasurementInfoActionItem) :
    Except Fault (MeasInfoForAction UInt16) := do
  check (src.binRangeDef = none) .notImplemented
  pure { name := src.measName, id := src.measId.map low16, binRangeDef := none }

/-- The formats of a style, which table 7.8-1 of the standard tells. -/
def styleFormats : RicServiceReport → FormatActionDef × FormatIndHdr × FormatIndMsg
  | .style1 => (.format1, .format1, .format1)
  | .style2 => (.format2, .format1, .format1)
  | .style3 => (.format3, .format1, .format2)
  | .style4 => (.format4, .format1, .format3)
  | .style5 => (.format5, .format1, .format3)

def decReportStyleType (type : Int64) : Except Fault RicServiceReport :=
  if type = 1 then .ok .style1
  else if type = 2 then .ok .style2
  else if type = 3 then .ok .style3
  else if type = 4 then .ok .style4
  else if type = 5 then .ok .style5
  else .error .notImplemented

/-- The formats are those of the style, whatever the unit says. -/
def decReportStyle (src : RicReportStyleItem) : Except Fault (ReportStyleItem UInt16) := do
  let reportStyleType ← decReportStyleType src.ricReportStyleType
  let measInfoForActionLst ←
    mapMWithin 1 maxnoofMeasurementInfo .bound decMeasInfoForAction src.measInfoActionList
  pure {
    reportStyleType
    reportStyleName := src.ricReportStyleName
    actDefFormatType := (styleFormats reportStyleType).1
    measInfoForActionLst
    indHdrFormatType := (styleFormats reportStyleType).2.1
    indMsgFormatType := (styleFormats reportStyleType).2.2 }

/-- The definition that `kpm_dec_func_def_asn` takes a unit for. -/
def funcDefOf (src : RanFunctionDescription) : Except Fault (KpmRanFunctionDef UInt16) := do
  let ricEventTriggerStyleList ←
    src.ricEventTriggerStyleList.mapM (mapMWithin 1 maxnoofRicStyles .bound decEventTriggerStyle)
  let ricReportStyleList ←
    src.ricReportStyleList.mapM (mapMWithin 1 maxnoofRicStyles .bound decReportStyle)
  pure {
    name := decRanFunctionName src.ranFunctionName, ricEventTriggerStyleList, ricReportStyleList }

def kpmEncFuncDefAsn (p : Packing RanFunctionDescription) :
    KpmRanFunctionDef UInt16 → Except Fault Bytes :=
  encodeWith funcDefUnit p bufferLen .aper

def kpmDecFuncDefAsn (p : Packing RanFunctionDescription) :
    Bytes → Except Fault (KpmRanFunctionDef UInt16) :=
  decodeWith funcDefOf p .aper

/-- The second instance is read wherever there is a first one. -/
def eqRanFunctionName (m0 m1 : RanFunctionName) : Except Fault Bool :=
  if m0.name ≠ m1.name then pure false
  else if m0.oid ≠ m1.oid then pure false
  else if m0.description ≠ m1.description then pure false
  else
    match m0.instanceId, m1.instanceId with
    | some i0, some i1 => pure (i0 = i1)
    | some _, none => throw .missing
    | none, _ => pure true

def eqRicEventTriggerStyleList (m0 m1 : EventTriggerStyleItem) : Bool :=
  m0.styleType = m1.styleType && m0.styleName = m1.styleName && m0.formatType = m1.formatType

/-- Numbers that are equal as `double`s are. -/
def eqBinRangeValue : BinRangeValue → BinRangeValue → Bool
  | .integer v0, .integer v1 => v0 = v1
  | .real v0, .real v1 => Float.ofBits v0 == Float.ofBits v1
  | _, _ => false

def eqBinDistr (m0 m1 : BinDistr) : Bool :=
  m0.binIndex = m1.binIndex && eqBinRangeValue m0.startValue m1.startValue &&
    eqBinRangeValue m0.endValue m1.endValue

def eqKpmBinRangeDef (m0 m1 : BinRangeDef) : Except Fault Bool := do
  if m0.binX.length ≠ m1.binX.length then pure false
  else if (m0.binX.zip m1.binX).any fun bins => !eqBinDistr bins.1 bins.2 then pure false
  else do
    check (m0.binY.length = m1.binY.length ∧ m0.binZ.length = m1.binZ.length) .notImplemented
    pure true

/-- The pointers to the ids are compared, not the ids. The two items are two objects. -/
def eqMeasInfoForActionLst (m0 m1 : MeasInfoForAction (Pointer UInt16)) : Except Fault Bool :=
  if m0.name ≠ m1.name then pure false
  else if m0.id.map Pointer.addr ≠ m1.id.map Pointer.addr then pure false
  else
    match m0.binRangeDef, m1.binRangeDef with
    | none, none => pure true
    | some b0, some b1 => eqKpmBinRangeDef b0 b1
    | _, _ => pure false

def eqRicReportStyleItem (m0 m1 : ReportStyleItem (Pointer UInt16)) : Except Fault Bool :=
  if m0.reportStyleType ≠ m1.reportStyleType then pure false
  else if m0.reportStyleName ≠ m1.reportStyleName then pure false
  else if m0.actDefFormatType ≠ m1.actDefFormatType then pure false
  else do
    check (0 < m0.measInfoForActionLst.length ∧ m0.measInfoForActionLst.length < 65536) .bound
    check (0 < m1.measInfoForActionLst.length ∧ m1.measInfoForActionLst.length < 65536) .bound
    if m0.measInfoForActionLst.length ≠ m1.measInfoForActionLst.length then pure false
    else do
      let same ← eqLst eqMeasInfoForActionLst m0.measInfoForActionLst m1.measInfoForActionLst
      pure (same && m0.indHdrFormatType = m1.indHdrFormatType &&
        m0.indMsgFormatType = m1.indMsgFormatType)

/-- A list that is absent has no items. -/
def items {α : Type} (lst : Option (List α)) : List α := lst.getD []

def eqKpmRanFunctionDef (m0 m1 : StoredFunctionDef) : Except Fault Bool := do
  let sameName ← eqRanFunctionName m0.name m1.name
  if !sameName then pure false
  else if (items m0.ricEventTriggerStyleList).length ≠
      (items m1.ricEventTriggerStyleList).length then
    pure false
  else if ((items m0.ricEventTriggerStyleList).zip (items m1.ricEventTriggerStyleList)).any
      fun styles => !eqRicEventTriggerStyleList styles.1 styles.2 then
    pure false
  else if (items m0.ricReportStyleList).length ≠ (items m1.ricReportStyleList).length then
    pure false
  else eqLst eqRicReportStyleItem (items m0.ricReportStyleList) (items m1.ricReportStyleList)

end FlexRic.Kpm
