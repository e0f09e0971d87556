import FlexRic.Kpm.Types

/-! # Units of the KPM service model

What the generated codec packs. A `long` has 64 bits.
-/

namespace FlexRic.Kpm

open E2sm (Cgi Ueid)
open Wire (Bytes)

/-- `MeasurementType_t`. -/
inductive MeasurementType where
  | measName (name : Bytes)
  | measId (id : Int64)
  deriving DecidableEq

/-- `S_NSSAI_t`. -/
structure SNssaiAsn where
  sst : Bytes
  sd : Option Bytes
  deriving DecidableEq

/-- The parts of `MeasurementLabel_t` that the decoder refuses. -/
structure RefusedLabelsAsn where
  qFI : Option Int64
  qCI : Option Int64
  qCImax : Option Int64
  qCImin : Option Int64
  aRPmax : Option Int64
  aRPmin : Option Int64
  bitrateRange : Option Int64
  layerMuMimo : Option Int64
  sUM : Option Int64
  distBinX : Option Int64
  distBinY : Option Int64
  distBinZ : Option Int64
  preLabelOverride : Option Int64
  startEndInd : Option Int64
  min : Option Int64
  max : Option Int64
  deriving DecidableEq

def RefusedLabelsAsn.absent : RefusedLabelsAsn :=
  ⟨none, none, none, none, none, none, none, none, none, none, none, none, none, none, none, none⟩

/-- `MeasurementLabel_t`. -/
structure MeasurementLabel where
  noLabel : Option Int64
  plmnId : Option Bytes
  sliceId : Option SNssaiAsn
  fiveQI : Option Int64
  refused : RefusedLabelsAsn
  avg : Option Int64
  deriving DecidableEq

/-- `BinRangeValue_t`. -/
inductive BinRangeValueAsn where
  | valueInt (value : Int64)
  | valueReal (value : Double)
  deriving DecidableEq

/-- `BinRangeItem_t`. -/
structure BinRangeItem where
  binIndex : Int64
  startValue : BinRangeValueAsn
  endValue : BinRangeValueAsn
  deriving DecidableEq

/-- `BinRangeDefinition_t`. -/
structure BinRangeDefinition where
  binRangeListX : List BinRangeItem
  binRangeListY : Option (List BinRangeItem)
  binRangeListZ : Option (List BinRangeItem)
  deriving DecidableEq

/-- `DistMeasurementBinRangeItem_t`. -/
structure DistMeasurementBinRangeItem where
  measType : MeasurementType
  binRangeDef : BinRangeDefinition
  deriving DecidableEq

/-- `TestCond_Type_t`. -/
inductive TestCondTypeAsn where
  | gBR | aMBR | isStat | isCatM | rSRP | rSRQ | ulRSRP | cQI | fiveQI | qCI | sNSSAI
  deriving DecidableEq

/-- `TestCond_Expression_t`. -/
inductive TestCondExpression where
  | equal | greaterthan | lessthan | contains | present
  deriving DecidableEq

/-- `TestCond_Value_t`. -/
inductive TestCondValueAsn where
  | valueInt (value : Int64)
  | valueEnum (value : Int64)
  | valueBool (value : Bool)
  | valueBitS (value : Bytes)
  | valueOctS (value : Bytes)
  | valuePrtS (value : Bytes)
  | valueReal (value : Double)
  deriving DecidableEq

/-- `TestCondInfo_t`. -/
structure TestCondInfo where
  testType : TestCondTypeAsn
  testExpr : Option TestCondExpression
  testValue : Option TestCondValueAsn
  deriving DecidableEq

/-- `MatchingCondItem_Choice_t`. -/
inductive MatchingCondItemChoice where
  | measLabel (label : MeasurementLabel)
  | testCondInfo (info : TestCondInfo)
  deriving DecidableEq

/-- `MatchingCondItem_t`. -/
structure MatchingCondItem where
  matchingCondChoice : MatchingCondItemChoice
  logicalOr : Option Int64
  deriving DecidableEq

/-- `MatchingUeCondPerSubItem_t`. -/
structure MatchingUeCondPerSubItem where
  testCondInfo : TestCondInfo
  deriving DecidableEq

/-- `MeasurementInfoItem_t`. -/
structure MeasurementInfoItem where
  measType : MeasurementType
  labelInfoList : List MeasurementLabel
  deriving DecidableEq

/-- `MeasurementCondItem_t`. -/
structure MeasurementCondItem where
  measType : MeasurementType
  matchingCond : List MatchingCondItem
  binRangeDef : Option BinRangeDefinition
  deriving DecidableEq

/-- `E2SM_KPM_ActionDefinition_Format1_t`. -/
structure ActionDefinitionFormat1 where
  measInfoList : List MeasurementInfoItem
  granulPeriod : UInt64
  cellGlobalId : Option Cgi
  distMeasBinRangeInfo : Option (List DistMeasurementBinRangeItem)
  deriving DecidableEq

/-- `E2SM_KPM_ActionDefinition_Format2_t`. -/
structure ActionDefinitionFormat2 where
  ueId : Ueid
  subscriptInfo : ActionDefinitionFormat1
  deriving DecidableEq

/-- `E2SM_KPM_ActionDefinition_Format3_t`. -/
structure ActionDefinitionFormat3 where
  measCondList : List MeasurementCondItem
  granulPeriod : UInt64
  cellGlobalId : Option Cgi
  deriving DecidableEq

/-- `E2SM_KPM_ActionDefinition_Format4_t`. -/
structure ActionDefinitionFormat4 where
  matchingUeCondList : List MatchingUeCondPerSubItem
  subscriptionInfo : ActionDefinitionFormat1
  deriving DecidableEq

/-- `E2SM_KPM_ActionDefinition_Format5_t`. -/
structure ActionDefinitionFormat5 where
  matchingUeIdList : List Ueid
  subscriptionInfo : ActionDefinitionFormat1
  deriving DecidableEq

/-- The formats of `E2SM_KPM_ActionDefinition_t`. -/
inductive ActionDefinitionFormats where
  | format1 (frm : ActionDefinitionFormat1)
  | format2 (frm : ActionDefinitionFormat2)
  | format3 (frm : ActionDefinitionFormat3)
  | format4 (frm : ActionDefinitionFormat4)
  | format5 (frm : ActionDefinitionFormat5)
  deriving DecidableEq

/-- `E2SM_KPM_ActionDefinition_t`. -/
structure ActionDefinition where
  ricStyleType : Int64
  actionDefinitionFormats : ActionDefinitionFormats
  deriving DecidableEq

/-- `E2SM_KPM_IndicationHeader_t`, which has one format. -/
structure IndicationHeader where
  colletStartTime : Bytes
  fileFormatversion : Option Bytes
  senderName : Option Bytes
  senderType : Option Bytes
  vendorName : Option Bytes
  deriving DecidableEq

/-- `MeasurementRecordItem_t`. -/
inductive MeasurementRecordItem where
  | integer (value : UInt64)
  | real (value : Double)
  | noValue
  deriving DecidableEq

/-- `MeasurementDataItem_t`. -/
structure MeasurementDataItem where
  measRecord : List MeasurementRecordItem
  incompleteFlag : Option Int64
  deriving DecidableEq

/-- `MatchingUEidPerGP_Item_t`. -/
inductive MatchingUeIdPerGpItem where
  | noUeMatched
  | oneOrMoreUeMatched (ues : List Ueid)
  deriving DecidableEq

/-- `MeasurementCondUEidItem_t`. -/
structure MeasurementCondUeIdItem where
  measType : MeasurementType
  matchingCond : List MatchingCondItem
  matchingUeIdList : Option (List Ueid)
  matchingUeIdPerGp : Option (List MatchingUeIdPerGpItem)
  deriving DecidableEq

/-- `E2SM_KPM_IndicationMessage_Format1_t`. -/
structure IndicationMessageFormat1 where
  measData : List MeasurementDataItem
  measInfoList : Option (List MeasurementInfoItem)
  granulPeriod : Option UInt64
  deriving DecidableEq

/-- `E2SM_KPM_IndicationMessage_Format2_t`. -/
structure IndicationMessageFormat2 where
  measData : List MeasurementDataItem
  measCondUeIdList : List MeasurementCondUeIdItem
  granulPeriod : Option UInt64
  deriving DecidableEq

/-- `UEMeasurementReportItem_t`. -/
structure UeMeasurementReportItem where
  ueId : Ueid
  measReport : IndicationMessageFormat1
  deriving DecidableEq

/-- `E2SM_KPM_IndicationMessage_t`. -/
inductive IndicationMessage where
  | format1 (frm : IndicationMessageFormat1)
  | format2 (frm : IndicationMessageFormat2)
  | format3 (ueMeasReportList : List UeMeasurementReportItem)
  deriving DecidableEq

end FlexRic.Kpm
