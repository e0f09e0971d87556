import FlexRic.Kpm.Parts
import FlexRic.Library.Packing

/-! # Encoders and decoders of KPM messages

Action definitions, and the headers and messages of indications. How a UE is written is
left to the functions of a codec of its own.
-/

namespace FlexRic.Kpm

open Asn (Fault)
open E2sm (UeIdE2sm Ueid encCellGlobalIdAsn decCellGlobalIdAsn octetStringFromBuf)
open Wire (Bytes)

/-- `maxnoofConditionInfoPerSub`. -/
def maxnoofConditionInfoPerSub : Nat := 32768

/-- `maxnoofUEIDPerSub`. -/
def maxnoofUeIdPerSub : Nat := 65535

/-- `maxnoofUEID`. -/
def maxnoofUeId : Nat := 65535

/-- `maxnoofUEMeasReport`. -/
def maxnoofUeMeasReport : Nat := 65535

/-- `enc_ue_id_asn` and `dec_ue_id_asn`. -/
abbrev UeIdCodec := E2sm.SharedCodec UeIdE2sm Ueid

section
variable (ue : UeIdCodec)

/-- A list that is left out when it is empty. -/
def encLst {α β : Type} (most : Nat) (enc : α → Except Fault β) (lst : List α) :
    Except Fault (Option (List β)) :=
  if lst = [] then pure none else some <$> mapMWithin 1 most .bound enc lst

def decLst {α β : Type} (most : Nat) (dec : β → Except Fault α) :
    Option (List β) → Except Fault (List α)
  | none => pure []
  | some lst => mapMWithin 1 most .bound dec lst

def kpmEncActionDefFrm1Asn (src : ActDefFormat1) : Except Fault ActionDefinitionFormat1 := do
  let measInfoList ← kpmEncMeasInfoAsn src.measInfoLst
  check (1 ≤ src.granPeriodMs.toNat ∧ src.granPeriodMs.toNat ≤ 4294967295) .bound
  let cellGlobalId ← src.cellGlobalId.mapM encCellGlobalIdAsn
  let distMeasBinRangeInfo ← encLst maxnoofBin kpmEncMeasBinRangeItem src.measBinInfoLst
  pure {
    measInfoList
    granulPeriod := src.granPeriodMs.toUInt64
    cellGlobalId
    distMeasBinRangeInfo }

def kpmDecActionDefFrm1Asn (src : ActionDefinitionFormat1) : Except Fault ActDefFormat1 := do
  check (1 ≤ src.measInfoList.length ∧ src.measInfoList.length ≤ maxnoofMeasurementInfo) .bound
  let measInfoLst ← kpmDecMeasInfoAsn src.measInfoList
  let granPeriodMs := src.granulPeriod.toUInt32
  check (1 ≤ granPeriodMs.toNat ∧ granPeriodMs.toNat ≤ 4294967295) .bound
  let cellGlobalId ← src.cellGlobalId.mapM decCellGlobalIdAsn
  let measBinInfoLst ← decLst maxnoofBin kpmDecMeasBinRangeItem src.distMeasBinRangeInfo
  pure { measInfoLst, granPeriodMs, cellGlobalId, measBinInfoLst }

def kpmEncActionDefFrm2Asn (src : ActDefFormat2) : Except Fault ActionDefinitionFormat2 := do
  let ueId ← ue.enc src.ueId
  let subscriptInfo ← kpmEncActionDefFrm1Asn src.actionDefFormat1
  pure { ueId, subscriptInfo }

def kpmDecActionDefFrm2Asn (src : ActionDefinitionFormat2) : Except Fault ActDefFormat2 := do
  let ueId ← ue.dec src.ueId
  let actionDefFormat1 ← kpmDecActionDefFrm1Asn src.subscriptInfo
  pure { ueId, actionDefFormat1 }

def kpmEncActionDefFrm3Asn (src : ActDefFormat3) : Except Fault ActionDefinitionFormat3 := do
  let measCondList ← kpmEncMeasInfoCondAsn src.measInfoLst
  check (1 ≤ src.granPeriodMs.toNat ∧ src.granPeriodMs.toNat ≤ 4294967295) .bound
  let cellGlobalId ← src.cellGlobalId.mapM encCellGlobalIdAsn
  pure { measCondList, granulPeriod := src.granPeriodMs.toUInt64, cellGlobalId }

def kpmDecActionDefFrm3Asn (src : ActionDefinitionFormat3) : Except Fault ActDefFormat3 := do
  let measInfoLst ← kpmDecMeasInfoCondAsn src.measCondList
  let granPeriodMs := src.granulPeriod.toUInt32
  check (1 ≤ granPeriodMs.toNat ∧ granPeriodMs.toNat ≤ 4294967295) .bound
  let cellGlobalId ← src.cellGlobalId.mapM decCellGlobalIdAsn
  pure { measInfoLst, granPeriodMs, cellGlobalId }

def kpmEncActionDefFrm4Asn (src : ActDefFormat4) : Except Fault ActionDefinitionFormat4 := do
  let matchingUeCondList ←
    mapMWithin 1 maxnoofConditionInfoPerSub .bound kpmEncMatchingCondFrm4Asn src.matchingCondLst
  let subscriptionInfo ← kpmEncActionDefFrm1Asn src.actionDefFormat1
  pure { matchingUeCondList, subscriptionInfo }

def kpmDecActionDefFrm4Asn (src : ActionDefinitionFormat4) : Except Fault ActDefFormat4 := do
  let matchingCondLst ←
    mapMWithin 1 maxnoofConditionInfoPerSub .bound kpmDecMatchingCondFrm4Asn src.matchingUeCondList
  let actionDefFormat1 ← kpmDecActionDefFrm1Asn src.subscriptionInfo
  pure { matchingCondLst, actionDefFormat1 }

def kpmEncActionDefFrm5Asn (src : ActDefFormat5) : Except Fault ActionDefinitionFormat5 := do
  let matchingUeIdList ← mapMWithin 2 maxnoofUeIdPerSub .bound ue.enc src.ueIdLst
  let subscriptionInfo ← kpmEncActionDefFrm1Asn src.actionDefFormat1
  pure { matchingUeIdList, subscriptionInfo }

def kpmDecActionDefFrm5Asn (src : ActionDefinitionFormat5) : Except Fault ActDefFormat5 := do
  let ueIdLst ← mapMWithin 2 maxnoofUeIdPerSub .bound ue.dec src.matchingUeIdList
  let actionDefFormat1 ← kpmDecActionDefFrm1Asn src.subscriptionInfo
  pure { ueIdLst, actionDefFormat1 }

/-- The formats that `kpm_enc_action_def_asn` tells apart. -/
def encActionDefFormats : ActDef → Except Fault ActionDefinitionFormats
  | .format1 frm => ActionDefinitionFormats.format1 <$> kpmEncActionDefFrm1Asn frm
  | .format2 frm => ActionDefinitionFormats.format2 <$> kpmEncActionDefFrm2Asn ue frm
  | .format3 frm => ActionDefinitionFormats.format3 <$> kpmEncActionDefFrm3Asn frm
  | .format4 frm => ActionDefinitionFormats.format4 <$> kpmEncActionDefFrm4Asn frm
  | .format5 frm => ActionDefinitionFormats.format5 <$> kpmEncActionDefFrm5Asn ue frm

def decActionDefFormats : ActionDefinitionFormats → Except Fault ActDef
  | .format1 frm => ActDef.format1 <$> kpmDecActionDefFrm1Asn frm
  | .format2 frm => ActDef.format2 <$> kpmDecActionDefFrm2Asn ue frm
  | .format3 frm => ActDef.format3 <$> kpmDecActionDefFrm3Asn frm
  | .format4 frm => ActDef.format4 <$> kpmDecActionDefFrm4Asn frm
  | .format5 frm => ActDef.format5 <$> kpmDecActionDefFrm5Asn ue frm

/-- The style of a format has its number. -/
def ricStyleType : ActDef → Int64
  | .format1 _ => 1
  | .format2 _ => 2
  | .format3 _ => 3
  | .format4 _ => 4
  | .format5 _ => 5

/-- The unit of `kpm_enc_action_def_asn`. -/
def actionDefUnit (src : ActDef) : Except Fault ActionDefinition := do
  let actionDefinitionFormats ← encActionDefFormats ue src
  pure { ricStyleType := ricStyleType src, actionDefinitionFormats }

/-- The definition that `kpm_dec_action_def_asn` takes a unit for. -/
def actionDefOf (src : ActionDefinition) : Except Fault ActDef :=
  decActionDefFormats ue src.actionDefinitionFormats

/-- `htonl` and `ntohl` on a machine that stores the lowest byte first. -/
def swap32 (x : UInt32) : UInt32 :=
  UInt32.ofNat (Octets.unsigned (Wire.bytesOf 4 x.toNat))

/-- `INT32_TO_OCTET_STRING`. -/
def int32ToOctetString (x : UInt32) : Bytes := Octets.bigEndian 4 x.toNat

/-- `OCTET_STRING_TO_INT32`. -/
def octetStringToInt32 (src : Bytes) : Except Fault UInt32 := do
  check (4 ≤ src.length) .missing
  pure (UInt32.ofNat (Octets.unsigned (src.take 4)))

/-- The unit of `kpm_enc_ind_hdr_asn`. -/
def indHdrUnit (src : IndHdr) : Except Fault IndicationHeader := do
  let fileFormatversion ← src.fileformatVersion.mapM octetStringFromBuf
  let senderName ← src.senderName.mapM octetStringFromBuf
  let senderType ← src.senderType.mapM octetStringFromBuf
  let vendorName ← src.vendorName.mapM octetStringFromBuf
  pure {
    colletStartTime := int32ToOctetString (swap32 src.collectStartTime)
    fileFormatversion
    senderName
    senderType
    vendorName }

def indHdrOf (src : IndicationHeader) : Except Fault IndHdr := do
  let reversed ← octetStringToInt32 src.colletStartTime
  pure {
    collectStartTime := swap32 reversed
    fileformatVersion := src.fileFormatversion
    senderName := src.senderName
    senderType := src.senderType
    vendorName := src.vendorName }

/-- The granularity period of an indication, when there is one. -/
def encGranPeriod (period : UInt32) : Except Fault UInt64 := do
  check (1 ≤ period.toNat ∧ period.toNat ≤ 4294967295) .bound
  pure period.toUInt64

def decGranPeriod (period : UInt64) : Except Fault UInt32 := do
  check (1 ≤ period.toUInt32.toNat ∧ period.toUInt32.toNat ≤ 4294967295) .bound
  pure period.toUInt32

/-- The measurements of an indication, which may be left out. -/
def encIndMeasInfo (lst : List MeasInfoFormat1) :
    Except Fault (Option (List MeasurementInfoItem)) :=
  if lst = [] then pure none else some <$> kpmEncMeasInfoAsn lst

def decIndMeasInfo : Option (List MeasurementInfoItem) → Except Fault (List MeasInfoFormat1)
  | none => pure []
  | some lst => kpmDecMeasInfoAsn lst

def kpmEncIndMsgFrm1Asn (src : IndMsgFormat1) : Except Fault IndicationMessageFormat1 := do
  let measData ← kpmEncMeasDataAsn src.measDataLst
  let measInfoList ← encIndMeasInfo src.measInfoLst
  let granulPeriod ← src.granPeriodMs.mapM encGranPeriod
  pure { measData, measInfoList, granulPeriod }

def kpmDecIndMsgFrm1Asn (src : IndicationMessageFormat1) : Except Fault IndMsgFormat1 := do
  let measDataLst ← kpmDecMeasDataAsn src.measData
  let measInfoLst ← decIndMeasInfo src.measInfoList
  let granPeriodMs ← src.granulPeriod.mapM decGranPeriod
  pure { measDataLst, measInfoLst, granPeriodMs }

def kpmEncUeIdGranPeriodAsn : UeIdGranPeriod → Except Fault MatchingUeIdPerGpItem
  | .noneMatched => pure .noUeMatched
  | .oneOrMore ueLst =>
      MatchingUeIdPerGpItem.oneOrMoreUeMatched <$> mapMWithin 1 maxnoofUeId .bound ue.enc ueLst

def decUeIdGranPeriod : MatchingUeIdPerGpItem → Except Fault UeIdGranPeriod
  | .noUeMatched => pure .noneMatched
  | .oneOrMoreUeMatched ues =>
      UeIdGranPeriod.oneOrMore <$> mapMWithin 1 maxnoofUeId .bound ue.dec ues

def encMeasInfoCondUe (src : MeasInfoCondUe) : Except Fault MeasurementCondUeIdItem := do
  let measType ← encMeasType src.measType
  let matchingCond ←
    mapMWithin 1 maxnoofConditionInfo .bound kpmEncMatchingCondAsn src.matchingCondLst
  let matchingUeIdList ← encLst maxnoofUeId ue.enc src.ueIdMatchedLst
  let matchingUeIdPerGp ← encLst maxnoofUeId (kpmEncUeIdGranPeriodAsn ue) src.ueIdGranPeriodLst
  pure { measType, matchingCond, matchingUeIdList, matchingUeIdPerGp }

def decMeasInfoCondUe (src : MeasurementCondUeIdItem) : Except Fault MeasInfoCondUe := do
  let matchingCondLst ←
    mapMWithin 1 maxnoofConditionInfo .bound kpmDecMatchingCondAsn src.matchingCond
  let ueIdMatchedLst ← decLst maxnoofUeId ue.dec src.matchingUeIdList
  let ueIdGranPeriodLst ← decLst maxnoofUeId (decUeIdGranPeriod ue) src.matchingUeIdPerGp
  pure { measType := decMeasType src.measType, matchingCondLst, ueIdMatchedLst, ueIdGranPeriodLst }

def kpmEncMeasInfoCondUeAsn : List MeasInfoCondUe → Except Fault (List MeasurementCondUeIdItem) :=
  mapMWithin 1 maxnoofMeasurementInfo .bound (encMeasInfoCondUe ue)

/-- `kpm_dec_meas_info_cond_ue_asn`, with the check of its caller. -/
def kpmDecMeasInfoCondUeAsn : List MeasurementCondUeIdItem → Except Fault (List MeasInfoCondUe) :=
  mapMWithin 1 maxnoofMeasurementInfo .bound (decMeasInfoCondUe ue)

def kpmEncIndMsgFrm2Asn (src : IndMsgFormat2) : Except Fault IndicationMessageFormat2 := do
  let measData ← kpmEncMeasDataAsn src.measDataLst
  let measCondUeIdList ← kpmEncMeasInfoCondUeAsn ue src.measInfoCondUeLst
  let granulPeriod ← src.granPeriodMs.mapM encGranPeriod
  pure { measData, measCondUeIdList, granulPeriod }

def kpmDecIndMsgFrm2Asn (src : IndicationMessageFormat2) : Except Fault IndMsgFormat2 := do
  let measDataLst ← kpmDecMeasDataAsn src.measData
  let measInfoCondUeLst ← kpmDecMeasInfoCondUeAsn ue src.measCondUeIdList
  let granPeriodMs ← src.granulPeriod.mapM decGranPeriod
  pure { measDataLst, measInfoCondUeLst, granPeriodMs }

def encMeasReport (src : MeasReportPerUe) : Except Fault UeMeasurementReportItem := do
  let ueId ← ue.enc src.ueMeasReport
  let measReport ← kpmEncIndMsgFrm1Asn src.indMsgFormat1
  pure { ueId, measReport }

def decMeasReport (src : UeMeasurementReportItem) : Except Fault MeasReportPerUe := do
  let ueMeasReport ← ue.dec src.ueId
  let indMsgFormat1 ← kpmDecIndMsgFrm1Asn src.measReport
  pure { ueMeasReport, indMsgFormat1 }

def kpmEncIndMsgFrm3Asn : List MeasReportPerUe → Except Fault (List UeMeasurementReportItem) :=
  mapMWithin 1 maxnoofUeMeasReport .bound (encMeasReport ue)

def kpmDecIndMsgFrm3Asn : List UeMeasurementReportItem → Except Fault (List MeasReportPerUe) :=
  mapMWithin 1 maxnoofUeMeasReport .bound (decMeasReport ue)

/-- The unit of `kpm_enc_ind_msg_asn`. -/
def indMsgUnit : IndMsg → Except Fault IndicationMessage
  | .format1 frm => IndicationMessage.format1 <$> kpmEncIndMsgFrm1Asn frm
  | .format2 frm => IndicationMessage.format2 <$> kpmEncIndMsgFrm2Asn ue frm
  | .format3 reports => IndicationMessage.format3 <$> kpmEncIndMsgFrm3Asn ue reports

def indMsgOf : IndicationMessage → Except Fault IndMsg
  | .format1 frm => IndMsg.format1 <$> kpmDecIndMsgFrm1Asn frm
  | .format2 frm => IndMsg.format2 <$> kpmDecIndMsgFrm2Asn ue frm
  | .format3 reports => IndMsg.format3 <$> kpmDecIndMsgFrm3Asn ue reports

/-- The buffer that every unit is packed into. -/
def bufferLen : Nat := 4 * 1024

def kpmEncActionDefAsn (p : Packing ActionDefinition) : ActDef → Except Fault Bytes :=
  encodeWith (actionDefUnit ue) p bufferLen .aper

def kpmDecActionDefAsn (p : Packing ActionDefinition) : Bytes → Except Fault ActDef :=
  decodeWith (actionDefOf ue) p .aper

def kpmEncIndMsgAsn (p : Packing IndicationMessage) : IndMsg → Except Fault Bytes :=
  encodeWith (indMsgUnit ue) p bufferLen .aper

def kpmDecIndMsgAsn (p : Packing IndicationMessage) : Bytes → Except Fault IndMsg :=
  decodeWith (indMsgOf ue) p .aper

end

def kpmEncIndHdrAsn (p : Packing IndicationHeader) : IndHdr → Except Fault Bytes :=
  encodeWith indHdrUnit p bufferLen .aper

def kpmDecIndHdrAsn (p : Packing IndicationHeader) : Bytes → Except Fault IndHdr :=
  decodeWith indHdrOf p .aper

end FlexRic.Kpm
