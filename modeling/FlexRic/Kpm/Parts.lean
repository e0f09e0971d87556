import FlexRic.E2sm.Fields
import FlexRic.E2sm.OctetString
import FlexRic.Kpm.Units

/-! # Encoders and decoders of measurements

The parts that action definitions and indications share. An integer is moved with as
many of its bytes as the function that moves it copies.
-/

namespace FlexRic.Kpm

open Asn (Fault)
open E2sm (longOf16 low16 octetStringFromBuf)
open Wire (Bytes)

/-- `maxnoofMeasurementInfo`. -/
def maxnoofMeasurementInfo : Nat := 65535

/-- `maxnoofLabelInfo`. -/
def maxnoofLabelInfo : Nat := 2147483647

/-- `maxnoofMeasurementRecord`. -/
def maxnoofMeasurementRecord : Nat := 65535

/-- `maxnoofMeasurementValue`. -/
def maxnoofMeasurementValue : Nat := 2147483647

/-- `maxnoofConditionInfo`. -/
def maxnoofConditionInfo : Nat := 32768

/-- `maxnoofBin`. -/
def maxnoofBin : Nat := 65535

/-- The name or the id, which each list of measurements encodes in the same way. -/
def encMeasType : MeasType → Except Fault MeasurementType
  | .name name => MeasurementType.measName <$> octetStringFromBuf name
  | .id id => pure (.measId (longOf16 id))

def decMeasType : MeasurementType → MeasType
  | .measName name => .name name
  | .measId id => .id (low16 id)

/-- `INT24_TO_BUFFER`. -/
def int24ToBuffer (x : UInt32) : Bytes :=
  [UInt8.ofNat (x.toNat >>> 16), UInt8.ofNat (x.toNat >>> 8), UInt8.ofNat x.toNat]

/-- `BUFFER_TO_INT24`. -/
def bufferToInt24 : Bytes → Except Fault UInt32
  | b0 :: b1 :: b2 :: _ =>
      .ok (UInt32.ofNat (b0.toNat <<< 16 ||| b1.toNat <<< 8 ||| b2.toNat))
  | _ => .error .missing

/-- The slice of a label. -/
def encSliceId (src : SNssai) : SNssaiAsn where
  sst := [src.sst]
  sd := src.sd.map int24ToBuffer

/-- As many octets are copied to a byte as there are. -/
def decSliceId (src : SNssaiAsn) : Except Fault SNssai := do
  check (src.sst.length ≤ 1) .bound
  let sd ← src.sd.mapM bufferToInt24
  pure { sst := src.sst.headD 0, sd }

def kpmEncLabelInfoAsn (src : LabelInfo) : Except Fault MeasurementLabel :=
  match src.noLabel with
  -- Nothing else is encoded next to it.
  | some _ => pure ⟨some 0, none, none, none, .absent, none⟩
  | none => do
      check (src.refused = .absent) .notImplemented
      pure {
        noLabel := none
        plmnId := src.plmnId.map Asn.mccMncToPlmnid
        sliceId := src.sliceId.map encSliceId
        fiveQI := src.fiveQI.map fun x => x.toUInt64.toInt64
        refused := .absent
        avg := src.avg.map fun _ => 0 }

def kpmDecLabelInfoAsn (src : MeasurementLabel) : Except Fault LabelInfo := do
  let plmnId ← src.plmnId.mapM Asn.plmnidToMccMnc
  let sliceId ← src.sliceId.mapM decSliceId
  check (src.refused = .absent) .notImplemented
  pure {
    noLabel := src.noLabel.map fun _ => .trueEnumValue
    plmnId
    sliceId
    fiveQI := src.fiveQI.map fun x => x.toUInt64.toUInt8
    refused := .absent
    avg := src.avg.map fun _ => .trueEnumValue
    ignored := .absent }

/-- The lowest four bytes of an `unsigned long` into a `long` that is zero. -/
def encBinRangeValue : BinRangeValue → BinRangeValueAsn
  | .integer value => .valueInt value.toUInt32.toUInt64.toInt64
  | .real value => .valueReal value

def decBinRangeValue : BinRangeValueAsn → BinRangeValue
  | .valueInt value => .integer value.toUInt64.toUInt32.toUInt64
  | .valueReal value => .real value

def encBinDistr (src : BinDistr) : BinRangeItem where
  binIndex := longOf16 src.binIndex
  startValue := encBinRangeValue src.startValue
  endValue := encBinRangeValue src.endValue

def decBinDistr (src : BinRangeItem) : BinDistr where
  binIndex := low16 src.binIndex
  startValue := decBinRangeValue src.startValue
  endValue := decBinRangeValue src.endValue

def kpmEncBinRangeDef (src : BinRangeDef) : Except Fault BinRangeDefinition := do
  check (1 ≤ src.binX.length ∧ src.binX.length ≤ maxnoofBin) .bound
  check (src.binY = [] ∧ src.binZ = []) .notImplemented
  pure { binRangeListX := src.binX.map encBinDistr, binRangeListY := none, binRangeListZ := none }

def kpmDecBinRangeDef (src : BinRangeDefinition) : Except Fault BinRangeDef := do
  check (1 ≤ src.binRangeListX.length ∧ src.binRangeListX.length ≤ maxnoofBin) .bound
  check (src.binRangeListY = none ∧ src.binRangeListZ = none) .notImplemented
  pure { binX := src.binRangeListX.map decBinDistr, binY := [], binZ := [] }

def kpmEncMeasBinRangeItem (src : MeasBinRangeInfo) : Except Fault DistMeasurementBinRangeItem := do
  let measType ← encMeasType src.measType
  let binRangeDef ← kpmEncBinRangeDef src.binRangeDef
  pure { measType, binRangeDef }

def kpmDecMeasBinRangeItem (src : DistMeasurementBinRangeItem) : Except Fault MeasBinRangeInfo := do
  let binRangeDef ← kpmDecBinRangeDef src.binRangeDef
  pure { measType := decMeasType src.measType, binRangeDef }

def encTestCondType : TestCondType → TestCondTypeAsn
  | .gbr => .gBR
  | .ambr => .aMBR
  | .isStat => .isStat
  | .isCatM => .isCatM
  | .dlRsrp => .rSRP
  | .dlRsrq => .rSRQ
  | .ulRsrp => .ulRSRP
  | .cqi => .cQI
  | .fiveQI => .fiveQI
  | .qci => .qCI
  | .sNssai => .sNSSAI

def decTestCondType : TestCondTypeAsn → TestCondType
  | .gBR => .gbr
  | .aMBR => .ambr
  | .isStat => .isStat
  | .isCatM => .isCatM
  | .rSRP => .dlRsrp
  | .rSRQ => .dlRsrq
  | .ulRSRP => .ulRsrp
  | .cQI => .cqi
  | .fiveQI => .fiveQI
  | .qCI => .qci
  | .sNSSAI => .sNssai

def encTestCond : TestCond → TestCondExpression
  | .equal => .equal
  | .greaterthan => .greaterthan
  | .lessthan => .lessthan
  | .contains => .contains
  | .present => .present

def decTestCond : TestCondExpression → TestCond
  | .equal => .equal
  | .greaterthan => .greaterthan
  | .lessthan => .lessthan
  | .contains => .contains
  | .present => .present

def encTestCondValue : TestCondValue → Except Fault TestCondValueAsn
  | .integer value => pure (.valueInt value)
  | .enumerated value => pure (.valueEnum value)
  | .boolean value => pure (.valueBool value)
  | .bitString _ => throw .notImplemented
  | .octetString value => pure (.valueOctS value)
  | .printableString value => pure (.valuePrtS value)
  | .real value => pure (.valueReal value)

def decTestCondValue : TestCondValueAsn → Except Fault TestCondValue
  | .valueInt value => pure (.integer value)
  | .valueEnum value => pure (.enumerated value)
  | .valueBool value => pure (.boolean value)
  | .valueBitS _ => throw .notImplemented
  | .valueOctS value => pure (.octetString value)
  | .valuePrtS value => pure (.printableString value)
  | .valueReal value => pure (.real value)

def kpmEncTestInfoAsn (src : TestInfo) : Except Fault TestCondInfo := do
  let testValue ← src.testCondValue.mapM encTestCondValue
  pure {
    testType := encTestCondType src.testCondType
    testExpr := src.testCond.map encTestCond
    testValue }

def kpmDecTestInfoAsn (src : TestCondInfo) : Except Fault TestInfo := do
  let testCondValue ← src.testValue.mapM decTestCondValue
  pure {
    testCondType := decTestCondType src.testType
    testCond := src.testExpr.map decTestCond
    testCondValue }

def encCondition : Condition → Except Fault MatchingCondItemChoice
  | .label info => MatchingCondItemChoice.measLabel <$> kpmEncLabelInfoAsn info
  | .test info => MatchingCondItemChoice.testCondInfo <$> kpmEncTestInfoAsn info

def decCondition : MatchingCondItemChoice → Except Fault Condition
  | .measLabel label => Condition.label <$> kpmDecLabelInfoAsn label
  | .testCondInfo info => Condition.test <$> kpmDecTestInfoAsn info

def kpmEncMatchingCondAsn (src : MatchingCondFormat3) : Except Fault MatchingCondItem := do
  let matchingCondChoice ← encCondition src.cond
  pure { matchingCondChoice, logicalOr := src.logicalOr.map fun _ => 0 }

/-- Whether a flag is the only number that it can be, where it is there. -/
instance decidableOnlyZero (o : Option Int64) : Decidable (∀ x ∈ o, x = 0) := o.decidableForallMem

def kpmDecMatchingCondAsn (src : MatchingCondItem) : Except Fault MatchingCondFormat3 := do
  let cond ← decCondition src.matchingCondChoice
  check (∀ x ∈ src.logicalOr, x = 0) .bound
  pure { cond, logicalOr := src.logicalOr.map fun _ => .trueEnumValue }

def kpmEncMatchingCondFrm4Asn (src : MatchingCondFormat4) :
    Except Fault MatchingUeCondPerSubItem := do
  let testCondInfo ← kpmEncTestInfoAsn src.testInfo
  check (src.logicalOr = none) .notImplemented
  pure { testCondInfo }

def kpmDecMatchingCondFrm4Asn (src : MatchingUeCondPerSubItem) :
    Except Fault MatchingCondFormat4 := do
  let testInfo ← kpmDecTestInfoAsn src.testCondInfo
  pure { testInfo, logicalOr := none }

def encMeasInfo (src : MeasInfoFormat1) : Except Fault MeasurementInfoItem := do
  let measType ← encMeasType src.measType
  let labelInfoList ← mapMWithin 1 maxnoofLabelInfo .bound kpmEncLabelInfoAsn src.labelInfoLst
  pure { measType, labelInfoList }

def decMeasInfo (src : MeasurementInfoItem) : Except Fault MeasInfoFormat1 := do
  let labelInfoLst ← mapMWithin 1 maxnoofLabelInfo .bound kpmDecLabelInfoAsn src.labelInfoList
  pure { measType := decMeasType src.measType, labelInfoLst }

def kpmEncMeasInfoAsn : List MeasInfoFormat1 → Except Fault (List MeasurementInfoItem) :=
  mapMWithin 1 maxnoofMeasurementInfo .bound encMeasInfo

/-- The number of items is checked by those callers that do. -/
def kpmDecMeasInfoAsn (src : List MeasurementInfoItem) : Except Fault (List MeasInfoFormat1) :=
  src.mapM decMeasInfo

def encMeasInfoCond (src : MeasInfoFormat3) : Except Fault MeasurementCondItem := do
  let measType ← encMeasType src.measType
  let matchingCond ←
    mapMWithin 1 maxnoofConditionInfo .bound kpmEncMatchingCondAsn src.matchingCondLst
  let binRangeDef ← src.binRangeDef.mapM kpmEncBinRangeDef
  pure { measType, matchingCond, binRangeDef }

def decMeasInfoCond (src : MeasurementCondItem) : Except Fault MeasInfoFormat3 := do
  let matchingCondLst ←
    mapMWithin 1 maxnoofConditionInfo .bound kpmDecMatchingCondAsn src.matchingCond
  let binRangeDef ← src.binRangeDef.mapM kpmDecBinRangeDef
  pure { measType := decMeasType src.measType, matchingCondLst, binRangeDef }

/-- `kpm_enc_meas_info_cond_asn`. -/
def kpmEncMeasInfoCondAsn : List MeasInfoFormat3 → Except Fault (List MeasurementCondItem) :=
  mapMWithin 1 maxnoofMeasurementInfo .bound encMeasInfoCond

/-- `kpm_dec_meas_info_cond_asn`, with the check of its caller. -/
def kpmDecMeasInfoCondAsn : List MeasurementCondItem → Except Fault (List MeasInfoFormat3) :=
  mapMWithin 1 maxnoofMeasurementInfo .bound decMeasInfoCond

def encMeasRecord : MeasRecord → MeasurementRecordItem
  | .integer value => .integer value.toUInt64
  | .real value => .real value
  | .noValue => .noValue

def decMeasRecord : MeasurementRecordItem → MeasRecord
  | .integer value => .integer value.toUInt32
  | .real value => .real value
  | .noValue => .noValue

def encMeasData (src : MeasData) : Except Fault MeasurementDataItem := do
  check (1 ≤ src.measRecordLst.length ∧ src.measRecordLst.length ≤ maxnoofMeasurementValue) .bound
  pure {
    measRecord := src.measRecordLst.map encMeasRecord
    incompleteFlag := src.incompleteFlag.map fun _ => 0 }

def decMeasData (src : MeasurementDataItem) : Except Fault MeasData := do
  check (1 ≤ src.measRecord.length ∧ src.measRecord.length ≤ maxnoofMeasurementValue) .bound
  check (∀ x ∈ src.incompleteFlag, x = 0) .bound
  pure {
    measRecordLst := src.measRecord.map decMeasRecord
    incompleteFlag := src.incompleteFlag.map fun _ => .trueEnumValue }

def kpmEncMeasDataAsn : List MeasData → Except Fault (List MeasurementDataItem) :=
  mapMWithin 1 maxnoofMeasurementRecord .bound encMeasData

/-- `kpm_dec_meas_data_asn`, with the check of its callers. -/
def kpmDecMeasDataAsn : List MeasurementDataItem → Except Fault (List MeasData) :=
  mapMWithin 1 maxnoofMeasurementRecord .bound decMeasData

end FlexRic.Kpm
