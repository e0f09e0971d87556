import FlexRic.E2sm.UeIdEquality
import FlexRic.Kpm.Types
import FlexRic.Library.Checked

/-! # Copies of measurement reports

A report is copied before it is handed on, and both are released. What is not implemented
is asserted not to be there, by each function for itself.
-/

namespace FlexRic.Kpm

open E2sm (cpE2smPlmn cpUeIdE2sm UeIdE2sm)

/-- What ends a copy or a release. -/
inductive CopyFailure where
  /-- `"Not implemented"` -/
  | notImplemented
  /-- The length of a list is asserted. -/
  | length
  deriving DecidableEq, Repr

def cpLabelInfo (src : LabelInfo) : Except CopyFailure LabelInfo := do
  check (src.sliceId = none ∧ src.fiveQI = none ∧ src.refused = .absent) .notImplemented
  check (src.ignored = .absent) .notImplemented
  pure {
    noLabel := src.noLabel
    plmnId := src.plmnId.map cpE2smPlmn
    sliceId := none
    fiveQI := none
    refused := .absent
    avg := src.avg
    ignored := .absent }

def cpMeasType : MeasType → MeasType
  | .name name => .name name
  | .id id => .id id

def cpMeasRecord : MeasRecord → MeasRecord
  | .integer value => .integer value
  | .real value => .real value
  | .noValue => .noValue

/-- The bound is meant to be 65535. -/
def cpMeasData (src : MeasData) : Except CopyFailure MeasData := do
  check (0 < src.measRecordLst.length ∧ src.measRecordLst.length < 65535) .length
  pure {
    measRecordLst := src.measRecordLst.map cpMeasRecord
    incompleteFlag := src.incompleteFlag }

def cpMeasInfoFormat1 (src : MeasInfoFormat1) : Except CopyFailure MeasInfoFormat1 := do
  check (0 < src.labelInfoLst.length) .length
  let labelInfoLst ← src.labelInfoLst.mapM cpLabelInfo
  pure { measType := cpMeasType src.measType, labelInfoLst }

def cpTestCondValue : TestCondValue → Except CopyFailure TestCondValue
  | .integer value => pure (.integer value)
  | .enumerated value => pure (.enumerated value)
  | .boolean value => pure (.boolean value)
  | .bitString _ => throw .notImplemented
  | .octetString value => pure (.octetString value)
  | .printableString value => pure (.printableString value)
  | .real value => pure (.real value)

def cpKpmTestInfo (src : TestInfo) : Except CopyFailure TestInfo := do
  let testCondValue ← src.testCondValue.mapM cpTestCondValue
  pure { testCondType := src.testCondType, testCond := src.testCond, testCondValue }

def cpCondition : Condition → Except CopyFailure Condition
  | .label info => Condition.label <$> cpLabelInfo info
  | .test info => Condition.test <$> cpKpmTestInfo info

def cpKpmMatchingCondFrm3 (src : MatchingCondFormat3) :
    Except CopyFailure MatchingCondFormat3 := do
  let cond ← cpCondition src.cond
  pure { cond, logicalOr := src.logicalOr }

def cpKpmUeIdGranPeriod : UeIdGranPeriod → UeIdGranPeriod
  | .noneMatched => .noneMatched
  | .oneOrMore ueLst => .oneOrMore (ueLst.map cpUeIdE2sm)

def cpKpmMeasInfoCondUe (src : MeasInfoCondUe) : Except CopyFailure MeasInfoCondUe := do
  let matchingCondLst ← src.matchingCondLst.mapM cpKpmMatchingCondFrm3
  pure {
    measType := cpMeasType src.measType
    matchingCondLst
    ueIdMatchedLst := src.ueIdMatchedLst.map cpUeIdE2sm
    ueIdGranPeriodLst := src.ueIdGranPeriodLst.map cpKpmUeIdGranPeriod }

def cpKpmIndMsgFrm1 (src : IndMsgFormat1) : Except CopyFailure IndMsgFormat1 := do
  check (0 < src.measDataLst.length ∧ src.measDataLst.length < 65536) .length
  let measDataLst ← src.measDataLst.mapM cpMeasData
  check (src.measInfoLst.length < 65536) .length
  let measInfoLst ← src.measInfoLst.mapM cpMeasInfoFormat1
  pure { measDataLst, measInfoLst, granPeriodMs := src.granPeriodMs }

/-- The lengths of the lists are not asserted here. -/
def cpKpmIndMsgFrm2 (src : IndMsgFormat2) : Except CopyFailure IndMsgFormat2 := do
  let measDataLst ← src.measDataLst.mapM cpMeasData
  let measInfoCondUeLst ← src.measInfoCondUeLst.mapM cpKpmMeasInfoCondUe
  pure { measDataLst, measInfoCondUeLst, granPeriodMs := src.granPeriodMs }

def cpMeasReportPerUe (src : MeasReportPerUe) : Except CopyFailure MeasReportPerUe := do
  let indMsgFormat1 ← cpKpmIndMsgFrm1 src.indMsgFormat1
  pure { ueMeasReport := cpUeIdE2sm src.ueMeasReport, indMsgFormat1 }

def cpKpmIndMsgFrm3 (src : List MeasReportPerUe) : Except CopyFailure (List MeasReportPerUe) :=
  src.mapM cpMeasReportPerUe

def cpKpmIndMsg : IndMsg → Except CopyFailure IndMsg
  | .format1 frm => IndMsg.format1 <$> cpKpmIndMsgFrm1 frm
  | .format2 frm => IndMsg.format2 <$> cpKpmIndMsgFrm2 frm
  | .format3 reports => IndMsg.format3 <$> cpKpmIndMsgFrm3 reports

/-! What is released without an assertion, as the id of a UE is, is not written down.
-/

/-- Released are the slice and the 5QI, which are never copied, and not the average, which is. -/
def freeLabelInfo (l : LabelInfo) : Except CopyFailure Unit := do
  check (l.refused = .absent) .notImplemented
  check (l.avg = none) .notImplemented

def freeTestCondValue : TestCondValue → Except CopyFailure Unit
  | .bitString _ => throw .notImplemented
  | _ => pure ()

def freeTestInfo (src : TestInfo) : Except CopyFailure Unit :=
  match src.testCondValue with
  | some value => freeTestCondValue value
  | none => pure ()

def freeMatchingCondFrm3 (src : MatchingCondFormat3) : Except CopyFailure Unit :=
  match src.cond with
  | .label info => freeLabelInfo info
  | .test info => freeTestInfo info

/-- `free_meas_info_frm_1`, and each pass over the measurements in `free_kpm_ind_msg_frm_1`. -/
def freeMeasInfoFrm1 (src : MeasInfoFormat1) : Except CopyFailure Unit :=
  src.labelInfoLst.forM freeLabelInfo

def freeKpmMeasInfoCondUe (src : MeasInfoCondUe) : Except CopyFailure Unit :=
  src.matchingCondLst.forM freeMatchingCondFrm3

def freeKpmIndMsgFrm1 (src : IndMsgFormat1) : Except CopyFailure Unit :=
  src.measInfoLst.forM freeMeasInfoFrm1

def freeKpmIndMsgFrm2 (src : IndMsgFormat2) : Except CopyFailure Unit :=
  src.measInfoCondUeLst.forM freeKpmMeasInfoCondUe

def freeKpmIndMsgFrm3 (src : List MeasReportPerUe) : Except CopyFailure Unit :=
  src.forM fun report => freeKpmIndMsgFrm1 report.indMsgFormat1

def freeKpmIndMsg : IndMsg → Except CopyFailure Unit
  | .format1 frm => freeKpmIndMsgFrm1 frm
  | .format2 frm => freeKpmIndMsgFrm2 frm
  | .format3 reports => freeKpmIndMsgFrm3 reports

end FlexRic.Kpm
