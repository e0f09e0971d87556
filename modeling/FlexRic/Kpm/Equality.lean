import FlexRic.E2sm.UeIdEquality
import FlexRic.Kpm.Types
import FlexRic.Util.EqFloat

/-! # Equality of measurement reports

A report is compared list by list. In places an assertion is left in front of the
answer no, and the data of the first format are compared with themselves.
-/

namespace FlexRic.Kpm

open E2sm (eqE2smPlmn eqUeIdE2sm UeIdE2sm)

/-- What ends a comparison. -/
inductive EqFailure where
  /-- `m0->type == m1->type` -/
  | type
  /-- `0!=0`, `"Debugging purposes"`, `"For debugging purposes"` -/
  | differ
  | notImplemented
  /-- A list is read past its end. -/
  | outside
  | ueId (failure : Asn.Fault)
  deriving DecidableEq, Repr

def eqSNssai (m0 m1 : SNssai) : Bool := m0.sst = m1.sst && m0.sd = m1.sd

/-- The parts that are not implemented are looked at after the others, but for `avg`. -/
def eqLabelInfo (l1 l2 : LabelInfo) : Except EqFailure Bool :=
  both (pure (l1.noLabel = l2.noLabel)) <|
  both (eqPtr (fun m0 m1 => pure (eqE2smPlmn m0 m1)) l1.plmnId l2.plmnId) <|
  both (eqPtr (fun m0 m1 => pure (eqSNssai m0 m1)) l1.sliceId l2.sliceId) <|
  both (pure (l1.fiveQI = l2.fiveQI)) <| do
    check (l1.refused = .absent ∧ l2.refused = .absent) .notImplemented
    both (pure (l1.avg = l2.avg)) <| do
      check (l1.ignored = .absent ∧ l2.ignored = .absent) .notImplemented
      pure true

def eqMeasType : MeasType → MeasType → Bool
  | .name name0, .name name1 => name0 = name1
  | .id id0, .id id1 => id0 = id1
  | _, _ => false

/-- The types, and then the one value that the type has. -/
def eqTestCondValue : TestCondValue → TestCondValue → Except EqFailure Bool
  | .integer value0, .integer value1 => pure (value0 = value1)
  | .enumerated value0, .enumerated value1 => pure (value0 = value1)
  | .boolean value0, .boolean value1 => pure (value0 = value1)
  | .bitString _, .bitString _ => throw .notImplemented
  | .octetString value0, .octetString value1 => pure (value0 = value1)
  | .printableString value0, .printableString value1 => pure (value0 = value1)
  | .real value0, .real value1 => pure (Float.ofBits value0 == Float.ofBits value1)
  | _, _ => pure false

def eqTestInfo (m0 m1 : TestInfo) : Except EqFailure Bool :=
  both (pure (m0.testCondType = m1.testCondType)) <|
  both (eqPtr (fun c0 c1 => insist .differ (pure (c0 = c1))) m0.testCond m1.testCond) <|
    eqPtr (fun v0 v1 => insist .differ (eqTestCondValue v0 v1)) m0.testCondValue m1.testCondValue

def eqCondition : Condition → Condition → Except EqFailure Bool
  | .label info0, .label info1 => insist .differ (eqLabelInfo info0 info1)
  | .test info0, .test info1 => insist .differ (eqTestInfo info0 info1)
  | _, _ => throw .differ

def eqMatchingCondFrm3 (m0 m1 : MatchingCondFormat3) : Except EqFailure Bool :=
  both (eqCondition m0.cond m1.cond) (pure (m0.logicalOr = m1.logicalOr))

/-- One pass of the loop in `eq_meas_data_lst`. -/
def eqMeasRecord : MeasRecord → MeasRecord → Bool
  | .integer value0, .integer value1 => value0 = value1
  | .real value0, .real value1 =>
      !decide (tolerance < (Float.ofBits value0 - Float.ofBits value1).abs)
  | .noValue, .noValue => true
  | _, _ => false

def eqMeasData (m0 m1 : MeasData) : Except EqFailure Bool :=
  both (eqCounted (fun r0 r1 => pure (eqMeasRecord r0 r1)) m0.measRecordLst m1.measRecordLst) <|
    pure (m0.incompleteFlag = m1.incompleteFlag)

def eqUeId (m0 m1 : UeIdE2sm) : Except EqFailure Bool := (eqUeIdE2sm m0 m1).mapError .ueId

def eqUeIdGranPeriod : UeIdGranPeriod → UeIdGranPeriod → Except EqFailure Bool
  | .noneMatched, .noneMatched => pure true
  | .oneOrMore ueLst0, .oneOrMore ueLst1 => eqCounted eqUeId ueLst0 ueLst1
  | _, _ => pure false

/-- The lengths of the last lists are not compared. -/
def eqMeasInfoCondUe (m0 m1 : MeasInfoCondUe) : Except EqFailure Bool :=
  both (pure (eqMeasType m0.measType m1.measType)) <|
  both (eqCounted eqMatchingCondFrm3 m0.matchingCondLst m1.matchingCondLst) <|
  both (eqCounted eqUeId m0.ueIdMatchedLst m1.ueIdMatchedLst) <|
    eqUpTo .outside eqUeIdGranPeriod m0.ueIdGranPeriodLst m1.ueIdGranPeriodLst

/-- One pass over the measurement information in `eq_kpm_ind_msg_frm_1`. -/
def eqMeasInfo (m0 m1 : MeasInfoFormat1) : Except EqFailure Bool :=
  both (insist .differ (pure (eqMeasType m0.measType m1.measType))) <|
  both (insist .differ (pure (m0.labelInfoLst.length = m1.labelInfoLst.length))) <|
    eqLst (fun l0 l1 => insist .differ (eqLabelInfo l0 l1)) m0.labelInfoLst m1.labelInfoLst

/-- The data of the first message are compared with themselves. -/
def eqIndMsgFrm1 (m0 m1 : IndMsgFormat1) : Except EqFailure Bool :=
  both (pure (m0.measDataLst.length = m1.measDataLst.length)) <|
  both (eqLst (fun d _ => insist .differ (eqMeasData d d)) m0.measDataLst m1.measDataLst) <|
  both (insist .differ (pure (m0.measInfoLst.length = m1.measInfoLst.length))) <|
  both (eqLst eqMeasInfo m0.measInfoLst m1.measInfoLst) <|
    insist .differ (pure (m0.granPeriodMs = m1.granPeriodMs))

def eqIndMsgFrm2 (m0 m1 : IndMsgFormat2) : Except EqFailure Bool :=
  both (pure (m0.measDataLst.length = m1.measDataLst.length)) <|
  both (eqLst (fun d0 d1 => insist .differ (eqMeasData d0 d1)) m0.measDataLst m1.measDataLst) <|
  both (eqCounted eqMeasInfoCondUe m0.measInfoCondUeLst m1.measInfoCondUeLst) <|
    pure (m0.granPeriodMs = m1.granPeriodMs)

def eqMeasReportPerUe (m0 m1 : MeasReportPerUe) : Except EqFailure Bool :=
  both (eqUeId m0.ueMeasReport m1.ueMeasReport) (eqIndMsgFrm1 m0.indMsgFormat1 m1.indMsgFormat1)

def eqIndMsgFrm3 (m0 m1 : List MeasReportPerUe) : Except EqFailure Bool :=
  eqCounted eqMeasReportPerUe m0 m1

def eqIndMsg : IndMsg → IndMsg → Except EqFailure Bool
  | .format1 frm0, .format1 frm1 => eqIndMsgFrm1 frm0 frm1
  | .format2 frm0, .format2 frm1 => eqIndMsgFrm2 frm0 frm1
  | .format3 lst0, .format3 lst1 => eqIndMsgFrm3 lst0 lst1
  | _, _ => throw .type

end FlexRic.Kpm
