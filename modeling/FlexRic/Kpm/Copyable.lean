import FlexRic.Kpm.Copies
import FlexRic.Kpm.RoundTrip
import FlexRic.Kpm.Sameness
import FlexRic.Library.Copying

/-! # Which reports can be copied and released

A report that was decoded has no label and no test that nothing is implemented for. Its
labels can still have parts that the decoder knows and the copy or the release does not,
and its lists can be longer than the copy allows.
-/

namespace FlexRic.Kpm

open Asn (Fault)
open E2sm (UeIdE2sm cpUeIdE2sm)
open Wire (Bytes)

structure MeasInfoCondUe.Same (m0 m1 : MeasInfoCondUe) : Prop where
  measType : m0.measType = m1.measType
  matchingCondLst : m0.matchingCondLst = m1.matchingCondLst
  ueIdMatchedLst : List.Forall₂ E2sm.Same m0.ueIdMatchedLst m1.ueIdMatchedLst
  ueIdGranPeriodLst :
    List.Forall₂ UeIdGranPeriod.Agree m0.ueIdGranPeriodLst m1.ueIdGranPeriodLst

structure IndMsgFormat2.Same (m0 m1 : IndMsgFormat2) : Prop where
  measDataLst : m0.measDataLst = m1.measDataLst
  measInfoCondUeLst : List.Forall₂ MeasInfoCondUe.Same m0.measInfoCondUeLst m1.measInfoCondUeLst
  granPeriodMs : m0.granPeriodMs = m1.granPeriodMs

structure MeasReportPerUe.Same (m0 m1 : MeasReportPerUe) : Prop where
  ueMeasReport : E2sm.Same m0.ueMeasReport m1.ueMeasReport
  indMsgFormat1 : m0.indMsgFormat1 = m1.indMsgFormat1

/-- Every field is the same. In the id of a UE a list of no items need not be there. -/
def IndMsg.Same : IndMsg → IndMsg → Prop
  | .format1 frm0, .format1 frm1 => frm0 = frm1
  | .format2 frm0, .format2 frm1 => frm0.Same frm1
  | .format3 lst0, .format3 lst1 => List.Forall₂ MeasReportPerUe.Same lst0 lst1
  | _, _ => False

/-- Of every label in a condition. -/
def Condition.EveryLabel (P : LabelInfo → Prop) : Condition → Prop
  | .label info => P info
  | .test _ => True

def MeasInfoCondUe.EveryLabel (P : LabelInfo → Prop) (m : MeasInfoCondUe) : Prop :=
  ∀ c ∈ m.matchingCondLst, c.cond.EveryLabel P

def IndMsgFormat1.EveryLabel (P : LabelInfo → Prop) (m : IndMsgFormat1) : Prop :=
  ∀ info ∈ m.measInfoLst, ∀ label ∈ info.labelInfoLst, P label

/-- Of every condition, and of every label of the first format as one. -/
def IndMsg.EveryCondition (P : Condition → Prop) : IndMsg → Prop
  | .format1 frm => frm.EveryLabel fun label => P (.label label)
  | .format2 frm => ∀ info ∈ frm.measInfoCondUeLst, ∀ c ∈ info.matchingCondLst, P c.cond
  | .format3 lst => ∀ report ∈ lst, report.indMsgFormat1.EveryLabel fun label => P (.label label)

def IndMsg.EveryLabel (P : LabelInfo → Prop) (m : IndMsg) : Prop :=
  m.EveryCondition fun cond => cond.EveryLabel P

/-- Of every report of the first format. -/
def IndMsg.EveryReport (P : IndMsgFormat1 → Prop) : IndMsg → Prop
  | .format1 frm => P frm
  | .format2 _ => True
  | .format3 lst => ∀ report ∈ lst, P report.indMsgFormat1

def IndMsg.EveryData (P : MeasData → Prop) : IndMsg → Prop
  | .format1 frm => ∀ d ∈ frm.measDataLst, P d
  | .format2 frm => ∀ d ∈ frm.measDataLst, P d
  | .format3 lst => ∀ report ∈ lst, ∀ d ∈ report.indMsgFormat1.measDataLst, P d

/-- `cp_label_info` knows the label. -/
def LabelInfo.Copied (l : LabelInfo) : Prop := l.sliceId = none ∧ l.fiveQI = none

/-- `free_label_info` knows the label. -/
def LabelInfo.Freed (l : LabelInfo) : Prop := l.avg = none

/-- No label is refused, and no list is too long. -/
structure IndMsg.Copyable (m : IndMsg) : Prop where
  copied : m.EveryLabel LabelInfo.Copied
  freed : m.EveryLabel LabelInfo.Freed
  records : m.EveryData fun d => d.measRecordLst.length < 65535
  infos : m.EveryReport fun frm => frm.measInfoLst.length < 65536

structure IndMsgFormat1.Decoded (m : IndMsgFormat1) : Prop where
  data : 1 ≤ m.measDataLst.length ∧ m.measDataLst.length ≤ 65535
  records : ∀ d ∈ m.measDataLst, 1 ≤ d.measRecordLst.length
  labels : ∀ info ∈ m.measInfoLst, 1 ≤ info.labelInfoLst.length
  implemented : m.Implemented

structure IndMsgFormat2.Decoded (m : IndMsgFormat2) : Prop where
  records : ∀ d ∈ m.measDataLst, 1 ≤ d.measRecordLst.length
  implemented : (IndMsg.format2 m).Implemented

def IndMsg.Decoded : IndMsg → Prop
  | .format1 frm => frm.Decoded
  | .format2 frm => frm.Decoded
  | .format3 lst => ∀ report ∈ lst, report.indMsgFormat1.Decoded

theorem kpmDecLabelInfoAsn_implemented {src : MeasurementLabel} {l : LabelInfo}
    (decoded : kpmDecLabelInfoAsn src = .ok l) : l.Implemented := by
  simp only [kpmDecLabelInfoAsn, bind_eq_ok, pure_eq_ok] at decoded
  obtain ⟨_, -, _, -, _, -, rfl⟩ := decoded
  exact ⟨rfl, rfl⟩

theorem decTestCondValue_implemented {src : TestCondValueAsn} {value : TestCondValue}
    (decoded : decTestCondValue src = .ok value) : value.Implemented := by
  cases src with
  | valueBitS _ => cases decoded
  | _ =>
      cases decoded
      trivial

theorem decCondition_implemented {src : MatchingCondItemChoice} {cond : Condition}
    (decoded : decCondition src = .ok cond) : cond.Implemented := by
  cases src with
  | measLabel label =>
      obtain ⟨info, done, rfl⟩ := map_eq_ok.mp decoded
      exact kpmDecLabelInfoAsn_implemented done
  | testCondInfo test =>
      obtain ⟨info, done, rfl⟩ := map_eq_ok.mp decoded
      simp only [kpmDecTestInfoAsn, bind_eq_ok, pure_eq_ok] at done
      obtain ⟨values, each, rfl⟩ := done
      intro value mem
      cases read : test.testValue with
      | none =>
          rw [read] at each
          cases each
          cases mem
      | some written =>
          rw [read] at each
          obtain ⟨_, here, rfl⟩ := map_eq_ok.mp each
          cases mem
          exact decTestCondValue_implemented here

theorem kpmDecMeasDataAsn_records {src : List MeasurementDataItem} {lst : List MeasData}
    (decoded : kpmDecMeasDataAsn src = .ok lst) :
    (1 ≤ lst.length ∧ lst.length ≤ 65535) ∧ ∀ d ∈ lst, 1 ≤ d.measRecordLst.length := by
  obtain ⟨range, mapped⟩ := within_eq_ok.mp decoded
  rw [← length_of_mapM mapped] at range
  refine ⟨range, fun d mem => ?_⟩
  obtain ⟨item, -, done⟩ := exists_of_mapM mapped mem
  simp only [decMeasData, bind_eq_ok, pure_eq_ok] at done
  obtain ⟨_, range, _, -, rfl⟩ := done
  rw [List.length_map]
  exact (check_eq_ok.mp range).1

theorem kpmDecMeasInfoAsn_labels {src : List MeasurementInfoItem} {lst : List MeasInfoFormat1}
    (decoded : kpmDecMeasInfoAsn src = .ok lst) :
    ∀ info ∈ lst, 1 ≤ info.labelInfoLst.length ∧
      ∀ label ∈ info.labelInfoLst, label.Implemented := by
  intro info mem
  obtain ⟨item, -, done⟩ := exists_of_mapM decoded mem
  simp only [decMeasInfo, bind_eq_ok, pure_eq_ok] at done
  obtain ⟨labels, within, rfl⟩ := done
  obtain ⟨range, mapped⟩ := within_eq_ok.mp within
  rw [← length_of_mapM mapped] at range
  refine ⟨range.1, fun label mem => ?_⟩
  obtain ⟨_, -, here⟩ := exists_of_mapM mapped mem
  exact kpmDecLabelInfoAsn_implemented here

theorem kpmDecIndMsgFrm1Asn_decoded {src : IndicationMessageFormat1} {m : IndMsgFormat1}
    (decoded : kpmDecIndMsgFrm1Asn src = .ok m) : m.Decoded := by
  simp only [kpmDecIndMsgFrm1Asn, bind_eq_ok, pure_eq_ok] at decoded
  obtain ⟨data, readData, infos, readInfos, _, -, rfl⟩ := decoded
  have records := kpmDecMeasDataAsn_records readData
  have labels : ∀ info ∈ infos,
      1 ≤ info.labelInfoLst.length ∧ ∀ label ∈ info.labelInfoLst, label.Implemented := by
    cases read : src.measInfoList with
    | none =>
        rw [read] at readInfos
        cases readInfos
        nofun
    | some items =>
        rw [read] at readInfos
        exact kpmDecMeasInfoAsn_labels readInfos
  exact ⟨records.1, records.2, fun info mem => (labels info mem).1,
    fun info mem => (labels info mem).2⟩

section
variable {ue : UeIdCodec}

theorem kpmDecIndMsgFrm2Asn_decoded {src : IndicationMessageFormat2} {m : IndMsgFormat2}
    (decoded : kpmDecIndMsgFrm2Asn ue src = .ok m) : m.Decoded := by
  simp only [kpmDecIndMsgFrm2Asn, bind_eq_ok, pure_eq_ok] at decoded
  obtain ⟨data, readData, infos, readInfos, _, -, rfl⟩ := decoded
  refine ⟨(kpmDecMeasDataAsn_records readData).2, fun info mem cond memCond => ?_⟩
  obtain ⟨-, mapped⟩ := within_eq_ok.mp readInfos
  obtain ⟨item, -, done⟩ := exists_of_mapM mapped mem
  simp only [decMeasInfoCondUe, bind_eq_ok, pure_eq_ok] at done
  obtain ⟨conds, within, _, -, _, -, rfl⟩ := done
  obtain ⟨choice, -, here⟩ := exists_of_mapM (within_eq_ok.mp within).2 memCond
  simp only [kpmDecMatchingCondAsn, bind_eq_ok, pure_eq_ok] at here
  obtain ⟨_, readCond, _, -, rfl⟩ := here
  exact decCondition_implemented readCond

theorem indMsgOf_decoded {src : IndicationMessage} {m : IndMsg}
    (decoded : indMsgOf ue src = .ok m) : m.Decoded := by
  cases src with
  | format1 frm =>
      obtain ⟨_, done, rfl⟩ := map_eq_ok.mp decoded
      exact kpmDecIndMsgFrm1Asn_decoded done
  | format2 frm =>
      obtain ⟨_, done, rfl⟩ := map_eq_ok.mp decoded
      exact kpmDecIndMsgFrm2Asn_decoded done
  | format3 reports =>
      obtain ⟨_, done, rfl⟩ := map_eq_ok.mp decoded
      intro report mem
      obtain ⟨item, -, here⟩ := exists_of_mapM (within_eq_ok.mp done).2 mem
      simp only [decMeasReport, bind_eq_ok, pure_eq_ok] at here
      obtain ⟨_, -, _, readReport, rfl⟩ := here
      exact kpmDecIndMsgFrm1Asn_decoded readReport

/-- Every message that bytes are decoded to. -/
theorem kpmDecIndMsgAsn_decoded {p : Packing IndicationMessage} {ba : Bytes} {m : IndMsg}
    (decoded : kpmDecIndMsgAsn ue p ba = .ok m) : m.Decoded := by
  rw [kpmDecIndMsgAsn, decodeWith, bind_eq_ok] at decoded
  obtain ⟨unit, -, made⟩ := decoded
  exact indMsgOf_decoded made

end

/-- A list whose items are copied as they are. -/
theorem Yields.mapM_same {α : Type} {cp : α → Except CopyFailure α} {P : α → Prop} {as : List α}
    (each : ∀ a ∈ as, Yields (cp a) (P a) (a = ·)) :
    Yields (as.mapM cp) (∀ a ∈ as, P a) (as = ·) := by
  apply (Yields.mapM each).imp
  intro bs same
  rwa [List.forall₂_eq_eq_eq] at same

theorem map_cpE2smPlmn (o : Option Plmn) : o.map E2sm.cpE2smPlmn = o := by
  cases o <;> rfl

theorem cpLabelInfo_yields {l : LabelInfo} (implemented : l.Implemented) :
    Yields (cpLabelInfo l) l.Copied (l = ·) := by
  obtain ⟨refused, ignored⟩ := implemented
  have known : (l.sliceId = none ∧ l.fiveQI = none ∧ l.refused = .absent) ∧ l.ignored = .absent ∧
      True ↔ l.Copied := by
    rw [LabelInfo.Copied, refused, ignored]
    simp
  apply (Yields.of_check.bind fun _ passed => Yields.of_check.bind fun _ _ => .of_pure ?_).iff known
  obtain ⟨slice, fiveQI, -⟩ := passed
  rw [map_cpE2smPlmn, ← slice, ← fiveQI, ← refused, ← ignored]

theorem cpMeasData_yields {d : MeasData} (records : 1 ≤ d.measRecordLst.length) :
    Yields (cpMeasData d) (d.measRecordLst.length < 65535) (d = ·) := by
  have same : cpMeasRecord = id := by
    funext r
    cases r <;> rfl
  apply (Yields.of_check.bind fun _ _ => .of_pure ?_).iff
  · rw [and_true]
    exact and_iff_right records
  · rw [same, List.map_id]

theorem cpMeasType_eq (m : MeasType) : cpMeasType m = m := by
  cases m <;> rfl

theorem cpMeasInfoFormat1_yields {m : MeasInfoFormat1} (labels : 1 ≤ m.labelInfoLst.length)
    (implemented : ∀ label ∈ m.labelInfoLst, label.Implemented) :
    Yields (cpMeasInfoFormat1 m) (∀ label ∈ m.labelInfoLst, label.Copied) (m = ·) := by
  have copied := Yields.mapM_same fun label mem => cpLabelInfo_yields (implemented label mem)
  apply (Yields.of_check.bind fun _ _ => copied.bind fun lst same => .of_pure ?_).iff
  · rw [and_true]
    exact and_iff_right labels
  · rw [cpMeasType_eq, ← same]

theorem cpKpmTestInfo_yields {info : TestInfo}
    (implemented : ∀ value ∈ info.testCondValue, value.Implemented) :
    Yields (cpKpmTestInfo info) True (info = ·) := by
  have value (v : TestCondValue) (mem : v ∈ info.testCondValue) :
      Yields (cpTestCondValue v) True (v = ·) := by
    have known := implemented v mem
    cases v with
    | bitString _ => exact known.elim
    | _ => exact .of_pure rfl
  apply ((Yields.option value).bind fun read same => .of_pure ?_).iff
  · simp
  · have equal : info.testCondValue = read := by
      generalize info.testCondValue = value at same
      cases same with
      | none => rfl
      | some here => rw [here]
    rw [← equal]

theorem cpCondition_yields {cond : Condition} (implemented : cond.Implemented) :
    Yields (cpCondition cond) (cond.EveryLabel LabelInfo.Copied) (cond = ·) := by
  cases cond with
  | label info => exact (cpLabelInfo_yields implemented).map fun _ same => congrArg _ same
  | test info => exact (cpKpmTestInfo_yields implemented).map fun _ same => congrArg _ same

theorem cpKpmMatchingCondFrm3_yields {m : MatchingCondFormat3}
    (implemented : m.cond.Implemented) :
    Yields (cpKpmMatchingCondFrm3 m) (m.cond.EveryLabel LabelInfo.Copied) (m = ·) := by
  apply ((cpCondition_yields implemented).bind fun cond same => .of_pure ?_).iff
  · rw [and_true]
  · rw [← same]

theorem cpUes_same (lst : List UeIdE2sm) : List.Forall₂ E2sm.Same lst (lst.map cpUeIdE2sm) := by
  rw [List.forall₂_map_right_iff, List.forall₂_same]
  intro src _
  exact (E2sm.same_copy src).symm

theorem cpKpmUeIdGranPeriod_agrees (src : UeIdGranPeriod) :
    src.Agree (cpKpmUeIdGranPeriod src) := by
  cases src with
  | noneMatched => trivial
  | oneOrMore ueLst => exact cpUes_same ueLst

theorem cpKpmMeasInfoCondUe_yields {m : MeasInfoCondUe}
    (implemented : ∀ c ∈ m.matchingCondLst, c.cond.Implemented) :
    Yields (cpKpmMeasInfoCondUe m) (m.EveryLabel LabelInfo.Copied) m.Same := by
  have copied := Yields.mapM_same fun c mem => cpKpmMatchingCondFrm3_yields (implemented c mem)
  apply (copied.bind fun lst same => .of_pure ?_).iff
  · rw [and_true]
    rfl
  · refine ⟨(cpMeasType_eq _).symm, same, cpUes_same _, ?_⟩
    rw [List.forall₂_map_right_iff, List.forall₂_same]
    exact fun period _ => cpKpmUeIdGranPeriod_agrees period

theorem cpKpmIndMsgFrm1_yields {m : IndMsgFormat1} (decoded : m.Decoded) :
    Yields (cpKpmIndMsgFrm1 m)
      (m.EveryLabel LabelInfo.Copied ∧ (∀ d ∈ m.measDataLst, d.measRecordLst.length < 65535) ∧
        m.measInfoLst.length < 65536) (m = ·) := by
  have data := Yields.mapM_same fun d mem => cpMeasData_yields (decoded.records d mem)
  have infos := Yields.mapM_same fun info mem =>
    cpMeasInfoFormat1_yields (decoded.labels info mem) (decoded.implemented info mem)
  have range : 0 < m.measDataLst.length ∧ m.measDataLst.length < 65536 := by
    have bounds := decoded.data
    omega
  apply (Yields.of_check.bind fun _ _ => data.bind fun dataLst sameData =>
    Yields.of_check.bind fun _ _ => infos.bind fun infoLst sameInfos => .of_pure ?_).iff
  · rw [and_true, and_iff_right range]
    exact ⟨fun passes => ⟨passes.2.2, passes.1, passes.2.1⟩,
      fun passes => ⟨passes.2.1, passes.2.2, passes.1⟩⟩
  · rw [← sameData, ← sameInfos]

theorem cpKpmIndMsgFrm2_yields {m : IndMsgFormat2} (decoded : m.Decoded) :
    Yields (cpKpmIndMsgFrm2 m)
      ((∀ info ∈ m.measInfoCondUeLst, info.EveryLabel LabelInfo.Copied) ∧
        ∀ d ∈ m.measDataLst, d.measRecordLst.length < 65535) m.Same := by
  have data := Yields.mapM_same fun d mem => cpMeasData_yields (decoded.records d mem)
  have infos := Yields.mapM fun info mem =>
    cpKpmMeasInfoCondUe_yields (decoded.implemented info mem)
  apply (data.bind fun dataLst sameData => infos.bind fun infoLst sameInfos => .of_pure ?_).iff
  · rw [and_true, and_comm]
  · exact ⟨sameData, sameInfos, rfl⟩

theorem cpKpmIndMsg_yields {m : IndMsg} (decoded : m.Decoded) :
    Yields (cpKpmIndMsg m)
      (m.EveryLabel LabelInfo.Copied ∧ (m.EveryData fun d => d.measRecordLst.length < 65535) ∧
        m.EveryReport fun frm => frm.measInfoLst.length < 65536) m.Same := by
  cases m with
  | format1 frm => exact (cpKpmIndMsgFrm1_yields decoded).map fun _ same => same
  | format2 frm =>
      have copied : Yields (cpKpmIndMsg (.format2 frm)) _ (IndMsg.format2 frm).Same :=
        (cpKpmIndMsgFrm2_yields decoded).map fun _ same => same
      apply copied.iff
      rw [IndMsg.EveryReport, and_true]
      rfl
  | format3 lst =>
      have reports := @Yields.mapM _ _ _ cpMeasReportPerUe _ MeasReportPerUe.Same lst
        fun report mem => (cpKpmIndMsgFrm1_yields (decoded report mem)).bind fun frm same =>
          .of_pure ⟨(E2sm.same_copy report.ueMeasReport).symm, same⟩
      have copied : Yields (cpKpmIndMsg (.format3 lst)) _ (IndMsg.format3 lst).Same :=
        reports.map fun _ same => same
      apply copied.iff
      simp only [and_true, forall_and]
      rfl

theorem freeLabelInfo_yields {l : LabelInfo} (implemented : l.Implemented) :
    Yields (freeLabelInfo l) l.Freed fun _ => True := by
  apply ((Yields.of_check.bind fun _ _ => Yields.of_check).imp fun _ _ => trivial).iff
  exact and_iff_right implemented.refused

theorem freeMatchingCondFrm3_yields {m : MatchingCondFormat3} (implemented : m.cond.Implemented) :
    Yields (freeMatchingCondFrm3 m) (m.cond.EveryLabel LabelInfo.Freed) fun _ => True := by
  rw [freeMatchingCondFrm3]
  cases cond : m.cond with
  | label info =>
      rw [cond] at implemented
      exact freeLabelInfo_yields implemented
  | test info =>
      rw [cond] at implemented
      simp only [freeTestInfo]
      cases read : info.testCondValue with
      | none => exact .of_pure trivial
      | some value =>
          have known := implemented value read
          cases value with
          | bitString _ => exact known.elim
          | _ => exact .of_pure trivial

theorem freeKpmIndMsgFrm1_yields {m : IndMsgFormat1} (implemented : m.Implemented) :
    Yields (freeKpmIndMsgFrm1 m) (m.EveryLabel LabelInfo.Freed) fun _ => True :=
  .each fun info mem => .each fun label memLabel =>
    freeLabelInfo_yields (implemented info mem label memLabel)

theorem freeKpmIndMsg_yields {m : IndMsg} (implemented : m.Implemented) :
    Yields (freeKpmIndMsg m) (m.EveryLabel LabelInfo.Freed) fun _ => True := by
  cases m with
  | format1 frm => exact freeKpmIndMsgFrm1_yields implemented
  | format2 frm =>
      exact .each fun info mem => .each fun cond memCond =>
        freeMatchingCondFrm3_yields (implemented info mem cond memCond)
  | format3 lst =>
      exact .each fun report mem => freeKpmIndMsgFrm1_yields (implemented report mem)

/-- What is the same has the same conditions. -/
theorem IndMsg.Same.everyCondition {P : Condition → Prop} {m0 m1 : IndMsg} (same : m0.Same m1)
    (every : m0.EveryCondition P) : m1.EveryCondition P := by
  cases m0 with
  | format1 frm0 =>
      cases m1 with
      | format1 frm1 =>
          cases (show frm0 = frm1 from same)
          exact every
      | format2 _ | format3 _ => exact same.elim
  | format2 frm0 =>
      cases m1 with
      | format2 frm1 =>
          have infos := (show frm0.Same frm1 from same).measInfoCondUeLst
          intro info mem c memCond
          obtain ⟨src, memSrc, sameInfo⟩ := related_of_mem infos mem
          rw [← sameInfo.matchingCondLst] at memCond
          exact every src memSrc c memCond
      | format1 _ | format3 _ => exact same.elim
  | format3 lst0 =>
      cases m1 with
      | format3 lst1 =>
          intro report mem
          obtain ⟨src, memSrc, sameReport⟩ := related_of_mem same mem
          rw [← sameReport.indMsgFormat1]
          exact every src memSrc
      | format1 _ | format2 _ => exact same.elim

theorem IndMsg.implemented_iff (m : IndMsg) :
    m.Implemented ↔ m.EveryCondition Condition.Implemented := by
  cases m <;> exact Iff.rfl

theorem IndMsg.Decoded.implemented {m : IndMsg} (decoded : m.Decoded) : m.Implemented := by
  cases m with
  | format1 frm => exact IndMsgFormat1.Decoded.implemented decoded
  | format2 frm => exact IndMsgFormat2.Decoded.implemented decoded
  | format3 lst => exact fun report mem => (decoded report mem).implemented

/-- Just the messages whose labels are known to the copy and to the release, and whose lists
    are not too long, are copied as they are and released with their copies. -/
theorem kpm_copied_and_released_iff (ue : UeIdCodec) (p : Packing IndicationMessage) (ba : Bytes)
    (m : IndMsg) (decoded : kpmDecIndMsgAsn ue p ba = .ok m) :
    (∃ copy, cpKpmIndMsg m = .ok copy ∧ m.Same copy ∧ freeKpmIndMsg m = .ok () ∧
      freeKpmIndMsg copy = .ok ()) ↔ m.Copyable := by
  have known := kpmDecIndMsgAsn_decoded decoded
  have copies := cpKpmIndMsg_yields known
  have frees := freeKpmIndMsg_yields known.implemented
  constructor
  · rintro ⟨copy, copied, -, freed, -⟩
    obtain ⟨labels, records, infos⟩ := (copies.given copy copied).1
    exact ⟨labels, (frees.given () freed).1, records, infos⟩
  · intro copyable
    obtain ⟨copy, copied⟩ := copies.completes
      ⟨copyable.copied, copyable.records, copyable.infos⟩
    have same := (copies.given copy copied).2
    have implemented : copy.Implemented :=
      copy.implemented_iff.mpr (same.everyCondition (m.implemented_iff.mp known.implemented))
    obtain ⟨_, freed⟩ := frees.completes copyable.freed
    obtain ⟨_, freedToo⟩ := (freeKpmIndMsg_yields implemented).completes
      (same.everyCondition copyable.freed)
    exact ⟨copy, copied, same, freed, freedToo⟩

/-- One record without a value, as its bytes. -/
theorem kpm_copied_and_released_no_value :
    ∃ copy, cpKpmIndMsg (.format1 ⟨[⟨[.noValue], none⟩], [], none⟩) = .ok copy ∧
      (IndMsg.format1 ⟨[⟨[.noValue], none⟩], [], none⟩).Same copy ∧
      freeKpmIndMsg (.format1 ⟨[⟨[.noValue], none⟩], [], none⟩) = .ok () ∧
      freeKpmIndMsg copy = .ok () :=
  (kpm_copied_and_released_iff gnbDuIds
    (.only (.format1 ⟨[⟨[.noValue], none⟩], none, none⟩) [0, 0, 0, 0, 1, 0x40])
    [0, 0, 0, 0, 1, 0x40] _ rfl).mpr
    { copied := nofun
      freed := nofun
      records := List.forall_mem_singleton.mpr (show 1 < 65535 by decide)
      infos := show 0 < 65536 by decide }

/-- That record with the measurement with id 1, under a label of these parts. -/
def labelled (fiveQI avg : Option Int64) : IndicationMessage :=
  .format1 ⟨[⟨[.noValue], none⟩],
    some [⟨.measId 1, [⟨none, none, none, fiveQI, .absent, avg⟩]⟩], none⟩

def labelledMsg (fiveQI : Option UInt8) (avg : Option EnumValue) : IndMsg :=
  .format1 ⟨[⟨[.noValue], none⟩],
    [⟨.id 1, [⟨none, none, none, fiveQI, .absent, avg, .absent⟩]⟩], none⟩

/-- The bytes of the message up to its label. -/
def untilLabel : Bytes := [0x08, 0, 0, 0, 1, 0x40, 0, 0, 0x20, 0, 0, 1]

/-- An average is copied and cannot be released, and a 5QI cannot be copied. -/
theorem kpm_average_not_released :
    (kpmDecIndMsgAsn gnbDuIds (.only (labelled none (some 0)) (untilLabel ++ [0, 0, 2]))
        (untilLabel ++ [0, 0, 2]) = .ok (labelledMsg none (some .trueEnumValue)) ∧
      cpKpmIndMsg (labelledMsg none (some .trueEnumValue)) =
        .ok (labelledMsg none (some .trueEnumValue)) ∧
      freeKpmIndMsg (labelledMsg none (some .trueEnumValue)) = .error .notImplemented) ∧
    kpmDecIndMsgAsn gnbDuIds (.only (labelled (some 9) none) (untilLabel ++ [4, 0, 0, 9]))
        (untilLabel ++ [4, 0, 0, 9]) = .ok (labelledMsg (some 9) none) ∧
      cpKpmIndMsg (labelledMsg (some 9) none) = .error .notImplemented :=
  ⟨⟨rfl, rfl, rfl⟩, rfl, rfl⟩

end FlexRic.Kpm
