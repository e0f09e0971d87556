import FlexRic.E2sm.UeIdSameness
import FlexRic.Kpm.Equality

/-! # When measurement reports are the same

What it means for two reports to agree, what the comparison takes for the same, and what
it says differs. Where an assertion stands before the answer no, it never says so.
-/

namespace FlexRic.Kpm

open E2sm (UeIdE2sm)

/-- Real values agree when they are not further apart than the tolerance. -/
def MeasRecord.Agree : MeasRecord → MeasRecord → Prop
  | .integer value0, .integer value1 => value0 = value1
  | .real value0, .real value1 => ¬tolerance < (Float.ofBits value0 - Float.ofBits value1).abs
  | .noValue, .noValue => True
  | _, _ => False

structure MeasData.Agree (m0 m1 : MeasData) : Prop where
  measRecordLst : List.Forall₂ MeasRecord.Agree m0.measRecordLst m1.measRecordLst
  incompleteFlag : m0.incompleteFlag = m1.incompleteFlag

/-- A real value of a test is equal as a number. -/
def TestCondValue.Agree : TestCondValue → TestCondValue → Prop
  | .real value0, .real value1 => (Float.ofBits value0 == Float.ofBits value1) = true
  | value0, value1 => value0 = value1

structure TestInfo.Agree (m0 m1 : TestInfo) : Prop where
  testCondType : m0.testCondType = m1.testCondType
  testCond : m0.testCond = m1.testCond
  testCondValue : Option.Rel TestCondValue.Agree m0.testCondValue m1.testCondValue

def Condition.Agree : Condition → Condition → Prop
  | .label info0, .label info1 => info0 = info1
  | .test info0, .test info1 => info0.Agree info1
  | _, _ => False

structure MatchingCondFormat3.Agree (m0 m1 : MatchingCondFormat3) : Prop where
  cond : m0.cond.Agree m1.cond
  logicalOr : m0.logicalOr = m1.logicalOr

def UeIdGranPeriod.Agree : UeIdGranPeriod → UeIdGranPeriod → Prop
  | .noneMatched, .noneMatched => True
  | .oneOrMore ueLst0, .oneOrMore ueLst1 => List.Forall₂ E2sm.Same ueLst0 ueLst1
  | _, _ => False

structure MeasInfoCondUe.Agree (m0 m1 : MeasInfoCondUe) : Prop where
  measType : m0.measType = m1.measType
  matchingCondLst :
    List.Forall₂ MatchingCondFormat3.Agree m0.matchingCondLst m1.matchingCondLst
  ueIdMatchedLst : List.Forall₂ E2sm.Same m0.ueIdMatchedLst m1.ueIdMatchedLst
  ueIdGranPeriodLst :
    List.Forall₂ UeIdGranPeriod.Agree m0.ueIdGranPeriodLst m1.ueIdGranPeriodLst

structure IndMsgFormat1.Agree (m0 m1 : IndMsgFormat1) : Prop where
  measDataLst : List.Forall₂ MeasData.Agree m0.measDataLst m1.measDataLst
  measInfoLst : m0.measInfoLst = m1.measInfoLst
  granPeriodMs : m0.granPeriodMs = m1.granPeriodMs

structure IndMsgFormat2.Agree (m0 m1 : IndMsgFormat2) : Prop where
  measDataLst : List.Forall₂ MeasData.Agree m0.measDataLst m1.measDataLst
  measInfoCondUeLst :
    List.Forall₂ MeasInfoCondUe.Agree m0.measInfoCondUeLst m1.measInfoCondUeLst
  granPeriodMs : m0.granPeriodMs = m1.granPeriodMs

structure MeasReportPerUe.Agree (m0 m1 : MeasReportPerUe) : Prop where
  ueMeasReport : E2sm.Same m0.ueMeasReport m1.ueMeasReport
  indMsgFormat1 : m0.indMsgFormat1.Agree m1.indMsgFormat1

/-- One format, and agreement in everything that it has. -/
def IndMsg.Agree : IndMsg → IndMsg → Prop
  | .format1 frm0, .format1 frm1 => frm0.Agree frm1
  | .format2 frm0, .format2 frm1 => frm0.Agree frm1
  | .format3 lst0, .format3 lst1 => List.Forall₂ MeasReportPerUe.Agree lst0 lst1
  | _, _ => False

structure LabelInfo.Implemented (info : LabelInfo) : Prop where
  refused : info.refused = .absent
  ignored : info.ignored = .absent

def TestCondValue.Implemented : TestCondValue → Prop
  | .bitString _ => False
  | _ => True

def Condition.Implemented : Condition → Prop
  | .label info => info.Implemented
  | .test info => ∀ value ∈ info.testCondValue, value.Implemented

def IndMsgFormat1.Implemented (m : IndMsgFormat1) : Prop :=
  ∀ info ∈ m.measInfoLst, ∀ label ∈ info.labelInfoLst, label.Implemented

/-- Every label and every value of a test is. -/
def IndMsg.Implemented : IndMsg → Prop
  | .format1 frm => frm.Implemented
  | .format2 frm => ∀ info ∈ frm.measInfoCondUeLst, ∀ m ∈ info.matchingCondLst, m.cond.Implemented
  | .format3 lst => ∀ report ∈ lst, report.indMsgFormat1.Implemented

/-- Taken for the same: what both have is, and what is read is there. -/
def UeAlike (a b : UeIdE2sm) : Prop := E2sm.Like a b ∧ E2sm.Readable a b

def UeApart (a b : UeIdE2sm) : Prop := ¬E2sm.Like a b

/-- The conditions agree, and only what joins them does not. -/
def MatchingCondFormat3.Apart (m0 m1 : MatchingCondFormat3) : Prop :=
  m0.cond.Agree m1.cond ∧ m0.logicalOr ≠ m1.logicalOr

def UeIdGranPeriod.Alike : UeIdGranPeriod → UeIdGranPeriod → Prop
  | .noneMatched, .noneMatched => True
  | .oneOrMore ueLst0, .oneOrMore ueLst1 => List.Forall₂ UeAlike ueLst0 ueLst1
  | _, _ => False

def UeIdGranPeriod.Apart : UeIdGranPeriod → UeIdGranPeriod → Prop
  | .noneMatched, .noneMatched => False
  | .oneOrMore ueLst0, .oneOrMore ueLst1 => ListApart UeAlike UeApart ueLst0 ueLst1
  | _, _ => True

/-- The second list of periods may be longer than the first. -/
structure MeasInfoCondUe.Alike (m0 m1 : MeasInfoCondUe) : Prop where
  measType : m0.measType = m1.measType
  matchingCondLst :
    List.Forall₂ MatchingCondFormat3.Agree m0.matchingCondLst m1.matchingCondLst
  ueIdMatchedLst : List.Forall₂ UeAlike m0.ueIdMatchedLst m1.ueIdMatchedLst
  ueIdGranPeriodLst : List.Forall₂ UeIdGranPeriod.Alike m0.ueIdGranPeriodLst
    (m1.ueIdGranPeriodLst.take m0.ueIdGranPeriodLst.length)

/-- They differ in the first part that is not alike. -/
def MeasInfoCondUe.Apart (m0 m1 : MeasInfoCondUe) : Prop :=
  m0.measType ≠ m1.measType ∨ m0.measType = m1.measType ∧
    (ListApart MatchingCondFormat3.Agree MatchingCondFormat3.Apart m0.matchingCondLst
      m1.matchingCondLst ∨
    List.Forall₂ MatchingCondFormat3.Agree m0.matchingCondLst m1.matchingCondLst ∧
      (ListApart UeAlike UeApart m0.ueIdMatchedLst m1.ueIdMatchedLst ∨
      List.Forall₂ UeAlike m0.ueIdMatchedLst m1.ueIdMatchedLst ∧
        FirstDiffers UeIdGranPeriod.Alike UeIdGranPeriod.Apart m0.ueIdGranPeriodLst
          m1.ueIdGranPeriodLst))

/-- The data do not matter, but for their number. -/
structure IndMsgFormat1.Alike (m0 m1 : IndMsgFormat1) : Prop where
  measDataLst : m0.measDataLst.length = m1.measDataLst.length
  measInfoLst : m0.measInfoLst = m1.measInfoLst
  granPeriodMs : m0.granPeriodMs = m1.granPeriodMs

def IndMsgFormat1.Apart (m0 m1 : IndMsgFormat1) : Prop :=
  m0.measDataLst.length ≠ m1.measDataLst.length

structure IndMsgFormat2.Alike (m0 m1 : IndMsgFormat2) : Prop where
  measDataLst : List.Forall₂ MeasData.Agree m0.measDataLst m1.measDataLst
  measInfoCondUeLst :
    List.Forall₂ MeasInfoCondUe.Alike m0.measInfoCondUeLst m1.measInfoCondUeLst
  granPeriodMs : m0.granPeriodMs = m1.granPeriodMs

def IndMsgFormat2.Apart (m0 m1 : IndMsgFormat2) : Prop :=
  m0.measDataLst.length ≠ m1.measDataLst.length ∨
    List.Forall₂ MeasData.Agree m0.measDataLst m1.measDataLst ∧
      (ListApart MeasInfoCondUe.Alike MeasInfoCondUe.Apart m0.measInfoCondUeLst
        m1.measInfoCondUeLst ∨
      List.Forall₂ MeasInfoCondUe.Alike m0.measInfoCondUeLst m1.measInfoCondUeLst ∧
        m0.granPeriodMs ≠ m1.granPeriodMs)

structure MeasReportPerUe.Alike (m0 m1 : MeasReportPerUe) : Prop where
  ueMeasReport : UeAlike m0.ueMeasReport m1.ueMeasReport
  indMsgFormat1 : m0.indMsgFormat1.Alike m1.indMsgFormat1

def MeasReportPerUe.Apart (m0 m1 : MeasReportPerUe) : Prop :=
  UeApart m0.ueMeasReport m1.ueMeasReport ∨
    UeAlike m0.ueMeasReport m1.ueMeasReport ∧ m0.indMsgFormat1.Apart m1.indMsgFormat1

def IndMsg.Alike : IndMsg → IndMsg → Prop
  | .format1 frm0, .format1 frm1 => frm0.Alike frm1
  | .format2 frm0, .format2 frm1 => frm0.Alike frm1
  | .format3 lst0, .format3 lst1 => List.Forall₂ MeasReportPerUe.Alike lst0 lst1
  | _, _ => False

/-- Never so for two formats. -/
def IndMsg.Apart : IndMsg → IndMsg → Prop
  | .format1 frm0, .format1 frm1 => frm0.Apart frm1
  | .format2 frm0, .format2 frm1 => frm0.Apart frm1
  | .format3 lst0, .format3 lst1 =>
      ListApart MeasReportPerUe.Alike MeasReportPerUe.Apart lst0 lst1
  | _, _ => False

theorem eqSNssai_iff (m0 m1 : SNssai) : eqSNssai m0 m1 = true ↔ m0 = m1 := by
  rw [SNssai.mk.injEq, eqSNssai, Bool.and_eq_true, decide_eq_true_eq, decide_eq_true_eq]

theorem eqMeasType_iff (m0 m1 : MeasType) : eqMeasType m0 m1 = true ↔ m0 = m1 := by
  cases m0 <;> cases m1 <;> simp [eqMeasType]

/-- Two pointers to values that are compared exactly. -/
theorem eqPtr_tells {α : Type} {eq : α → α → Bool} (exact : ∀ a b, eq a b = true ↔ a = b)
    (o o' : Option α) :
    Tells (eqPtr (fun a b => (pure (eq a b) : Except EqFailure Bool)) o o') (o = o') := by
  apply (Tells.ptr fun a _ b _ => tells_pure.mpr (exact a b)).iff
  cases o <;> cases o' <;> simp

theorem eqLabelInfo_tells {l1 l2 : LabelInfo} (here : l1.Implemented) (there : l2.Implemented) :
    Tells (eqLabelInfo l1 l2) (l1 = l2) := by
  have parts : l1.noLabel = l2.noLabel ∧ l1.plmnId = l2.plmnId ∧ l1.sliceId = l2.sliceId ∧
      l1.fiveQI = l2.fiveQI ∧ l1.avg = l2.avg ∧ True ↔ l1 = l2 := by
    obtain ⟨refused, ignored⟩ := here
    obtain ⟨refused', ignored'⟩ := there
    cases l1
    cases l2
    simp_all
  rw [eqLabelInfo, check_pass _ ⟨here.refused, there.refused⟩, ok_bind,
    check_pass _ ⟨here.ignored, there.ignored⟩, ok_bind, ← parts]
  apply Tells.both tells_decide
  intro _
  apply (eqPtr_tells (fun _ _ => E2sm.eqE2smPlmn_iff) _ _).both
  intro _
  apply (eqPtr_tells eqSNssai_iff _ _).both
  intro _
  apply Tells.both tells_decide
  intro _
  exact Tells.both tells_decide fun _ => tells_pure.mpr (by simp)

theorem eqTestCondValue_tells {m0 m1 : TestCondValue} (here : m0.Implemented) :
    Tells (eqTestCondValue m0 m1) (m0.Agree m1) := by
  cases m0 with
  | bitString _ => exact here.elim
  | _ => cases m1 <;> simp [eqTestCondValue, TestCondValue.Agree]

/-- Only the types of two tests can be said to differ, and which of their parts are there. -/
theorem eqTestInfo_answers {m0 m1 : TestInfo}
    (here : ∀ value ∈ m0.testCondValue, value.Implemented) :
    ∃ no, Answers (eqTestInfo m0 m1) (m0.Agree m1) no := by
  have types : Answers (ε := EqFailure) (pure (m0.testCondType = m1.testCondType)) _ _ :=
    .of_decide
  have conds : Answers (eqPtr (fun c0 c1 => insist EqFailure.differ (pure (c0 = c1)))
      m0.testCond m1.testCond) _ _ :=
    @Answers.ptr _ _ _ (· = ·) (fun _ _ => False) _ _ fun c0 _ c1 _ =>
      (Answers.of_decide (p := c0 = c1)).insist
  have values : Answers (eqPtr (fun v0 v1 => insist EqFailure.differ (eqTestCondValue v0 v1))
      m0.testCondValue m1.testCondValue) _ _ :=
    @Answers.ptr _ _ _ TestCondValue.Agree (fun _ _ => False) _ _ fun v0 mem v1 _ =>
      (eqTestCondValue_tells (here v0 mem)).answers.insist
  have same : Option.Rel (· = ·) m0.testCond m1.testCond ↔ m0.testCond = m1.testCond := by
    cases m0.testCond <;> cases m1.testCond <;> simp
  refine ⟨_, (types.both fun _ => conds.both fun _ => values).iff ?_ Iff.rfl⟩
  rw [same]
  exact ⟨fun agree => ⟨agree.1, agree.2.1, agree.2.2⟩,
    fun agree => ⟨agree.testCondType, agree.testCond, agree.testCondValue⟩⟩

/-- A condition is never said to differ. -/
theorem eqCondition_answers {m0 m1 : Condition} (here : m0.Implemented) (there : m1.Implemented) :
    Answers (eqCondition m0 m1) (m0.Agree m1) False := by
  cases m0 with
  | label info0 =>
      cases m1 with
      | label info1 => exact (eqLabelInfo_tells here there).answers.insist
      | test info1 => exact .of_throw
  | test info0 =>
      cases m1 with
      | label info1 => exact .of_throw
      | test info1 =>
          obtain ⟨no, answers⟩ := @eqTestInfo_answers info0 info1 here
          exact answers.insist

theorem eqMatchingCondFrm3_answers {m0 m1 : MatchingCondFormat3} (here : m0.cond.Implemented)
    (there : m1.cond.Implemented) :
    Answers (eqMatchingCondFrm3 m0 m1) (m0.Agree m1) (m0.Apart m1) := by
  apply ((eqCondition_answers here there).both fun _ => .of_decide).iff
  · exact ⟨fun agree => ⟨agree.1, agree.2⟩, fun agree => ⟨agree.cond, agree.logicalOr⟩⟩
  · exact false_or _ ▸ Iff.rfl

theorem eqMeasRecord_iff (m0 m1 : MeasRecord) : eqMeasRecord m0 m1 = true ↔ m0.Agree m1 := by
  cases m0 with
  | integer value0 =>
      cases m1 with
      | integer value1 => exact decide_eq_true_iff
      | _ => exact ⟨nofun, False.elim⟩
  | real value0 =>
      cases m1 with
      | real value1 =>
          have answer : eqMeasRecord (.real value0) (.real value1) =
              !decide (tolerance < (Float.ofBits value0 - Float.ofBits value1).abs) := rfl
          rw [answer, Bool.not_eq_true', decide_eq_false_iff_not]
          exact Iff.rfl
      | _ => exact ⟨nofun, False.elim⟩
  | noValue =>
      cases m1 with
      | noValue => exact iff_of_true rfl trivial
      | _ => exact ⟨nofun, False.elim⟩

theorem eqMeasData_tells (m0 m1 : MeasData) : Tells (eqMeasData m0 m1) (m0.Agree m1) := by
  have records : Tells (ε := EqFailure)
      (eqCounted (fun r0 r1 => pure (eqMeasRecord r0 r1)) m0.measRecordLst m1.measRecordLst) _ :=
    .counted fun r0 _ r1 _ => tells_pure.mpr (eqMeasRecord_iff r0 r1)
  apply (records.both fun _ => tells_decide).iff
  exact ⟨fun agree => ⟨agree.1, agree.2⟩, fun agree => ⟨agree.measRecordLst, agree.incompleteFlag⟩⟩

theorem MeasRecord.agree_self (m : MeasRecord) : m.Agree m := by
  cases m with
  | integer value => rfl
  | real value => exact not_far_self _
  | noValue => trivial

theorem MeasData.agree_self (m : MeasData) : m.Agree m :=
  ⟨List.forall₂_same.mpr fun r _ => r.agree_self, rfl⟩

theorem eqUeId_answers (m0 m1 : UeIdE2sm) :
    Answers (eqUeId m0 m1) (UeAlike m0 m1) (UeApart m0 m1) :=
  (E2sm.ueId_answers m0 m1).mapError _

theorem eqUeIds_answers (m0 m1 : List UeIdE2sm) :
    Answers (eqCounted eqUeId m0 m1) (List.Forall₂ UeAlike m0 m1)
      (ListApart UeAlike UeApart m0 m1) :=
  .counted fun a _ b _ => eqUeId_answers a b

theorem eqUeIdGranPeriod_answers (m0 m1 : UeIdGranPeriod) :
    Answers (eqUeIdGranPeriod m0 m1) (m0.Alike m1) (m0.Apart m1) := by
  have yes : Answers (ε := EqFailure) (pure true) True (¬True) := .of_pure (by simp)
  have no : Answers (ε := EqFailure) (pure false) False (¬False) := .of_pure (by simp)
  cases m0 with
  | noneMatched =>
      cases m1 with
      | noneMatched => exact yes.iff Iff.rfl not_true
      | oneOrMore _ => exact no.iff Iff.rfl not_false_iff
  | oneOrMore _ =>
      cases m1 with
      | noneMatched => exact no.iff Iff.rfl not_false_iff
      | oneOrMore _ => exact eqUeIds_answers _ _

theorem eqMeasInfoCondUe_answers {m0 m1 : MeasInfoCondUe}
    (here : ∀ m ∈ m0.matchingCondLst, m.cond.Implemented)
    (there : ∀ m ∈ m1.matchingCondLst, m.cond.Implemented) :
    Answers (eqMeasInfoCondUe m0 m1) (m0.Alike m1) (m0.Apart m1) := by
  have conds : Answers (eqCounted eqMatchingCondFrm3 m0.matchingCondLst m1.matchingCondLst) _
      (ListApart MatchingCondFormat3.Agree MatchingCondFormat3.Apart _ _) :=
    .counted fun a mem b mem' => eqMatchingCondFrm3_answers (here a mem) (there b mem')
  have periods : Answers (eqUpTo EqFailure.outside eqUeIdGranPeriod m0.ueIdGranPeriodLst
      m1.ueIdGranPeriodLst) _ _ := .upTo fun a _ b _ => eqUeIdGranPeriod_answers a b
  have types : Answers (ε := EqFailure) (pure (eqMeasType m0.measType m1.measType)) _ _ :=
    .of_pure (eqMeasType_iff _ _)
  apply (types.both fun _ =>
    conds.both fun _ => (eqUeIds_answers _ _).both fun _ => periods).iff ?_ Iff.rfl
  exact ⟨fun alike => ⟨alike.1, alike.2.1, alike.2.2.1, alike.2.2.2⟩, fun alike =>
    ⟨alike.measType, alike.matchingCondLst, alike.ueIdMatchedLst, alike.ueIdGranPeriodLst⟩⟩

theorem eqMeasInfo_answers {m0 m1 : MeasInfoFormat1}
    (here : ∀ label ∈ m0.labelInfoLst, label.Implemented)
    (there : ∀ label ∈ m1.labelInfoLst, label.Implemented) :
    Answers (eqMeasInfo m0 m1) (m0 = m1) False := by
  have types : Answers (insist EqFailure.differ (pure (eqMeasType m0.measType m1.measType))) _ _ :=
    (Answers.of_pure (eqMeasType_iff _ _)).insist
  have counts : Answers (insist EqFailure.differ
      (pure (m0.labelInfoLst.length = m1.labelInfoLst.length))) _ _ := Answers.of_decide.insist
  have labels (lengths : m0.labelInfoLst.length = m1.labelInfoLst.length) :
      Answers (eqLst (fun l0 l1 => insist EqFailure.differ (eqLabelInfo l0 l1))
        m0.labelInfoLst m1.labelInfoLst) (m0.labelInfoLst = m1.labelInfoLst) False := by
    apply (Answers.lst_yes lengths fun a mem b mem' =>
      (eqLabelInfo_tells (here a mem) (there b mem')).answers.insist).iff ?_ Iff.rfl
    rw [List.forall₂_eq_eq_eq]
  apply (types.both_yes fun _ => counts.both_yes labels).iff ?_ Iff.rfl
  rw [MeasInfoFormat1.mk.injEq]
  exact and_congr_right fun _ => and_iff_right_of_imp (congrArg List.length)

/-- What the first format is compared by never says no, but for the number of data. -/
theorem eqIndMsgFrm1_answers {m0 m1 : IndMsgFormat1} (here : m0.Implemented)
    (there : m1.Implemented) : Answers (eqIndMsgFrm1 m0 m1) (m0.Alike m1) (m0.Apart m1) := by
  have count : Answers (ε := EqFailure)
      (pure (m0.measDataLst.length = m1.measDataLst.length)) _ _ := .of_decide
  have itself (lengths : m0.measDataLst.length = m1.measDataLst.length) :
      Answers (eqLst (fun d _ => insist EqFailure.differ (eqMeasData d d)) m0.measDataLst
        m1.measDataLst) True False := by
    have each (d : MeasData) : Answers (insist EqFailure.differ (eqMeasData d d)) True False :=
      (eqMeasData_tells d d).answers.insist.iff (iff_true_intro d.agree_self) Iff.rfl
    apply (@Answers.lst_yes _ _ _ (fun _ _ => True) _ _ lengths
      fun d _ _ _ => each d).iff ?_ Iff.rfl
    rw [List.forall₂_iff_get]
    simp [lengths]
  have infoCount : Answers (insist EqFailure.differ
      (pure (m0.measInfoLst.length = m1.measInfoLst.length))) _ _ := Answers.of_decide.insist
  have infos (lengths : m0.measInfoLst.length = m1.measInfoLst.length) :
      Answers (eqLst eqMeasInfo m0.measInfoLst m1.measInfoLst) (m0.measInfoLst = m1.measInfoLst)
        False := by
    apply (Answers.lst_yes lengths fun a mem b mem' =>
      eqMeasInfo_answers (here a mem) (there b mem')).iff ?_ Iff.rfl
    rw [List.forall₂_eq_eq_eq]
  have period : Answers (insist EqFailure.differ (pure (m0.granPeriodMs = m1.granPeriodMs))) _ _ :=
    Answers.of_decide.insist
  apply (count.both fun lengths => (itself lengths).both_yes fun _ =>
    infoCount.both_yes fun lengths => (infos lengths).both_yes fun _ => period).iff
  · constructor
    · rintro ⟨data, -, -, infos, period⟩
      exact ⟨data, infos, period⟩
    · intro alike
      exact ⟨alike.measDataLst, trivial, congrArg List.length alike.measInfoLst,
        alike.measInfoLst, alike.granPeriodMs⟩
  · rw [and_false, or_false]
    rfl

theorem eqIndMsgFrm2_answers {m0 m1 : IndMsgFormat2} (here : (IndMsg.format2 m0).Implemented)
    (there : (IndMsg.format2 m1).Implemented) :
    Answers (eqIndMsgFrm2 m0 m1) (m0.Alike m1) (m0.Apart m1) := by
  have count : Answers (ε := EqFailure)
      (pure (m0.measDataLst.length = m1.measDataLst.length)) _ _ := .of_decide
  have data (lengths : m0.measDataLst.length = m1.measDataLst.length) :
      Answers (eqLst (fun d0 d1 => insist EqFailure.differ (eqMeasData d0 d1)) m0.measDataLst
        m1.measDataLst) (List.Forall₂ MeasData.Agree m0.measDataLst m1.measDataLst) False :=
    .lst_yes lengths fun d0 _ d1 _ => (eqMeasData_tells d0 d1).answers.insist
  have infos : Answers (eqCounted eqMeasInfoCondUe m0.measInfoCondUeLst m1.measInfoCondUeLst)
      (List.Forall₂ MeasInfoCondUe.Alike _ _)
      (ListApart MeasInfoCondUe.Alike MeasInfoCondUe.Apart _ _) :=
    .counted fun a mem b mem' => eqMeasInfoCondUe_answers (here a mem) (there b mem')
  apply (count.both fun lengths => (data lengths).both fun _ => infos.both fun _ =>
    .of_decide).iff
  · constructor
    · rintro ⟨-, data, infos, period⟩
      exact ⟨data, infos, period⟩
    · intro alike
      exact ⟨alike.measDataLst.length_eq, alike.measDataLst, alike.measInfoCondUeLst,
        alike.granPeriodMs⟩
  · rw [false_or, IndMsgFormat2.Apart]
    apply or_congr_right
    exact and_iff_right_of_imp fun differ => differ.1.length_eq

theorem eqMeasReportPerUe_answers {m0 m1 : MeasReportPerUe} (here : m0.indMsgFormat1.Implemented)
    (there : m1.indMsgFormat1.Implemented) :
    Answers (eqMeasReportPerUe m0 m1) (m0.Alike m1) (m0.Apart m1) := by
  apply ((eqUeId_answers _ _).both fun _ => eqIndMsgFrm1_answers here there).iff ?_ Iff.rfl
  exact ⟨fun alike => ⟨alike.1, alike.2⟩, fun alike => ⟨alike.ueMeasReport, alike.indMsgFormat1⟩⟩

theorem eqIndMsg_answers {m0 m1 : IndMsg} (here : m0.Implemented) (there : m1.Implemented) :
    Answers (eqIndMsg m0 m1) (m0.Alike m1) (m0.Apart m1) := by
  cases m0 with
  | format1 frm0 =>
      cases m1 with
      | format1 frm1 => exact eqIndMsgFrm1_answers here there
      | format2 _ | format3 _ => exact .of_throw
  | format2 frm0 =>
      cases m1 with
      | format2 frm1 => exact eqIndMsgFrm2_answers here there
      | format1 _ | format3 _ => exact .of_throw
  | format3 lst0 =>
      cases m1 with
      | format3 lst1 =>
          exact .counted fun a mem b mem' => eqMeasReportPerUe_answers (here a mem) (there b mem')
      | format1 _ | format2 _ => exact .of_throw

theorem UeApart.sound (m0 m1 : UeIdE2sm) (apart : UeApart m0 m1) : ¬E2sm.Same m0 m1 := by
  intro same
  have tells := (E2sm.ueId_tells_iff m0 m1).mpr fun like => absurd like apart
  cases (tells.true_iff.mpr same).symm.trans ((E2sm.ueId_answers m0 m1).no.mpr apart)

theorem MatchingCondFormat3.Apart.sound (m0 m1 : MatchingCondFormat3) (apart : m0.Apart m1) :
    ¬m0.Agree m1 := fun agree => apart.2 agree.logicalOr

theorem UeIdGranPeriod.Apart.sound (m0 m1 : UeIdGranPeriod) (apart : m0.Apart m1) :
    ¬m0.Agree m1 := by
  cases m0 with
  | noneMatched =>
      cases m1 with
      | noneMatched => exact apart.elim
      | oneOrMore _ => exact id
  | oneOrMore _ =>
      cases m1 with
      | noneMatched => exact id
      | oneOrMore _ => exact ListApart.sound UeApart.sound apart

theorem MeasInfoCondUe.Apart.sound (m0 m1 : MeasInfoCondUe) (apart : m0.Apart m1) :
    ¬m0.Agree m1 := by
  intro agree
  rcases apart with differ | ⟨-, differ | ⟨-, differ | ⟨-, differ⟩⟩⟩
  · exact differ agree.measType
  · exact differ.sound MatchingCondFormat3.Apart.sound agree.matchingCondLst
  · exact differ.sound UeApart.sound agree.ueIdMatchedLst
  · exact differ.sound UeIdGranPeriod.Apart.sound agree.ueIdGranPeriodLst

theorem IndMsgFormat1.Apart.sound {m0 m1 : IndMsgFormat1} (apart : m0.Apart m1) :
    ¬m0.Agree m1 := fun agree => apart agree.measDataLst.length_eq

theorem IndMsgFormat2.Apart.sound {m0 m1 : IndMsgFormat2} (apart : m0.Apart m1) :
    ¬m0.Agree m1 := by
  intro agree
  rcases apart with differ | ⟨-, differ | ⟨-, differ⟩⟩
  · exact differ agree.measDataLst.length_eq
  · exact differ.sound MeasInfoCondUe.Apart.sound agree.measInfoCondUeLst
  · exact differ agree.granPeriodMs

theorem MeasReportPerUe.Apart.sound (m0 m1 : MeasReportPerUe) (apart : m0.Apart m1) :
    ¬m0.Agree m1 := by
  intro agree
  rcases apart with differ | ⟨-, differ⟩
  · exact UeApart.sound _ _ differ agree.ueMeasReport
  · exact differ.sound agree.indMsgFormat1

theorem IndMsg.Apart.sound {m0 m1 : IndMsg} (apart : m0.Apart m1) : ¬m0.Agree m1 := by
  cases m0 with
  | format1 frm0 =>
      cases m1 with
      | format1 frm1 => exact IndMsgFormat1.Apart.sound apart
      | format2 _ | format3 _ => exact id
  | format2 frm0 =>
      cases m1 with
      | format2 frm1 => exact IndMsgFormat2.Apart.sound apart
      | format1 _ | format3 _ => exact id
  | format3 lst0 =>
      cases m1 with
      | format3 lst1 => exact ListApart.sound MeasReportPerUe.Apart.sound apart
      | format1 _ | format2 _ => exact id

/-- The equality is exact just for two messages that agree and whose UEs have what is read of
    them, or that are said to differ where they first do. -/
theorem kpm_equality_exact_iff {m0 m1 : IndMsg} (here : m0.Implemented)
    (there : m1.Implemented) :
    Tells (eqIndMsg m0 m1) (m0.Agree m1) ↔ m0.Agree m1 ∧ m0.Alike m1 ∨ m0.Apart m1 :=
  (eqIndMsg_answers here there).tells_iff IndMsg.Apart.sound

/-- A report of the first format of these values, each on its own. -/
def reportOf (values : List UInt32) : IndMsg :=
  .format1 ⟨values.map fun value => ⟨[.integer value], none⟩, [], none⟩

/-- A report of these values of the UEs that a label and a test pick out. -/
def reportIf (values : List UInt32) : IndMsg :=
  .format2 ⟨values.map fun value => ⟨[.integer value], none⟩,
    [⟨.id 1, [⟨.label ⟨some .trueEnumValue, none, none, none, .absent, none, .absent⟩, none⟩,
      ⟨.test ⟨.fiveQI, some .equal, some (.integer 9)⟩, none⟩],
      [.gnbDu ⟨7, some 1⟩], [.noneMatched]⟩], none⟩

theorem reportIf_implemented (values : List UInt32) : (reportIf values).Implemented := by
  refine List.forall_mem_singleton.mpr
    (List.forall_mem_cons.mpr ⟨⟨rfl, rfl⟩, List.forall_mem_singleton.mpr ?_⟩)
  intro value here
  cases here
  trivial

/-- One value more is seen. -/
theorem kpm_equality_exact_one_more : Tells (eqIndMsg (reportIf [7]) (reportIf [7, 8]))
    ((reportIf [7]).Agree (reportIf [7, 8])) := by
  have longer : [7].length ≠ [7, 8].length := by decide
  exact (kpm_equality_exact_iff (reportIf_implemented [7]) (reportIf_implemented [7, 8])).mpr
    (.inr (.inl longer))

/-- A condition on the measurement with this number, with UEs for these periods. -/
def reportWith (periods : List UeIdGranPeriod) : IndMsg :=
  .format2 ⟨[], [⟨.id 1, [], [], periods⟩], none⟩

/-- Another value is not seen, one format is not compared with another, and periods that only
    the second message has are not seen. -/
theorem kpm_value_ignored :
    eqIndMsg (reportOf [7]) (reportOf [8]) = .ok true ∧
    ¬(reportOf [7]).Agree (reportOf [8]) ∧
    eqIndMsg (reportOf [7]) (.format3 []) = .error .type ∧
    eqIndMsg (reportWith []) (reportWith [.noneMatched]) = .ok true ∧
    ¬(reportWith []).Agree (reportWith [.noneMatched]) := by
  refine ⟨rfl, ?_, rfl, rfl, ?_⟩
  · intro agree
    cases agree.measDataLst with
    | cons first _ =>
        cases first.measRecordLst with
        | cons same _ => exact absurd (show (7 : UInt32) = 8 from same) (by decide)
  · intro agree
    cases agree.measInfoCondUeLst with
    | cons first _ => cases first.ueIdGranPeriodLst

end FlexRic.Kpm
