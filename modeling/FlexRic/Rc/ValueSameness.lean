import FlexRic.Rc.ValueEquality
import FlexRic.Util.EqFloat

/-! # When RAN parameters are the same

What it takes for the comparison of values, tests and definitions to say yes. The
inductions are on the first of two values.
-/

namespace FlexRic.Rc

/-- Real values agree when they are equal as numbers. -/
def RanParameterValue.Agree : RanParameterValue → RanParameterValue → Prop
  | .realRan value0, .realRan value1 => (Float.ofBits value0 == Float.ofBits value1) = true
  | value0, value1 => value0 = value1

/-- One shape, the same ids, and leaves that agree. -/
inductive RanParamValType.Agree : RanParamValType → RanParamValType → Prop
  | flagTrue {value0 value1 : RanParameterValue} (value : value0.Agree value1) :
      Agree (.flagTrue value0) (.flagTrue value1)
  | flagFalse {value0 value1 : RanParameterValue} (value : value0.Agree value1) :
      Agree (.flagFalse value0) (.flagFalse value1)
  | strct {params0 params1 : List SeqRanParam}
      (ids : List.Forall₂ (fun p0 p1 => p0.ranParamId = p1.ranParamId) params0 params1)
      (values : List.Forall₂ (fun p0 p1 => Agree p0.ranParamVal p1.ranParamVal) params0 params1) :
      Agree (.strct params0) (.strct params1)
  | lst {structs0 structs1 : List (List SeqRanParam)}
      (ids : List.Forall₂ (List.Forall₂ fun p0 p1 => p0.ranParamId = p1.ranParamId)
        structs0 structs1)
      (values : List.Forall₂ (List.Forall₂ fun p0 p1 => Agree p0.ranParamVal p1.ranParamVal)
        structs0 structs1) :
      Agree (.lst structs0) (.lst structs1)

structure SeqRanParam.Agree (p0 p1 : SeqRanParam) : Prop where
  ranParamId : p0.ranParamId = p1.ranParamId
  ranParamVal : p0.ranParamVal.Agree p1.ranParamVal

/-- Every leaf is as it should be, and every structure. -/
inductive RanParamValType.Every (V : RanParameterValue → Prop) (S : List SeqRanParam → Prop) :
    RanParamValType → Prop
  | flagTrue {value : RanParameterValue} (here : V value) : Every V S (.flagTrue value)
  | flagFalse {value : RanParameterValue} (here : V value) : Every V S (.flagFalse value)
  | strct {params : List SeqRanParam} (here : S params)
      (each : ∀ param ∈ params, Every V S param.ranParamVal) : Every V S (.strct params)
  | lst {structs : List (List SeqRanParam)} (here : ∀ params ∈ structs, S params)
      (each : ∀ params ∈ structs, ∀ param ∈ params, Every V S param.ranParamVal) :
      Every V S (.lst structs)

/-- The structures have 1 to 65535 parameters. -/
def RanParamValType.Sized (val : RanParamValType) : Prop :=
  val.Every (fun _ => True) CountFits

theorem SeqRanParam.agree_iff (p0 p1 : SeqRanParam) :
    p0.Agree p1 ↔ p0.ranParamId = p1.ranParamId ∧ p0.ranParamVal.Agree p1.ranParamVal :=
  ⟨fun agree => ⟨agree.ranParamId, agree.ranParamVal⟩, fun agree => ⟨agree.1, agree.2⟩⟩

theorem strct_agree_iff {params0 params1 : List SeqRanParam} :
    (RanParamValType.strct params0).Agree (.strct params1) ↔
      List.Forall₂ SeqRanParam.Agree params0 params1 := by
  rw [forall₂_and_iff fun p0 _ p1 _ => SeqRanParam.agree_iff p0 p1]
  constructor
  · intro agree
    cases agree with
    | strct ids values => exact ⟨ids, values⟩
  · exact fun agree => .strct agree.1 agree.2

theorem lst_agree_iff {structs0 structs1 : List (List SeqRanParam)} :
    (RanParamValType.lst structs0).Agree (.lst structs1) ↔
      List.Forall₂ (List.Forall₂ SeqRanParam.Agree) structs0 structs1 := by
  rw [forall₂_and_iff fun _ _ _ _ =>
    forall₂_and_iff fun p0 _ p1 _ => SeqRanParam.agree_iff p0 p1]
  constructor
  · intro agree
    cases agree with
    | lst ids values => exact ⟨ids, values⟩
  · exact fun agree => .lst agree.1 agree.2

section
variable {V : RanParameterValue → Prop} {S : List SeqRanParam → Prop}

theorem every_strct_iff {params : List SeqRanParam} : (RanParamValType.strct params).Every V S ↔
    S params ∧ ∀ param ∈ params, param.ranParamVal.Every V S := by
  constructor
  · intro every
    cases every with
    | strct here each => exact ⟨here, each⟩
  · exact fun every => .strct every.1 every.2

theorem every_lst_iff {structs : List (List SeqRanParam)} :
    (RanParamValType.lst structs).Every V S ↔
      ∀ params ∈ structs, S params ∧ ∀ param ∈ params, param.ranParamVal.Every V S := by
  simp only [forall_and]
  constructor
  · intro every
    cases every with
    | lst here each => exact ⟨here, each⟩
  · exact fun every => .lst every.1 every.2

theorem every_flagTrue_iff {value : RanParameterValue} :
    (RanParamValType.flagTrue value).Every V S ↔ V value := by
  constructor
  · intro every
    cases every with
    | flagTrue here => exact here
  · exact .flagTrue

theorem every_flagFalse_iff {value : RanParameterValue} :
    (RanParamValType.flagFalse value).Every V S ↔ V value := by
  constructor
  · intro every
    cases every with
    | flagFalse here => exact here
  · exact .flagFalse

end

theorem eqSeqRanParams_eq (params0 params1 : List SeqRanParam) :
    eqSeqRanParams params0 params1 = eqLst eqSeqRanParam params0 params1 := by
  induction params0 generalizing params1 with
  | nil => cases params1 <;> rfl
  | cons p0 params0 ih =>
      cases params1 with
      | nil => rfl
      | cons p1 params1 => rw [eqSeqRanParams, ih, eqLst_cons]

/-- `eq_lst_ran_param`, which compares the structures. -/
def eqLstRanParam (params0 params1 : List SeqRanParam) : Except EqFailure Bool :=
  eqRanParamStruct params0 params1 (eqSeqRanParams params0 params1)

theorem eqLstRanParams_eq (structs0 structs1 : List (List SeqRanParam)) :
    eqLstRanParams structs0 structs1 =
      eqLst (fun params0 params1 => insist .differ (eqLstRanParam params0 params1))
        structs0 structs1 := by
  induction structs0 generalizing structs1 with
  | nil => cases structs1 <;> rfl
  | cons params0 structs0 ih =>
      cases structs1 with
      | nil => rfl
      | cons params1 structs1 => rw [eqLstRanParams, ih, eqLst_cons, eqLstRanParam]

theorem eqRanParameterValue_true_iff (value0 value1 : RanParameterValue) :
    eqRanParameterValue value0 value1 = .ok true ↔ value0.Agree value1 := by
  cases value0 with
  | realRan v0 =>
      cases value1 with
      | realRan v1 =>
          simp only [eqRanParameterValue, bind_eq_ok, check_eq_ok, pure_eq_ok, exists_const,
            RanParameterValue.Agree]
          constructor
          · exact fun same => same.2.2
          · intro same
            have numbers := number_of_double_beq same
            exact ⟨numbers.1, numbers.2, same⟩
      | _ => simp [eqRanParameterValue, RanParameterValue.Agree]
  | _ => cases value1 <;> simp [eqRanParameterValue, RanParameterValue.Agree]

theorem eqSeqRanParam_true_iff_of {p0 p1 : SeqRanParam}
    (value : eqRanParamValType p0.ranParamVal p1.ranParamVal = .ok true ↔
      p0.ranParamVal.Agree p1.ranParamVal ∧ p0.ranParamVal.Sized) :
    eqSeqRanParam p0 p1 = .ok true ↔ p0.Agree p1 ∧ p0.ranParamVal.Sized := by
  obtain ⟨id0, val0⟩ := p0
  obtain ⟨id1, val1⟩ := p1
  rw [eqSeqRanParam, both_true_iff, insist_true_iff, value, pure_eq_ok, decide_eq_true_iff,
    SeqRanParam.agree_iff, and_assoc]

/-- Two structures of parameters, once it is known what it takes for two parameters. -/
theorem eqLstRanParam_true_iff_of {params0 params1 : List SeqRanParam}
    (each : ∀ p0 ∈ params0, ∀ p1 ∈ params1,
      eqSeqRanParam p0 p1 = .ok true ↔ p0.Agree p1 ∧ p0.ranParamVal.Sized) :
    eqLstRanParam params0 params1 = .ok true ↔
      List.Forall₂ SeqRanParam.Agree params0 params1 ∧ CountFits params0 ∧
        ∀ param ∈ params0, param.ranParamVal.Sized := by
  simp only [eqLstRanParam, eqRanParamStruct, both_true_iff, pure_eq_ok, decide_eq_true_iff,
    bind_eq_ok, check_eq_ok, exists_const, eqSeqRanParams_eq]
  constructor
  · rintro ⟨lengths, fits, -, same⟩
    obtain ⟨agree, sized⟩ := (eqLst_kept_iff lengths each).mp same
    exact ⟨agree, ⟨fits.1, Nat.lt_succ_iff.mp fits.2⟩, sized⟩
  · rintro ⟨agree, fits, sized⟩
    have lengths := agree.length_eq
    have here : 0 < params0.length ∧ params0.length < 65536 := ⟨fits.1, Nat.lt_succ_of_le fits.2⟩
    exact ⟨lengths, here, lengths ▸ here, (eqLst_kept_iff lengths each).mpr ⟨agree, sized⟩⟩

theorem eqRanParamValType_true_iff (val0 val1 : RanParamValType) :
    eqRanParamValType val0 val1 = .ok true ↔ val0.Agree val1 ∧ val0.Sized := by
  induction val0 using RanParamValType.rec_params generalizing val1 with
  | flagTrue value0 =>
      cases val1 with
      | flagTrue value1 =>
          rw [eqRanParamValType, eqRanParameterValue_true_iff]
          constructor
          · exact fun same => ⟨.flagTrue same, .flagTrue trivial⟩
          · intro same
            cases same.1 with
            | flagTrue value => exact value
      | _ => exact ⟨nofun, fun same => nomatch same.1⟩
  | flagFalse value0 =>
      cases val1 with
      | flagFalse value1 =>
          rw [eqRanParamValType, eqRanParameterValue_true_iff]
          constructor
          · exact fun same => ⟨.flagFalse same, .flagFalse trivial⟩
          · intro same
            cases same.1 with
            | flagFalse value => exact value
      | _ => exact ⟨nofun, fun same => nomatch same.1⟩
  | strct params0 ih =>
      cases val1 with
      | strct params1 =>
          have each := @eqLstRanParam_true_iff_of params0 params1 fun p0 mem p1 _ =>
            eqSeqRanParam_true_iff_of (ih p0 mem p1.ranParamVal)
          rw [strct_agree_iff, RanParamValType.Sized, every_strct_iff]
          exact each
      | _ => exact ⟨nofun, fun same => nomatch same.1⟩
  | lst structs0 ih =>
      cases val1 with
      | lst structs1 =>
          have each (params0) (mem : params0 ∈ structs0) (params1) (_ : params1 ∈ structs1) :
              insist .differ (eqLstRanParam params0 params1) = .ok true ↔ _ :=
            insist_true_iff.trans <| eqLstRanParam_true_iff_of fun p0 memP p1 _ =>
              eqSeqRanParam_true_iff_of (ih params0 mem p0 memP p1.ranParamVal)
          rw [eqRanParamValType, eqLstRanParams_eq, lst_agree_iff, RanParamValType.Sized,
            every_lst_iff]
          exact eqCounted_kept_iff each
      | _ => exact ⟨nofun, fun same => nomatch same.1⟩

theorem eqSeqRanParam_true_iff (p0 p1 : SeqRanParam) :
    eqSeqRanParam p0 p1 = .ok true ↔ p0.Agree p1 ∧ p0.ranParamVal.Sized :=
  eqSeqRanParam_true_iff_of (eqRanParamValType_true_iff _ _)

theorem eqLstRanParam_true_iff (params0 params1 : List SeqRanParam) :
    eqLstRanParam params0 params1 = .ok true ↔
      List.Forall₂ SeqRanParam.Agree params0 params1 ∧ CountFits params0 ∧
        ∀ param ∈ params0, param.ranParamVal.Sized :=
  eqLstRanParam_true_iff_of fun p0 _ p1 _ => eqSeqRanParam_true_iff p0 p1

/-- Tests of one shape, with the same ids and values that agree. -/
inductive RanParamTest.Agree : RanParamTest → RanParamTest → Prop
  | lst {id : UInt32} {tests0 tests1 : List RanParamTest}
      (tests : List.Forall₂ Agree tests0 tests1) : Agree ⟨id, .lst tests0⟩ ⟨id, .lst tests1⟩
  | strct {id : UInt32} {tests0 tests1 : List RanParamTest}
      (tests : List.Forall₂ Agree tests0 tests1) : Agree ⟨id, .strct tests0⟩ ⟨id, .strct tests1⟩
  | flagTrue {id : UInt32} {value0 value1 : RanParameterValue} (value : value0.Agree value1) :
      Agree ⟨id, .flagTrue value0⟩ ⟨id, .flagTrue value1⟩
  | flagFalse {id : UInt32} (elm : RanParamElmKeyFalse) :
      Agree ⟨id, .flagFalse elm⟩ ⟨id, .flagFalse elm⟩

/-- No element has one of the optional parts. -/
inductive RanParamTest.Plain : RanParamTest → Prop
  | lst {id : UInt32} {tests : List RanParamTest} (each : ∀ test ∈ tests, Plain test) :
      Plain ⟨id, .lst tests⟩
  | strct {id : UInt32} {tests : List RanParamTest} (each : ∀ test ∈ tests, Plain test) :
      Plain ⟨id, .strct tests⟩
  | flagTrue {id : UInt32} {value : RanParameterValue} : Plain ⟨id, .flagTrue value⟩
  | flagFalse {id : UInt32} {elm : RanParamElmKeyFalse} (kept : ElmKeyFalseKept elm) :
      Plain ⟨id, .flagFalse elm⟩

theorem eqRanParamElmKeyFalse_true_iff (m0 m1 : RanParamElmKeyFalse) :
    eqRanParamElmKeyFalse m0 m1 = .ok true ↔ m0 = m1 ∧ ElmKeyFalseKept m0 := by
  obtain ⟨cond0, value0, or0⟩ := m0
  obtain ⟨cond1, value1, or1⟩ := m1
  simp only [eqRanParamElmKeyFalse, both_true_iff, pure_eq_ok, decide_eq_true_iff, bind_eq_ok,
    check_eq_ok, exists_const, and_true, RanParamElmKeyFalse.mk.injEq]
  constructor
  · rintro ⟨rfl, ⟨rfl, rfl⟩, rfl, rfl⟩
    exact ⟨⟨rfl, rfl, rfl⟩, rfl, rfl⟩
  · rintro ⟨⟨rfl, rfl, rfl⟩, value, logicalOr⟩
    exact ⟨rfl, ⟨value, value⟩, logicalOr, logicalOr⟩

theorem eqRanParamTests_eq (tests0 tests1 : List RanParamTest) :
    eqRanParamTests tests0 tests1 = eqLst eqRanParamTest tests0 tests1 := by
  induction tests0 generalizing tests1 with
  | nil => cases tests1 <;> rfl
  | cons t0 tests0 ih =>
      cases tests1 with
      | nil => rfl
      | cons t1 tests1 => rw [eqRanParamTests, ih, eqLst_cons]

/-- A list, or a structure, of tests. -/
theorem eqTests_true_iff {tests0 tests1 : List RanParamTest}
    (each : ∀ t0 ∈ tests0, ∀ t1, eqRanParamTest t0 t1 = .ok true ↔ t0.Agree t1 ∧ t0.Plain) :
    insist .differ (both (pure (tests0.length = tests1.length)) (eqRanParamTests tests0 tests1)) =
      .ok true ↔ List.Forall₂ RanParamTest.Agree tests0 tests1 ∧ ∀ test ∈ tests0, test.Plain := by
  rw [insist_true_iff, eqRanParamTests_eq]
  exact eqCounted_kept_iff fun t0 mem t1 _ => each t0 mem t1

theorem eqRanParamTest_true_iff (test0 test1 : RanParamTest) :
    eqRanParamTest test0 test1 = .ok true ↔ test0.Agree test1 ∧ test0.Plain := by
  induction test0 using RanParamTest.rec_tests generalizing test1 with
  | lst id0 tests0 ih =>
      obtain ⟨id1, type1⟩ := test1
      rw [eqRanParamTest, both_true_iff, pure_eq_ok, decide_eq_true_iff]
      cases type1 with
      | lst tests1 =>
          rw [eqRanParamTestType, eqTests_true_iff ih]
          constructor
          · rintro ⟨rfl, tests, plain⟩
            exact ⟨.lst tests, .lst plain⟩
          · rintro ⟨agree, plain⟩
            cases agree with
            | lst tests =>
                cases plain with
                | lst each => exact ⟨rfl, tests, each⟩
      | _ => exact ⟨nofun, fun same => nomatch same.1⟩
  | strct id0 tests0 ih =>
      obtain ⟨id1, type1⟩ := test1
      rw [eqRanParamTest, both_true_iff, pure_eq_ok, decide_eq_true_iff]
      cases type1 with
      | strct tests1 =>
          rw [eqRanParamTestType, eqTests_true_iff ih]
          constructor
          · rintro ⟨rfl, tests, plain⟩
            exact ⟨.strct tests, .strct plain⟩
          · rintro ⟨agree, plain⟩
            cases agree with
            | strct tests =>
                cases plain with
                | strct each => exact ⟨rfl, tests, each⟩
      | _ => exact ⟨nofun, fun same => nomatch same.1⟩
  | flagTrue id0 value0 =>
      obtain ⟨id1, type1⟩ := test1
      rw [eqRanParamTest, both_true_iff, pure_eq_ok, decide_eq_true_iff]
      cases type1 with
      | flagTrue value1 =>
          rw [eqRanParamTestType, insist_true_iff, eqRanParameterValue_true_iff]
          constructor
          · rintro ⟨rfl, value⟩
            exact ⟨.flagTrue value, .flagTrue⟩
          · rintro ⟨agree, -⟩
            cases agree with
            | flagTrue value => exact ⟨rfl, value⟩
      | _ => exact ⟨nofun, fun same => nomatch same.1⟩
  | flagFalse id0 elm0 =>
      obtain ⟨id1, type1⟩ := test1
      rw [eqRanParamTest, both_true_iff, pure_eq_ok, decide_eq_true_iff]
      cases type1 with
      | flagFalse elm1 =>
          rw [eqRanParamTestType, insist_true_iff, eqRanParamElmKeyFalse_true_iff]
          constructor
          · rintro ⟨rfl, rfl, kept⟩
            exact ⟨.flagFalse elm0, .flagFalse kept⟩
          · rintro ⟨agree, plain⟩
            cases agree with
            | flagFalse elm =>
                cases plain with
                | flagFalse kept => exact ⟨rfl, rfl, kept⟩
      | _ => exact ⟨nofun, fun same => nomatch same.1⟩

theorem eqRanParamCondCritDef_true_iff (m0 m1 : List RanParamTest) :
    eqRanParamCondCritDef m0 m1 = .ok true ↔
      List.Forall₂ RanParamTest.Agree m0 m1 ∧ ∀ test ∈ m0, test.Plain :=
  eqCounted_kept_iff fun t0 _ t1 _ => eqRanParamTest_true_iff t0 t1

/-- No parameter has a definition of its own. -/
def RanParamDef.Flat : RanParamDef → Prop
  | .lst params => ∀ param ∈ params, param.ranParamDef = none
  | .strct params => ∀ param ∈ params, param.ranParamDef = none

theorem eqRanParamLstStruct_true_iff (m0 m1 : RanParamLstStruct) :
    eqRanParamLstStruct m0 m1 = .ok true ↔ m0.ranParamDef = none ∧ m0 = m1 := by
  obtain ⟨id0, name0, def0⟩ := m0
  obtain ⟨id1, name1, def1⟩ := m1
  simp only [eqRanParamLstStruct, both_true_iff, pure_eq_ok, decide_eq_true_iff, bind_eq_ok,
    check_eq_ok, exists_const, and_true, Option.isNone_iff_eq_none, RanParamLstStruct.mk.injEq]
  constructor
  · rintro ⟨rfl, rfl, rfl, rfl⟩
    exact ⟨rfl, rfl, rfl, rfl⟩
  · rintro ⟨rfl, rfl, rfl, rfl⟩
    exact ⟨rfl, rfl, rfl, rfl⟩

theorem eqRanParamLstStructs_true_iff (params0 params1 : List RanParamLstStruct) :
    eqCounted eqRanParamLstStruct params0 params1 = .ok true ↔
      (∀ param ∈ params0, param.ranParamDef = none) ∧ params0 = params1 := by
  rw [eqCounted_true_iff fun m0 _ m1 _ => eqRanParamLstStruct_true_iff m0 m1,
    List.forall₂_and_left, List.forall₂_eq_eq_eq]

theorem eqRanParamDef_true_iff (m0 m1 : RanParamDef) :
    eqRanParamDef m0 m1 = .ok true ↔ m0.Flat ∧ m0 = m1 := by
  cases m0 with
  | lst params0 =>
      cases m1 with
      | lst params1 =>
          rw [eqRanParamDef, eqRanParamLstStructs_true_iff, RanParamDef.lst.injEq]
          rfl
      | strct params1 => exact ⟨nofun, fun same => nomatch same.2⟩
  | strct params0 =>
      cases m1 with
      | lst params1 => exact ⟨nofun, fun same => nomatch same.2⟩
      | strct params1 =>
          rw [eqRanParamDef, eqRanParamLstStructs_true_iff, RanParamDef.strct.injEq]
          rfl

end FlexRic.Rc
