import FlexRic.Rc.ValuesRoundTrip

/-! # Tests of RAN parameters

A test compares an element, or holds for the parameters of a structure or a list, nested
to any depth. The decoder checks the lengths of the lists, the encoder does not.
-/

namespace FlexRic.Rc

open Asn (Fault)
open E2sm (Unread fromNumber)

/-- `ran_param_test_cond_comp_e`. -/
inductive RanParamTestCondComp where
  | equal | difference | greaterthan | lessthan | contains | startsWith
  deriving DecidableEq

def encRanParamTestCondComp : RanParamTestCondComp → Int64
  | .equal => 0 | .difference => 1 | .greaterthan => 2 | .lessthan => 3 | .contains => 4
  | .startsWith => 5

def decRanParamTestCondComp : Int64 → Except Fault RanParamTestCondComp :=
  fromNumber encRanParamTestCondComp
    [.equal, .difference, .greaterthan, .lessthan, .contains, .startsWith]

/-- `ran_param_test_cond_presence_e`. -/
inductive RanParamTestCondPresence where
  | present | configured | rollover | nonZero
  deriving DecidableEq

def encRanParamTestCondPresence : RanParamTestCondPresence → Int64
  | .present => 0 | .configured => 1 | .rollover => 2 | .nonZero => 3

def decRanParamTestCondPresence : Int64 → Except Fault RanParamTestCondPresence :=
  fromNumber encRanParamTestCondPresence [.present, .configured, .rollover, .nonZero]

/-- `ran_param_test_cond_t`. -/
inductive RanParamTestCond where
  | comp (comp : RanParamTestCondComp)
  | presence (presence : RanParamTestCondPresence)
  deriving DecidableEq

/-- `ran_param_elm_key_false_t`. -/
structure RanParamElmKeyFalse where
  testCond : RanParamTestCond
  value : Option Unread
  logicalOr : Option Unread
  deriving DecidableEq

mutual

/-- `ran_param_test_t`. -/
structure RanParamTest where
  ranParamId : UInt32
  test : RanParamTestType

/-- What a test looks at. -/
inductive RanParamTestType where
  | lst (ranParamTest : List RanParamTest)
  | strct (ranParamTest : List RanParamTest)
  | flagTrue (value : RanParameterValue)
  | flagFalse (elm : RanParamElmKeyFalse)

end

/-- `RANParameter_TestingCondition_t`. -/
inductive RanParameterTestingCondition where
  | comparison (number : Int64)
  | presence (number : Int64)
  deriving DecidableEq

/-- `RANParameter_Testing_Item_Choice_ElementFalse_t`. -/
structure TestingElementFalse where
  ranParameterTestCondition : RanParameterTestingCondition
  ranParameterValue : Option Unread
  logicalOr : Option Unread
  deriving DecidableEq

mutual

/-- `RANParameter_Testing_Item_t`. -/
structure RanParameterTestingItem where
  ranParameterId : UInt64
  ranParameterType : RanParameterTestingType

inductive RanParameterTestingType where
  | choiceList (ranParameterList : List RanParameterTestingItem)
  | choiceStructure (ranParameterStructure : List RanParameterTestingItem)
  | elementTrue (ranParameterValue : RanParameterValueAsn)
  | elementFalse (element : TestingElementFalse)

end

def encRanParamTestCond : RanParamTestCond → RanParameterTestingCondition
  | .comp comp => .comparison (encRanParamTestCondComp comp)
  | .presence presence => .presence (encRanParamTestCondPresence presence)

def decTestCond : RanParameterTestingCondition → Except Fault RanParamTestCond
  | .comparison number => RanParamTestCond.comp <$> decRanParamTestCondComp number
  | .presence number => RanParamTestCond.presence <$> decRanParamTestCondPresence number

def cpElmFalse (src : RanParamElmKeyFalse) : Except Fault TestingElementFalse := do
  check (src.value = none) .notImplemented
  check (src.logicalOr = none) .notImplemented
  pure {
    ranParameterTestCondition := encRanParamTestCond src.testCond
    ranParameterValue := none
    logicalOr := none }

def decKeyFlagFalse (src : TestingElementFalse) : Except Fault RanParamElmKeyFalse := do
  let testCond ← decTestCond src.ranParameterTestCondition
  check (src.ranParameterValue = none) .notImplemented
  check (src.logicalOr = none) .notImplemented
  pure { testCond, value := none, logicalOr := none }

mutual

def encRanParamTest : RanParamTest → Except Fault RanParameterTestingItem
  | ⟨ranParamId, test⟩ => do
      check (0 < ranParamId) .bound
      let ranParameterType ← encRanParamTestType test
      pure { ranParameterId := ranParamId.toUInt64, ranParameterType }

def encRanParamTestType : RanParamTestType → Except Fault RanParameterTestingType
  | .lst tests => do
      let items ← encRanParamTests tests
      pure (.choiceList items)
  | .strct tests => do
      let items ← encRanParamTests tests
      pure (.choiceStructure items)
  | .flagTrue value => pure (.elementTrue (cpRanParamVal value))
  | .flagFalse elm => RanParameterTestingType.elementFalse <$> cpElmFalse elm

/-- The loop over the tests of a list or a structure. -/
def encRanParamTests : List RanParamTest → Except Fault (List RanParameterTestingItem)
  | [] => pure []
  | test :: tests => do
      let item ← encRanParamTest test
      let items ← encRanParamTests tests
      pure (item :: items)

end

mutual

def decRanParamTest : RanParameterTestingItem → Except Fault RanParamTest
  | ⟨ranParameterId, ranParameterType⟩ => do
      check (0 < ranParameterId ∧ ranParameterId < 4294967296) .bound
      let test ← decRanParamTestType ranParameterType
      pure { ranParamId := ranParameterId.toUInt32, test }

/-- With the checks of `dec_lst` and of `dec_strct`. -/
def decRanParamTestType : RanParameterTestingType → Except Fault RanParamTestType
  | .choiceList items => do
      check (1 ≤ items.length ∧ items.length ≤ 65535) .bound
      let tests ← decRanParamTests items
      pure (.lst tests)
  | .choiceStructure items => do
      check (1 ≤ items.length ∧ items.length ≤ 65535) .bound
      let tests ← decRanParamTests items
      pure (.strct tests)
  | .elementTrue value => RanParamTestType.flagTrue <$> decRanParamVal value
  | .elementFalse element => RanParamTestType.flagFalse <$> decKeyFlagFalse element

def decRanParamTests : List RanParameterTestingItem → Except Fault (List RanParamTest)
  | [] => pure []
  | item :: items => do
      let test ← decRanParamTest item
      let tests ← decRanParamTests items
      pure (test :: tests)

end

@[simp] theorem testCondComp_back (comp : RanParamTestCondComp) :
    decRanParamTestCondComp (encRanParamTestCondComp comp) = .ok comp := by
  cases comp <;> rfl

@[simp] theorem testCondPresence_back (presence : RanParamTestCondPresence) :
    decRanParamTestCondPresence (encRanParamTestCondPresence presence) = .ok presence := by
  cases presence <;> rfl

@[simp] theorem testCond_back (cond : RanParamTestCond) :
    decTestCond (encRanParamTestCond cond) = .ok cond := by
  cases cond with
  | comp comp => rw [encRanParamTestCond, decTestCond, testCondComp_back]; rfl
  | presence presence => rw [encRanParamTestCond, decTestCond, testCondPresence_back]; rfl

structure ElmKeyFalseKept (src : RanParamElmKeyFalse) : Prop where
  value : src.value = none
  logicalOr : src.logicalOr = none

theorem elmFalse_back_iff (src : RanParamElmKeyFalse) :
    (cpElmFalse src >>= decKeyFlagFalse) = .ok src ↔ ElmKeyFalseKept src := by
  obtain ⟨cond, value, logicalOr⟩ := src
  simp only [cpElmFalse, decKeyFlagFalse, bind_eq_ok, check_eq_ok, pure_eq_ok,
    RanParamElmKeyFalse.mk.injEq]
  constructor
  · rintro ⟨_, ⟨_, valueAbsent, _, orAbsent, rfl⟩, -⟩
    exact ⟨valueAbsent, orAbsent⟩
  · rintro ⟨valueAbsent, orAbsent⟩
    exact ⟨_, ⟨(), valueAbsent, (), orAbsent, rfl⟩, cond, testCond_back cond, (), rfl, (), rfl, rfl,
      valueAbsent.symm, orAbsent.symm⟩

/-- What of a test comes back. -/
inductive TestKept : RanParamTest → Prop
  | lst {id : UInt32} {tests : List RanParamTest} (pos : 0 < id) (count : CountFits tests)
      (each : ∀ test ∈ tests, TestKept test) : TestKept ⟨id, .lst tests⟩
  | strct {id : UInt32} {tests : List RanParamTest} (pos : 0 < id) (count : CountFits tests)
      (each : ∀ test ∈ tests, TestKept test) : TestKept ⟨id, .strct tests⟩
  | flagTrue {id : UInt32} (pos : 0 < id) (value : RanParameterValue) :
      TestKept ⟨id, .flagTrue value⟩
  | flagFalse {id : UInt32} (pos : 0 < id) {elm : RanParamElmKeyFalse}
      (kept : ElmKeyFalseKept elm) :
      TestKept ⟨id, .flagFalse elm⟩

/-- Induction on tests, with a hypothesis for each test of a list or a structure. -/
theorem RanParamTest.rec_tests {motive : RanParamTest → Prop}
    (lst : ∀ id tests, (∀ test ∈ tests, motive test) → motive ⟨id, .lst tests⟩)
    (strct : ∀ id tests, (∀ test ∈ tests, motive test) → motive ⟨id, .strct tests⟩)
    (flagTrue : ∀ id value, motive ⟨id, .flagTrue value⟩)
    (flagFalse : ∀ id elm, motive ⟨id, .flagFalse elm⟩) :
    ∀ test, motive test :=
  @RanParamTest.rec motive (fun type => ∀ id, motive ⟨id, type⟩)
    (fun tests => ∀ test ∈ tests, motive test)
    (fun id _ ih => ih id) (fun tests ih id => lst id tests ih)
    (fun tests ih id => strct id tests ih)
    (fun value id => flagTrue id value) (fun elm id => flagFalse id elm) nofun
    (fun _ _ first rest => List.forall_mem_cons.mpr ⟨first, rest⟩)

theorem encRanParamTests_eq (tests : List RanParamTest) :
    encRanParamTests tests = tests.mapM encRanParamTest := by
  induction tests with
  | nil => rfl
  | cons test tests ih =>
      rw [List.mapM_cons, ← ih]
      rfl

theorem decRanParamTests_eq (items : List RanParameterTestingItem) :
    decRanParamTests items = items.mapM decRanParamTest := by
  induction items with
  | nil => rfl
  | cons item items ih =>
      rw [List.mapM_cons, ← ih]
      rfl

/-- A test comes back just when its id is not zero and what it looks at comes back. -/
theorem testItem_back_iff (id : UInt32) (type : RanParamTestType) :
    (encRanParamTest ⟨id, type⟩ >>= decRanParamTest) = .ok ⟨id, type⟩ ↔
      0 < id ∧ (encRanParamTestType type >>= decRanParamTestType) = .ok type := by
  simp only [encRanParamTest, bind_eq_ok, check_eq_ok, pure_eq_ok]
  constructor
  · rintro ⟨_, ⟨_, pos, asn, taken, rfl⟩, back⟩
    simp only [decRanParamTest, bind_eq_ok, check_eq_ok, pure_eq_ok, RanParamTest.mk.injEq] at back
    obtain ⟨_, -, _, back, -, rfl⟩ := back
    exact ⟨pos, asn, taken, back⟩
  · rintro ⟨pos, asn, taken, back⟩
    refine ⟨_, ⟨(), pos, asn, taken, rfl⟩, ?_⟩
    have range : 0 < id.toUInt64 ∧ id.toUInt64 < 4294967296 :=
      ⟨(E2sm.toUInt64_pos id).mpr pos, E2sm.toUInt64_lt id⟩
    rw [decRanParamTest, check_pass _ range, ok_bind, back, ok_bind, UInt32.toUInt32_toUInt64]
    rfl

/-- The two loops over the tests of a list, or of a structure. -/
theorem tests_back_iff {tests : List RanParamTest}
    (kept : ∀ test ∈ tests, (encRanParamTest test >>= decRanParamTest) = .ok test ↔ TestKept test) :
    (∃ items, tests.mapM encRanParamTest = .ok items ∧
      mapMWithin 1 65535 .bound decRanParamTest items = .ok tests) ↔
      CountFits tests ∧ ∀ test ∈ tests, TestKept test :=
  counted_kept_iff_of_mem kept

theorem enc_lst (tests : List RanParamTest) :
    encRanParamTestType (.lst tests) =
      RanParameterTestingType.choiceList <$> tests.mapM encRanParamTest := by
  rw [encRanParamTestType, encRanParamTests_eq]
  cases tests.mapM encRanParamTest <;> rfl

theorem dec_choiceList (items : List RanParameterTestingItem) :
    decRanParamTestType (.choiceList items) =
      RanParamTestType.lst <$> mapMWithin 1 65535 .bound decRanParamTest items := by
  rw [decRanParamTestType, decRanParamTests_eq, mapMWithin, map_bind]
  cases items.mapM decRanParamTest <;> rfl

theorem enc_strct (tests : List RanParamTest) :
    encRanParamTestType (.strct tests) =
      RanParameterTestingType.choiceStructure <$> tests.mapM encRanParamTest := by
  rw [encRanParamTestType, encRanParamTests_eq]
  cases tests.mapM encRanParamTest <;> rfl

theorem dec_choiceStructure (items : List RanParameterTestingItem) :
    decRanParamTestType (.choiceStructure items) =
      RanParamTestType.strct <$> mapMWithin 1 65535 .bound decRanParamTest items := by
  rw [decRanParamTestType, decRanParamTests_eq, mapMWithin, map_bind]
  cases items.mapM decRanParamTest <;> rfl

theorem test_back_iff (test : RanParamTest) :
    (encRanParamTest test >>= decRanParamTest) = .ok test ↔ TestKept test := by
  induction test using RanParamTest.rec_tests with
  | lst id tests ih =>
      rw [testItem_back_iff, enc_lst, map_back_iff (·.mapM encRanParamTest)
        (mapMWithin 1 65535 .bound decRanParamTest) _ _ _ dec_choiceList
        fun _ _ same => RanParamTestType.lst.inj same, bind_eq_ok, tests_back_iff ih]
      constructor
      · rintro ⟨pos, count, each⟩
        exact .lst pos count each
      · rintro (⟨pos, count, each⟩)
        exact ⟨pos, count, each⟩
  | strct id tests ih =>
      rw [testItem_back_iff, enc_strct, map_back_iff (·.mapM encRanParamTest)
        (mapMWithin 1 65535 .bound decRanParamTest) _ _ _ dec_choiceStructure
        fun _ _ same => RanParamTestType.strct.inj same, bind_eq_ok, tests_back_iff ih]
      constructor
      · rintro ⟨pos, count, each⟩
        exact .strct pos count each
      · rintro (_ | ⟨pos, count, each⟩)
        exact ⟨pos, count, each⟩
  | flagTrue id value =>
      rw [testItem_back_iff]
      have back : (encRanParamTestType (.flagTrue value) >>= decRanParamTestType) =
          .ok (.flagTrue value) := by
        rw [encRanParamTestType, pure_bind, decRanParamTestType, ranParamVal_back]
        rfl
      constructor
      · rintro ⟨pos, -⟩
        exact .flagTrue pos value
      · rintro (_ | _ | ⟨pos, _⟩)
        exact ⟨pos, back⟩
  | flagFalse id elm =>
      rw [testItem_back_iff, encRanParamTestType, map_back_iff cpElmFalse decKeyFlagFalse
        RanParameterTestingType.elementFalse decRanParamTestType RanParamTestType.flagFalse
        (fun _ => rfl) fun _ _ same => RanParamTestType.flagFalse.inj same, elmFalse_back_iff]
      constructor
      · rintro ⟨pos, kept⟩
        exact .flagFalse pos kept
      · rintro (_ | _ | _ | ⟨pos, kept⟩)
        exact ⟨pos, kept⟩

end FlexRic.Rc
