import FlexRic.Library.Comparison
import FlexRic.Rc.Definitions
import FlexRic.Rc.ParamTests

/-! # Equality of RAN parameters

Values, tests and definitions are compared from the root to the leaves. Below the root an
assertion stands before the answer no. What is compared is at two places, so that nothing
is settled by a pointer that both have.
-/

namespace FlexRic.Rc

open E2sm (Unread)

/-- What ends a comparison. -/
inductive EqFailure where
  /-- `!isnan(m0->real_ran)` -/
  | notANumber
  /-- A number or a length is out of range. -/
  | bound
  /-- `0!=0` and `"Debug"` before a `return false` -/
  | differ
  | notImplemented
  /-- The member of a union that was not written. -/
  | otherMember
  /-- A list is read past its end. -/
  | outside
  | ueId (failure : Asn.Fault)
  deriving DecidableEq, Repr

def eqRanParameterValue : RanParameterValue → RanParameterValue → Except EqFailure Bool
  | .boolRan value0, .boolRan value1 => pure (value0 = value1)
  | .intRan value0, .intRan value1 => pure (value0 = value1)
  | .realRan value0, .realRan value1 => do
      check ((Float.ofBits value0).isNaN = false) .notANumber
      check ((Float.ofBits value1).isNaN = false) .notANumber
      pure (Float.ofBits value0 == Float.ofBits value1)
  | .bitStrRan ba0, .bitStrRan ba1 => pure (ba0 = ba1)
  | .octetStrRan ba0, .octetStrRan ba1 => pure (ba0 = ba1)
  | .printableStrRan ba0, .printableStrRan ba1 => pure (ba0 = ba1)
  | _, _ => pure false

/-- `eq_ran_param_struct`, around the loop over the parameters. -/
def eqRanParamStruct (params0 params1 : List SeqRanParam) (loop : Except EqFailure Bool) :
    Except EqFailure Bool :=
  both (pure (params0.length = params1.length)) <| do
    check (0 < params0.length ∧ params0.length < 65536) .bound
    check (0 < params1.length ∧ params1.length < 65536) .bound
    loop

mutual

def eqRanParamValType : RanParamValType → RanParamValType → Except EqFailure Bool
  | .flagTrue value0, .flagTrue value1 => eqRanParameterValue value0 value1
  | .flagFalse value0, .flagFalse value1 => eqRanParameterValue value0 value1
  | .strct params0, .strct params1 =>
      eqRanParamStruct params0 params1 (eqSeqRanParams params0 params1)
  | .lst structs0, .lst structs1 =>
      both (pure (structs0.length = structs1.length)) (eqLstRanParams structs0 structs1)
  | _, _ => pure false
termination_by structural x => x

def eqSeqRanParam : SeqRanParam → SeqRanParam → Except EqFailure Bool
  | ⟨id0, val0⟩, ⟨id1, val1⟩ =>
      both (pure (id0 = id1)) (insist .differ (eqRanParamValType val0 val1))
termination_by structural x => x

/-- The loop over the parameters of a structure. -/
def eqSeqRanParams : List SeqRanParam → List SeqRanParam → Except EqFailure Bool
  | param0 :: params0, param1 :: params1 =>
      both (eqSeqRanParam param0 param1) (eqSeqRanParams params0 params1)
  | _, _ => pure true
termination_by structural x => x

/-- The loop of `eq_ran_param_list`. -/
def eqLstRanParams : List (List SeqRanParam) → List (List SeqRanParam) → Except EqFailure Bool
  | params0 :: structs0, params1 :: structs1 =>
      both (insist .differ (eqRanParamStruct params0 params1 (eqSeqRanParams params0 params1)))
        (eqLstRanParams structs0 structs1)
  | _, _ => pure true
termination_by structural x => x

end

def eqRanParamElmKeyFalse (m0 m1 : RanParamElmKeyFalse) : Except EqFailure Bool :=
  both (pure (m0.testCond = m1.testCond)) <| do
    check (m0.value = none ∧ m1.value = none) .notImplemented
    check (m0.logicalOr = none ∧ m1.logicalOr = none) .notImplemented
    pure true

mutual

def eqRanParamTest : RanParamTest → RanParamTest → Except EqFailure Bool
  | ⟨id0, test0⟩, ⟨id1, test1⟩ => both (pure (id0 = id1)) (eqRanParamTestType test0 test1)
termination_by structural x => x

def eqRanParamTestType : RanParamTestType → RanParamTestType → Except EqFailure Bool
  | .lst tests0, .lst tests1 =>
      insist .differ (both (pure (tests0.length = tests1.length)) (eqRanParamTests tests0 tests1))
  | .strct tests0, .strct tests1 =>
      insist .differ (both (pure (tests0.length = tests1.length)) (eqRanParamTests tests0 tests1))
  | .flagTrue value0, .flagTrue value1 => insist .differ (eqRanParameterValue value0 value1)
  | .flagFalse elm0, .flagFalse elm1 => insist .differ (eqRanParamElmKeyFalse elm0 elm1)
  | _, _ => pure false
termination_by structural x => x

/-- The loops of `eq_ran_param_test_lst` and `eq_ran_param_test_strct`. -/
def eqRanParamTests : List RanParamTest → List RanParamTest → Except EqFailure Bool
  | test0 :: tests0, test1 :: tests1 =>
      both (eqRanParamTest test0 test1) (eqRanParamTests tests0 tests1)
  | _, _ => pure true
termination_by structural x => x

end

def eqRanParamCondCritDef (m0 m1 : List RanParamTest) : Except EqFailure Bool :=
  eqCounted eqRanParamTest m0 m1

def eqRanParamLstStruct (m0 m1 : RanParamLstStruct) : Except EqFailure Bool :=
  both (pure (m0.ranParamId = m1.ranParamId)) <|
  both (pure (m0.ranParamName = m1.ranParamName)) <| do
    check (m0.ranParamDef.isNone ∧ m1.ranParamDef.isNone) .notImplemented
    pure true

/-- With `eq_ran_param_type`. -/
def eqRanParamDef : RanParamDef → RanParamDef → Except EqFailure Bool
  | .lst params0, .lst params1 => eqCounted eqRanParamLstStruct params0 params1
  | .strct params0, .strct params1 => eqCounted eqRanParamLstStruct params0 params1
  | _, _ => pure false

end FlexRic.Rc
