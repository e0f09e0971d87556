import FlexRic.Library.Allocation
import FlexRic.Rc.ValueEquality

/-! # Copies of RAN parameter values

A value is spread over blocks of memory that point to each other. Its copy takes new ones,
and is compared with the original at each level.
-/

namespace FlexRic.Rc

open Wire (Bytes)

/-- What ends a copy. -/
inductive CpFailure where
  /-- `src->ran_param_id > 0` -/
  | id
  /-- The number of parameters of a structure is asserted. -/
  | size
  /-- The copy is not the same as the original. -/
  | differ
  | eq (failure : EqFailure)
  deriving DecidableEq, Repr

/-- `ran_parameter_value_t` with the buffer that it points to. -/
inductive PlacedValue where
  | boolRan (value : Bool)
  | intRan (value : Int64)
  | realRan (value : UInt64)
  | bitStrRan (buf : Addr) (ba : Bytes)
  | octetStrRan (buf : Addr) (ba : Bytes)
  | printableStrRan (buf : Addr) (ba : Bytes)
  deriving DecidableEq

mutual

/-- `ran_param_val_type_t` with the blocks that it points to. A list has an array of its
    structures, and each structure has one of its parameters. -/
inductive PlacedValType where
  | flagTrue (block : Addr) (value : PlacedValue)
  | flagFalse (block : Addr) (value : PlacedValue)
  | strct (block : Addr) (params : PlacedStruct)
  | lst (block : Addr) (array : Option Addr) (structs : List PlacedStruct)

/-- `ran_param_struct_t`. -/
structure PlacedStruct where
  array : Addr
  params : List PlacedParam

/-- `seq_ran_param_t`. -/
structure PlacedParam where
  ranParamId : UInt32
  ranParamVal : PlacedValType

end

/-- The value that is in the blocks. -/
def PlacedValue.value : PlacedValue → RanParameterValue
  | .boolRan value => .boolRan value
  | .intRan value => .intRan value
  | .realRan value => .realRan value
  | .bitStrRan _ ba => .bitStrRan ba
  | .octetStrRan _ ba => .octetStrRan ba
  | .printableStrRan _ ba => .printableStrRan ba

def PlacedValue.blocks : PlacedValue → List Addr
  | .bitStrRan buf _ | .octetStrRan buf _ | .printableStrRan buf _ => [buf]
  | _ => []

mutual

def PlacedValType.value : PlacedValType → RanParamValType
  | .flagTrue _ value => .flagTrue value.value
  | .flagFalse _ value => .flagFalse value.value
  | .strct _ params => .strct params.value
  | .lst _ _ structs => .lst (structValues structs)

def PlacedStruct.value : PlacedStruct → List SeqRanParam
  | ⟨_, params⟩ => paramValues params

def PlacedParam.value : PlacedParam → SeqRanParam
  | ⟨ranParamId, ranParamVal⟩ => ⟨ranParamId, ranParamVal.value⟩

def paramValues : List PlacedParam → List SeqRanParam
  | [] => []
  | param :: params => param.value :: paramValues params

def structValues : List PlacedStruct → List (List SeqRanParam)
  | [] => []
  | strct :: structs => strct.value :: structValues structs

end

mutual

/-- All blocks of a value. -/
def PlacedValType.blocks : PlacedValType → List Addr
  | .flagTrue block value => block :: value.blocks
  | .flagFalse block value => block :: value.blocks
  | .strct block params => block :: params.blocks
  | .lst block array structs => block :: (array.toList ++ structBlocks structs)

def PlacedStruct.blocks : PlacedStruct → List Addr
  | ⟨array, params⟩ => array :: paramBlocks params

def PlacedParam.blocks : PlacedParam → List Addr
  | ⟨_, ranParamVal⟩ => ranParamVal.blocks

def paramBlocks : List PlacedParam → List Addr
  | [] => []
  | param :: params => param.blocks ++ paramBlocks params

def structBlocks : List PlacedStruct → List Addr
  | [] => []
  | strct :: structs => strct.blocks ++ structBlocks structs

end

/-- The assertion after a copy. No block of the copy is one of the original's, so that the
    two are compared by what is in them. -/
def assertSame (r : Except EqFailure Bool) : Except CpFailure Unit := do
  let same ← r.mapError CpFailure.eq
  check (same = true) .differ

def assertSize (size : Nat) : Except CpFailure Unit :=
  check (0 < size ∧ size < 65536) .size

def assertId (ranParamId : UInt32) : Except CpFailure Unit :=
  check (0 < ranParamId) .id

section
variable (heap : Allocator)

def cpRanParameterValue : PlacedValue → Allocates CpFailure PlacedValue
  | .boolRan value => pure (.boolRan value)
  | .intRan value => pure (.intRan value)
  | .realRan value => pure (.realRan value)
  | .bitStrRan _ ba => do
      let buf ← heap.calloc
      pure (.bitStrRan buf ba)
  | .octetStrRan _ ba => do
      let buf ← heap.calloc
      pure (.octetStrRan buf ba)
  | .printableStrRan _ ba => do
      let buf ← heap.calloc
      pure (.printableStrRan buf ba)

/-- The array of a list is left out when it is empty. -/
def callocArray {α : Type} (items : List α) : Allocates CpFailure (Option Addr) :=
  if items = [] then pure none else some <$> heap.calloc

mutual

def cpRanParamValType : PlacedValType → Allocates CpFailure PlacedValType
  | .flagTrue srcBlock srcValue => do
      let block ← heap.calloc
      let value ← cpRanParameterValue heap srcValue
      let dst := PlacedValType.flagTrue block value
      assertSame (eqRanParamValType dst.value (PlacedValType.flagTrue srcBlock srcValue).value)
      pure dst
  | .flagFalse srcBlock srcValue => do
      let block ← heap.calloc
      let value ← cpRanParameterValue heap srcValue
      let dst := PlacedValType.flagFalse block value
      assertSame (eqRanParamValType dst.value (PlacedValType.flagFalse srcBlock srcValue).value)
      pure dst
  | .strct srcBlock srcParams => do
      let block ← heap.calloc
      let params ← cpRanParamStruct srcParams
      let dst := PlacedValType.strct block params
      assertSame (eqRanParamValType dst.value (PlacedValType.strct srcBlock srcParams).value)
      pure dst
  | .lst srcBlock srcArray srcStructs => do
      let block ← heap.calloc
      let array ← callocArray heap srcStructs
      let structs ← cpLstRanParams srcStructs
      let dst := PlacedValType.lst block array structs
      assertSame
        (eqRanParamValType dst.value (PlacedValType.lst srcBlock srcArray srcStructs).value)
      pure dst
termination_by structural src => src

def cpRanParamStruct : PlacedStruct → Allocates CpFailure PlacedStruct
  | ⟨_, srcParams⟩ => do
      assertSize srcParams.length
      let array ← heap.calloc
      let params ← cpSeqRanParams srcParams
      pure { array, params }
termination_by structural src => src

def cpSeqRanParam : PlacedParam → Allocates CpFailure PlacedParam
  | ⟨ranParamId, srcVal⟩ => do
      assertId ranParamId
      let ranParamVal ← cpRanParamValType srcVal
      pure { ranParamId, ranParamVal }
termination_by structural src => src

/-- The loop over the parameters of a structure. -/
def cpSeqRanParams : List PlacedParam → Allocates CpFailure (List PlacedParam)
  | [] => pure []
  | srcParam :: srcParams => do
      let param ← cpSeqRanParam srcParam
      let params ← cpSeqRanParams srcParams
      pure (param :: params)
termination_by structural src => src

/-- The loop of `cp_ran_param_list`, over `cp_lst_ran_param`. -/
def cpLstRanParams : List PlacedStruct → Allocates CpFailure (List PlacedStruct)
  | [] => pure []
  | srcStrct :: srcStructs => do
      let strct ← cpRanParamStruct srcStrct
      assertSame (eqRanParamStruct strct.value srcStrct.value
        (eqSeqRanParams strct.value srcStrct.value))
      let structs ← cpLstRanParams srcStructs
      pure (strct :: structs)
termination_by structural src => src

end

end

end FlexRic.Rc
