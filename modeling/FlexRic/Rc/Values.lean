import FlexRic.E2sm.Fields

/-! # Values of RAN parameters

A parameter is an element, a structure of parameters or a list of structures, nested to
any depth. What the generated codec packs has the same shape.
-/

namespace FlexRic.Rc

open Asn (BitString Fault)
open Wire (Bytes)

/-- `ran_parameter_value_t`. A `double` is its eight bytes. -/
inductive RanParameterValue where
  | boolRan (value : Bool)
  | intRan (value : Int64)
  | realRan (value : UInt64)
  | bitStrRan (ba : Bytes)
  | octetStrRan (ba : Bytes)
  | printableStrRan (ba : Bytes)
  deriving DecidableEq

/-- `RANParameter_Value_t`. -/
inductive RanParameterValueAsn where
  | valueBoolean (value : UInt32)
  | valueInt (value : Int64)
  | valueReal (value : UInt64)
  | valueBitS (value : BitString)
  | valueOctS (value : Bytes)
  | valuePrintableString (value : Bytes)
  deriving DecidableEq

/-- All bits of the last byte count. -/
def copyBaToBitString (ba : Bytes) : BitString where
  buf := ba
  bitsUnused := 0

def copyBitStringToBa (bs : BitString) : Except Fault Bytes := do
  check (bs.bitsUnused = 0) .bound
  pure bs.buf

def cpRanParamVal : RanParameterValue → RanParameterValueAsn
  | .boolRan value => .valueBoolean (if value then 1 else 0)
  | .intRan value => .valueInt value
  | .realRan value => .valueReal value
  | .bitStrRan ba => .valueBitS (copyBaToBitString ba)
  | .octetStrRan ba => .valueOctS ba
  | .printableStrRan ba => .valuePrintableString ba

/-- `dec_ran_param_val`, and `dec_ran_parameter_value`, which does the same. -/
def decRanParamVal : RanParameterValueAsn → Except Fault RanParameterValue
  | .valueBoolean value => pure (.boolRan (value ≠ 0))
  | .valueInt value => pure (.intRan value)
  | .valueReal value => pure (.realRan value)
  | .valueBitS value => RanParameterValue.bitStrRan <$> copyBitStringToBa value
  | .valueOctS value => pure (.octetStrRan value)
  | .valuePrintableString value => pure (.printableStrRan value)

@[simp] theorem ranParamVal_back (value : RanParameterValue) :
    decRanParamVal (cpRanParamVal value) = .ok value := by
  cases value with
  | boolRan value => cases value <;> rfl
  | intRan value => rfl
  | realRan value => rfl
  | bitStrRan ba => rfl
  | octetStrRan ba => rfl
  | printableStrRan ba => rfl

mutual

/-- `ran_param_val_type_t`. A structure is the list of its parameters. -/
inductive RanParamValType where
  | flagTrue (value : RanParameterValue)
  | flagFalse (value : RanParameterValue)
  | strct (params : List SeqRanParam)
  | lst (structs : List (List SeqRanParam))

/-- `seq_ran_param_t`. -/
structure SeqRanParam where
  ranParamId : UInt32
  ranParamVal : RanParamValType

end

mutual

/-- `RANParameter_ValueType_t`. -/
inductive RanParameterValueType where
  | elementTrue (ranParameterValue : RanParameterValueAsn)
  | elementFalse (ranParameterValue : Option RanParameterValueAsn)
  | struct (ranParameterStructure : RanParameterStructure)
  | list (listOfRanParameter : List RanParameterStructure)

/-- `RANParameter_STRUCTURE_Item_t`, and the items of the messages that have its fields. -/
structure RanParameterItem where
  ranParameterId : UInt64
  ranParameterValueType : RanParameterValueType

/-- `RANParameter_STRUCTURE_t`. -/
structure RanParameterStructure where
  sequenceOfRanParameters : Option (List RanParameterItem)

end

mutual

def cpRanParamValueType : RanParamValType → Except Fault RanParameterValueType
  | .flagTrue value => pure (.elementTrue (cpRanParamVal value))
  | .flagFalse value => pure (.elementFalse (some (cpRanParamVal value)))
  | .strct params => do
      let items ← encRanParamStructs params
      pure (.struct ⟨some items⟩)
  | .lst structs => do
      let items ← encLstRanParams structs
      pure (.list items)

def encRanParamStruct : SeqRanParam → Except Fault RanParameterItem
  | ⟨ranParamId, ranParamVal⟩ => do
      check (0 < ranParamId) .bound
      let ranParameterValueType ← cpRanParamValueType ranParamVal
      pure { ranParameterId := ranParamId.toUInt64, ranParameterValueType }

/-- The loop over the parameters of a structure. -/
def encRanParamStructs : List SeqRanParam → Except Fault (List RanParameterItem)
  | [] => pure []
  | param :: params => do
      let item ← encRanParamStruct param
      let items ← encRanParamStructs params
      pure (item :: items)

/-- The loop of `enc_lst_ran_param` over the structures of a list. -/
def encLstRanParams : List (List SeqRanParam) → Except Fault (List RanParameterStructure)
  | [] => pure []
  | params :: structs => do
      let items ← encRanParamStructs params
      let others ← encLstRanParams structs
      pure (⟨some items⟩ :: others)

end

mutual

def decRanParamValueType : RanParameterValueType → Except Fault RanParamValType
  | .elementTrue value => RanParamValType.flagTrue <$> decRanParamVal value
  | .elementFalse none => throw .null
  | .elementFalse (some value) => RanParamValType.flagFalse <$> decRanParamVal value
  | .struct items => do
      let params ← decRanParameterStrct items
      pure (.strct params)
  | .list items => do
      let structs ← decLstRanParams items
      pure (.lst structs)

/-- `dec_seq_ran_param_strc_it`, and `dec_ran_param_struct`, which does the same. -/
def decSeqRanParamStrcIt : RanParameterItem → Except Fault SeqRanParam
  | ⟨ranParameterId, ranParameterValueType⟩ => do
      check (0 < ranParameterId) .bound
      let ranParamVal ← decRanParamValueType ranParameterValueType
      pure { ranParamId := ranParameterId.toUInt32, ranParamVal }

/-- `dec_ran_parameter_strct`, and `dec_lst_ran_param`, which does the same. -/
def decRanParameterStrct : RanParameterStructure → Except Fault (List SeqRanParam)
  | ⟨none⟩ => throw .null
  | ⟨some items⟩ => do
      check (1 ≤ items.length ∧ items.length ≤ 65535) .bound
      decSeqRanParamStrcs items

/-- The loop over the parameters of a structure. -/
def decSeqRanParamStrcs : List RanParameterItem → Except Fault (List SeqRanParam)
  | [] => pure []
  | item :: items => do
      let param ← decSeqRanParamStrcIt item
      let params ← decSeqRanParamStrcs items
      pure (param :: params)

/-- The loop over the structures of a list, which may have none. -/
def decLstRanParams : List RanParameterStructure → Except Fault (List (List SeqRanParam))
  | [] => pure []
  | item :: items => do
      let params ← decRanParameterStrct item
      let structs ← decLstRanParams items
      pure (params :: structs)

end

/-- Some decoders also check that the id has four bytes. -/
def decRanParamBelow (bound : UInt64) (src : RanParameterItem) : Except Fault SeqRanParam := do
  check (src.ranParameterId < bound) .bound
  decSeqRanParamStrcIt src

end FlexRic.Rc
