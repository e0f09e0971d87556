import FlexRic.E2sm.OctetString
import FlexRic.E2sm.Fields

/-! # Definitions of RAN parameters

A definition lists the parameters of a structure or of the items of a list. Each of them
may have a definition of its own, which neither side implements.
-/

namespace FlexRic.Rc

open Asn (Fault)
open E2sm (LengthFits octetStringFromBuf octetStringFromBuf_back_iff)
open Wire (Bytes)

mutual

/-- `ran_param_def_t`. -/
inductive RanParamDef where
  | lst (ranParam : List RanParamLstStruct)
  | strct (ranParam : List RanParamLstStruct)

/-- `ran_param_lst_struct_t`. -/
structure RanParamLstStruct where
  ranParamId : UInt32
  ranParamName : Bytes
  ranParamDef : Option RanParamDef

end

mutual

/-- `RANParameter_Definition_t`. -/
structure RanParameterDefinition where
  ranParameterDefinitionChoice : Option RanParameterDefinitionChoice

/-- `RANParameter_Definition_Choice_t`. -/
inductive RanParameterDefinitionChoice where
  | choiceList (ranParameterList : List RanParameterDefinitionItem)
  | choiceStructure (ranParameterStructure : List RanParameterDefinitionItem)

/-- The items of both choices. -/
structure RanParameterDefinitionItem where
  ranParameterId : UInt64
  ranParameterName : Bytes
  ranParameterDefinition : Option RanParameterDefinition

end

/-- A turn of the loop of `enc_ran_param_def_lst`, and of `enc_ran_param_def_strct`. -/
def encRanParamDefItem (src : RanParamLstStruct) : Except Fault RanParameterDefinitionItem := do
  let ranParameterName ← octetStringFromBuf src.ranParamName
  check src.ranParamDef.isNone .notImplemented
  pure {
    ranParameterId := src.ranParamId.toUInt64
    ranParameterName
    ranParameterDefinition := none }

def encRanParamDef : RanParamDef → Except Fault RanParameterDefinition
  | .lst ranParam => do
      let items ← ranParam.mapM encRanParamDefItem
      pure ⟨some (.choiceList items)⟩
  | .strct ranParam => do
      let items ← ranParam.mapM encRanParamDefItem
      pure ⟨some (.choiceStructure items)⟩

/-- A turn of the loop of `dec_ran_param_def_lst`, and of `dec_ran_param_def_strct`. -/
def decRanParamDefItem (src : RanParameterDefinitionItem) : Except Fault RanParamLstStruct := do
  check src.ranParameterDefinition.isNone .notImplemented
  pure {
    ranParamId := src.ranParameterId.toUInt32
    ranParamName := src.ranParameterName
    ranParamDef := none }

def decRanParamDef (src : RanParameterDefinition) : Except Fault RanParamDef :=
  match src.ranParameterDefinitionChoice with
  | none => throw .null
  | some (.choiceList items) => RanParamDef.lst <$> items.mapM decRanParamDefItem
  | some (.choiceStructure items) => RanParamDef.strct <$> items.mapM decRanParamDefItem

structure RanParamDefItemKept (src : RanParamLstStruct) : Prop where
  ranParamName : LengthFits src.ranParamName
  ranParamDef : src.ranParamDef = none

theorem ranParamDefItem_back_iff (src : RanParamLstStruct) :
    (encRanParamDefItem src >>= decRanParamDefItem) = .ok src ↔ RanParamDefItemKept src := by
  obtain ⟨id, name, nested⟩ := src
  simp only [encRanParamDefItem, decRanParamDefItem, bind_eq_ok, check_eq_ok, pure_eq_ok,
    RanParamLstStruct.mk.injEq]
  constructor
  · rintro ⟨_, ⟨_, taken, _, -, rfl⟩, _, -, -, rfl, rfl⟩
    exact ⟨(octetStringFromBuf_back_iff _).mp taken, rfl⟩
  · rintro ⟨fits, flat⟩
    obtain rfl := flat
    exact ⟨_, ⟨name, (octetStringFromBuf_back_iff _).mpr fits, (), rfl, rfl⟩, (), rfl,
      UInt32.toUInt32_toUInt64 id, rfl, rfl⟩

/-- What of a definition comes back. -/
def RanParamDefKept : RanParamDef → Prop
  | .lst ranParam => ∀ param ∈ ranParam, RanParamDefItemKept param
  | .strct ranParam => ∀ param ∈ ranParam, RanParamDefItemKept param

theorem ranParamDef_back_iff (src : RanParamDef) :
    (encRanParamDef src >>= decRanParamDef) = .ok src ↔ RanParamDefKept src := by
  cases src with
  | lst ranParam =>
      rw [RanParamDefKept, ← list_kept_iff ranParamDefItem_back_iff, ← bind_eq_ok]
      exact map_back_iff _ _ (fun items => (⟨some (.choiceList items)⟩ : RanParameterDefinition))
        decRanParamDef RanParamDef.lst (fun _ => rfl) fun _ _ same => RanParamDef.lst.inj same
  | strct ranParam =>
      rw [RanParamDefKept, ← list_kept_iff ranParamDefItem_back_iff, ← bind_eq_ok]
      exact map_back_iff _ _
        (fun items => (⟨some (.choiceStructure items)⟩ : RanParameterDefinition))
        decRanParamDef RanParamDef.strct (fun _ => rfl) fun _ _ same => RanParamDef.strct.inj same

end FlexRic.Rc
