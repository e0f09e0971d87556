import FlexRic.Rc.EventTrigger
import FlexRic.Rc.Messages

/-! # The codec of action definitions

What a subscription to RC asks for, in four formats. The two sides do not agree everywhere
on how many items a list may have.
-/

namespace FlexRic.Rc

open Asn (Fault)
open E2sm (Unread longOf16 low16 longOf32 low32)

/-- A parameter that may have a definition: an item of the first and of the third format, and
    `E2SM_RC_ActionDefinition_Format4_RANP_Item_t`. -/
structure DefinedParamItem where
  ranParameterId : UInt64
  ranParameterDefinition : Option RanParameterDefinition

/-- `RIC_PolicyAction_t`. -/
structure RicPolicyAction where
  ricPolicyActionId : Int64
  ranParametersList : Option (List RanParameterItem)
  ricPolicyDecision : Option Unread

/-- `E2SM_RC_ActionDefinition_Format2_Item_t`. -/
structure ActionDefinitionFormat2Item where
  ricPolicyAction : RicPolicyAction
  ricPolicyConditionDefinition : Option Unread

/-- `E2SM_RC_ActionDefinition_Format3_t`. -/
structure ActionDefinitionFormat3 where
  ricInsertIndicationId : Int64
  ranPInsertIndicationList : List DefinedParamItem
  ueId : Option Unread

/-- `E2SM_RC_ActionDefinition_Format4_Indication_Item_t`. -/
structure ActionDefinitionFormat4IndicationItem where
  ricInsertIndicationId : Int64
  ranPInsertIndicationList : List DefinedParamItem

/-- `E2SM_RC_ActionDefinition_Format4_Style_Item_t`. -/
structure ActionDefinitionFormat4StyleItem where
  requestedInsertStyleType : Int64
  ricInsertIndicationList : List ActionDefinitionFormat4IndicationItem

/-- `E2SM_RC_ActionDefinition_Format4_t`. -/
structure ActionDefinitionFormat4 where
  ricInsertStyleList : List ActionDefinitionFormat4StyleItem
  ueId : Option Unread

/-- `E2SM_RC_ActionDefinition__ric_actionDefinition_formats`. -/
inductive ActionDefinitionFormats where
  | format1 (ranPToBeReportedList : List DefinedParamItem)
  | format2 (ricPolicyConditionsList : List ActionDefinitionFormat2Item)
  | format3 (actionDefinitionFormat3 : ActionDefinitionFormat3)
  | format4 (actionDefinitionFormat4 : ActionDefinitionFormat4)

/-- `E2SM_RC_ActionDefinition_t`. -/
structure ActionDefinitionAsn where
  ricStyleType : Int64
  ricActionDefinitionFormats : ActionDefinitionFormats

/-- The body of the functions that encode a parameter with its definition. -/
def encDefinedParam (id : UInt32) (ranParamDef : Option RanParamDef) :
    Except Fault DefinedParamItem := do
  check (0 < id) .bound
  let ranParameterDefinition ← ranParamDef.mapM encRanParamDef
  pure { ranParameterId := id.toUInt64, ranParameterDefinition }

def cpRcActDefFrmt1It (src : ParamReportDef) : Except Fault DefinedParamItem :=
  encDefinedParam src.ranParamId src.ranParamDef

def cpActDefFrmt1 (src : List ParamReportDef) : Except Fault (List DefinedParamItem) :=
  mapMWithin 1 65535 .bound cpRcActDefFrmt1It src

/-- `cp_ric_policy_action_ran_param` does what `enc_ran_param_struct` does. -/
def cpRicPolicyActionRanParam (src : SeqRanParam) : Except Fault RanParameterItem :=
  encRanParamStruct src

def cpRicPolicyAction (src : PolicyAction) : Except Fault RicPolicyAction := do
  check (0 < src.policyActId) .bound
  let ranParametersList ← orNull (·.mapM cpRicPolicyActionRanParam) src.seqRanParam
  check (src.polDec = none) .notImplemented
  pure {
    ricPolicyActionId := longOf16 src.policyActId
    ranParametersList
    ricPolicyDecision := none }

def cpRcActDefFrmt2It (src : PolicyCond) : Except Fault ActionDefinitionFormat2Item := do
  let ricPolicyAction ← cpRicPolicyAction src.polAct
  check src.pol.isNone .notImplemented
  pure { ricPolicyAction, ricPolicyConditionDefinition := none }

def cpActDefFrmt2 (src : List PolicyCond) : Except Fault (List ActionDefinitionFormat2Item) :=
  mapMSome .bound cpRcActDefFrmt2It src

def cpRcActDefFrmt3It (src : RanParamIns) : Except Fault DefinedParamItem :=
  encDefinedParam src.ranId src.ranDef

def cpActDefFrmt3 (src : ActDefFrmt3) : Except Fault ActionDefinitionFormat3 := do
  check (0 < src.id) .bound
  let ranPInsertIndicationList ← mapMSome .bound cpRcActDefFrmt3It src.ranParam
  check src.ueId.isNone .notImplemented
  pure {
    ricInsertIndicationId := longOf16 src.id
    ranPInsertIndicationList
    ueId := none }

def encRanParamInsInd (src : RanParamInsInd) : Except Fault DefinedParamItem :=
  encDefinedParam src.ranParamId src.ranParamDef

def encSeqInsIndActDef (src : SeqInsIndActDef) :
    Except Fault ActionDefinitionFormat4IndicationItem := do
  check (0 < src.indId) .bound
  let ranPInsertIndicationList ← mapMWithin 1 65535 .bound encRanParamInsInd src.ranParamInsInd
  pure { ricInsertIndicationId := longOf16 src.indId, ranPInsertIndicationList }

def cpSeqInsStyles (src : SeqInsStyle) : Except Fault ActionDefinitionFormat4StyleItem := do
  let ricInsertIndicationList ← mapMWithin 1 63 .bound encSeqInsIndActDef src.seqInsIndActDef
  pure { requestedInsertStyleType := longOf32 src.reqInsertStyle, ricInsertIndicationList }

def cpActDefFrmt4 (src : ActDefFrmt4) : Except Fault ActionDefinitionFormat4 := do
  let ricInsertStyleList ← mapMWithin 1 4 .bound cpSeqInsStyles src.seqInsStyle
  check src.ueId.isNone .notImplemented
  pure { ricInsertStyleList, ueId := none }

/-- The choice that `rc_enc_action_def_asn` makes of a format. -/
def encActDefFormat : ActDefFormat → Except Fault ActionDefinitionFormats
  | .frmt1 frmt => ActionDefinitionFormats.format1 <$> cpActDefFrmt1 frmt
  | .frmt2 frmt => ActionDefinitionFormats.format2 <$> cpActDefFrmt2 frmt
  | .frmt3 frmt => ActionDefinitionFormats.format3 <$> cpActDefFrmt3 frmt
  | .frmt4 frmt => ActionDefinitionFormats.format4 <$> cpActDefFrmt4 frmt

/-- The unit of `rc_enc_action_def_asn`. -/
def actionDefUnit (src : ActionDef) : Except Fault ActionDefinitionAsn := do
  let ricActionDefinitionFormats ← encActDefFormat src.format
  pure { ricStyleType := longOf32 src.ricStyleType, ricActionDefinitionFormats }

/-- The body of the functions that decode a parameter with its definition. -/
def decDefinedParam (src : DefinedParamItem) : Except Fault (UInt32 × Option RanParamDef) := do
  check (0 < src.ranParameterId) .bound
  let ranParamDef ← src.ranParameterDefinition.mapM decRanParamDef
  pure (src.ranParameterId.toUInt32, ranParamDef)

def decParamReportDef (src : DefinedParamItem) : Except Fault ParamReportDef :=
  (fun param => ⟨param.1, param.2⟩) <$> decDefinedParam src

def decActDefFrmt1 (src : List DefinedParamItem) : Except Fault (List ParamReportDef) :=
  mapMWithin 1 65535 .bound decParamReportDef src

def decSeqRanParam (src : RanParameterItem) : Except Fault SeqRanParam :=
  decRanParamBelow 4294967296 src

/-- The loop of `dec_policy_action`, which refuses the longest list. -/
def decPolicyActionParams (src : List RanParameterItem) : Except Fault (List SeqRanParam) :=
  mapMWithin 1 65534 .bound decSeqRanParam src

def decPolicyAction (src : RicPolicyAction) : Except Fault PolicyAction := do
  check (0 < src.ricPolicyActionId ∧ src.ricPolicyActionId < 65536) .bound
  let seqRanParam ← fromNull decPolicyActionParams src.ranParametersList
  check (src.ricPolicyDecision = none) .notImplemented
  pure { policyActId := low16 src.ricPolicyActionId, seqRanParam, polDec := none }

def decPolicyCond (src : ActionDefinitionFormat2Item) : Except Fault PolicyCond := do
  let polAct ← decPolicyAction src.ricPolicyAction
  check (src.ricPolicyConditionDefinition = none) .notImplemented
  pure { polAct, pol := none }

def decActDefFrmt2 (src : List ActionDefinitionFormat2Item) : Except Fault (List PolicyCond) :=
  mapMWithin 1 65535 .bound decPolicyCond src

def decRanParamIns (src : DefinedParamItem) : Except Fault RanParamIns :=
  (fun param => ⟨param.1, param.2⟩) <$> decDefinedParam src

def decActDefFrmt3 (src : ActionDefinitionFormat3) : Except Fault ActDefFrmt3 := do
  check (0 < src.ricInsertIndicationId ∧ src.ricInsertIndicationId < 65536) .bound
  let ranParam ← mapMWithin 1 65535 .bound decRanParamIns src.ranPInsertIndicationList
  check (src.ueId = none) .notImplemented
  pure { id := low16 src.ricInsertIndicationId, ranParam, ueId := none }

def decRanParamInsInd (src : DefinedParamItem) : Except Fault RanParamInsInd :=
  (fun param => ⟨param.1, param.2⟩) <$> decDefinedParam src

/-- Here the id is not bounded from above. -/
def decSeqInsIndActDef (src : ActionDefinitionFormat4IndicationItem) :
    Except Fault SeqInsIndActDef := do
  check (0 < src.ricInsertIndicationId) .bound
  let ranParamInsInd ← mapMWithin 1 65535 .bound decRanParamInsInd src.ranPInsertIndicationList
  pure { indId := low16 src.ricInsertIndicationId, ranParamInsInd }

def decSeqInsStyles (src : ActionDefinitionFormat4StyleItem) : Except Fault SeqInsStyle := do
  let seqInsIndActDef ← mapMWithin 1 63 .bound decSeqInsIndActDef src.ricInsertIndicationList
  pure { reqInsertStyle := low32 src.requestedInsertStyleType, seqInsIndActDef }

def decActDefFrmt4 (src : ActionDefinitionFormat4) : Except Fault ActDefFrmt4 := do
  let seqInsStyle ← mapMWithin 1 4 .bound decSeqInsStyles src.ricInsertStyleList
  check (src.ueId = none) .notImplemented
  pure { seqInsStyle, ueId := none }

/-- The format that `rc_dec_action_def_asn` takes a choice for. -/
def decActDefFormat : ActionDefinitionFormats → Except Fault ActDefFormat
  | .format1 frmt => ActDefFormat.frmt1 <$> decActDefFrmt1 frmt
  | .format2 frmt => ActDefFormat.frmt2 <$> decActDefFrmt2 frmt
  | .format3 frmt => ActDefFormat.frmt3 <$> decActDefFrmt3 frmt
  | .format4 frmt => ActDefFormat.frmt4 <$> decActDefFrmt4 frmt

def actionDefOf (src : ActionDefinitionAsn) : Except Fault ActionDef := do
  let format ← decActDefFormat src.ricActionDefinitionFormats
  pure { ricStyleType := low32 src.ricStyleType, format }

def rcEncActionDefAsn (p : Packing ActionDefinitionAsn) : ActionDef → Except Fault Wire.Bytes :=
  encodeWith actionDefUnit p subscriptionRoom .aper

def rcDecActionDefAsn (p : Packing ActionDefinitionAsn) : Wire.Bytes → Except Fault ActionDef :=
  decodeWith actionDefOf p .aper

end FlexRic.Rc
