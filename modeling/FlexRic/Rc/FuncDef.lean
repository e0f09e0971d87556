import FlexRic.Kpm.FunctionDef
import FlexRic.Rc.ActionDef
import FlexRic.Rc.Control

/-! # The definition of the RC RAN function

A node tells the styles of its event triggers, reports, inserts, controls and policies, each
with the parameters that it has. A list that may be empty is left out when it is.
-/

namespace FlexRic.Rc

open Asn (Fault)
open E2sm (Unread longOf16 low16 longOf32 low32)
open Kpm (RanFunctionName RanFunctionNameAsn)
open Wire (Bytes)

/-- `seq_ran_param_3_t`. -/
structure SeqRanParam3 where
  id : UInt32
  name : Bytes
  defn : Option RanParamDef

/-- `seq_ev_trg_style_t`. -/
structure SeqEvTrgStyle where
  style : UInt32
  name : Bytes
  format : UInt32

/-- `call_proc_break_t`. -/
structure CallProcBreak where
  id : UInt16
  name : Bytes
  param : List SeqRanParam3

/-- `seq_call_proc_type_t`. -/
structure SeqCallProcType where
  id : UInt16
  name : Bytes
  callProcBreak : List CallProcBreak

/-- `ran_func_def_ev_trig_t`. -/
structure RanFuncDefEvTrig where
  seqEvTrgStyle : List SeqEvTrgStyle
  seqRanParamL2Var : List SeqRanParam3
  seqCallProcType : List SeqCallProcType
  seqRanParamIdUe : List SeqRanParam3
  seqRanParamIdCell : List SeqRanParam3

/-- `seq_report_sty_t`. -/
structure SeqReportSty where
  reportType : UInt32
  name : Bytes
  evTrigType : UInt32
  actFrmtType : UInt32
  indHdrType : UInt32
  indMsgType : UInt32
  ranParam : List SeqRanParam3

/-- `seq_ins_ind_t`. -/
structure SeqInsInd where
  id : UInt16
  name : Bytes
  seqInsInd : List SeqRanParam3

/-- `seq_ins_sty_t`. -/
structure SeqInsSty where
  styleType : UInt32
  name : Bytes
  evTrigStyleType : UInt32
  actDefFrmtType : UInt32
  seqInsInd : List SeqInsInd
  indHdrFrmtType : UInt32
  indMsgFrmtType : UInt32
  callProcIdType : UInt32

/-- `seq_ctrl_act_2_t`. -/
structure SeqCtrlAct2 where
  id : UInt16
  name : Bytes
  assocRanParam : List SeqRanParam3

/-- `seq_ctrl_style_t`. -/
structure SeqCtrlStyle where
  styleType : UInt32
  name : Bytes
  seqCtrlAct : List SeqCtrlAct2
  hdr : UInt32
  msg : UInt32
  callProcIdType : Option Unread
  outFrmt : UInt32
  ranParamCtrlOut : List SeqRanParam3

/-- `seq_pol_action_t`. -/
structure SeqPolAction where
  actionId : UInt32
  name : Bytes
  frmtType : UInt32
  seqAssocRpAction : List SeqRanParam3
  seqAssocRpPolicy : List SeqRanParam3

/-- `seq_policy_sty_t`. -/
structure SeqPolicySty where
  styleType : UInt32
  name : Bytes
  evTrgStyleType : UInt32
  seqPolAction : List SeqPolAction

/-- `e2sm_rc_func_def_t`. All but the event triggers are lists of styles. -/
structure FuncDef where
  name : RanFunctionName
  evTrig : Option RanFuncDefEvTrig
  report : Option (List SeqReportSty)
  insert : Option (List SeqInsSty)
  ctrl : Option (List SeqCtrlStyle)
  policy : Option (List SeqPolicySty)

/-- The items of the lists of parameters, which have a type for each list. -/
structure NamedParamItem where
  ranParameterId : UInt64
  ranParameterName : Bytes
  ranParameterDefinition : Option RanParameterDefinition

/-- `RANFunctionDefinition_EventTrigger_Style_Item_t`. -/
structure EventTriggerStyleItem where
  ricEventTriggerStyleType : Int64
  ricEventTriggerStyleName : Bytes
  ricEventTriggerFormatType : Int64

/-- `RANFunctionDefinition_EventTrigger_Breakpoint_Item_t`. -/
structure BreakpointItem where
  callProcessBreakpointId : Int64
  callProcessBreakpointName : Bytes
  ranCallProcessBreakpointParametersList : Option (List NamedParamItem)

/-- `RANFunctionDefinition_EventTrigger_CallProcess_Item_t`. -/
structure CallProcessItem where
  callProcessTypeId : Int64
  callProcessTypeName : Bytes
  callProcessBreakpointsList : List BreakpointItem

/-- `RANFunctionDefinition_EventTrigger_t`. -/
structure DefinitionEventTrigger where
  ricEventTriggerStyleList : List EventTriggerStyleItem
  ranL2ParametersList : Option (List NamedParamItem)
  ranCallProcessTypesList : Option (List CallProcessItem)
  ranUeIdentificationParametersList : Option (List NamedParamItem)
  ranCellIdentificationParametersList : Option (List NamedParamItem)

/-- `RANFunctionDefinition_Report_Item_t`. -/
structure DefinitionReportItem where
  ricReportStyleType : Int64
  ricReportStyleName : Bytes
  ricSupportedEventTriggerStyleType : Int64
  ricReportActionFormatType : Int64
  ricIndicationHeaderFormatType : Int64
  ricIndicationMessageFormatType : Int64
  ranReportParametersList : Option (List NamedParamItem)

/-- `RANFunctionDefinition_Insert_Indication_Item_t`. -/
structure DefinitionInsertIndicationItem where
  ricInsertIndicationId : Int64
  ricInsertIndicationName : Bytes
  ranInsertIndicationParametersList : Option (List NamedParamItem)

/-- `RANFunctionDefinition_Insert_Item_t`. -/
structure DefinitionInsertItem where
  ricInsertStyleType : Int64
  ricInsertStyleName : Bytes
  ricSupportedEventTriggerStyleType : Int64
  ricActionDefinitionFormatType : Int64
  ricInsertIndicationList : Option (List DefinitionInsertIndicationItem)
  ricIndicationHeaderFormatType : Int64
  ricIndicationMessageFormatType : Int64
  ricCallProcessIdFormatType : Int64

/-- `RANFunctionDefinition_Control_Action_Item_t`. -/
structure DefinitionControlActionItem where
  ricControlActionId : Int64
  ricControlActionName : Bytes
  ranControlActionParametersList : Option (List NamedParamItem)

/-- `RANFunctionDefinition_Control_Item_t`. -/
structure DefinitionControlItem where
  ricControlStyleType : Int64
  ricControlStyleName : Bytes
  ricControlActionList : Option (List DefinitionControlActionItem)
  ricControlHeaderFormatType : Int64
  ricControlMessageFormatType : Int64
  ricCallProcessIdFormatType : Option Unread
  ricControlOutcomeFormatType : Int64
  ranControlOutcomeParametersList : Option (List NamedParamItem)

/-- `RANFunctionDefinition_Policy_Action_Item_t`. -/
structure DefinitionPolicyActionItem where
  ricPolicyActionId : Int64
  ricPolicyActionName : Bytes
  ricActionDefinitionFormatType : Int64
  ranPolicyActionParametersList : Option (List NamedParamItem)
  ranPolicyConditionParametersList : Option (List NamedParamItem)

/-- `RANFunctionDefinition_Policy_Item_t`. -/
structure DefinitionPolicyItem where
  ricPolicyStyleType : Int64
  ricPolicyStyleName : Bytes
  ricSupportedEventTriggerStyleType : Int64
  ricPolicyActionList : Option (List DefinitionPolicyActionItem)

/-- `E2SM_RC_RANFunctionDefinition_t`. -/
structure RanFunctionDefinitionAsn where
  ranFunctionName : RanFunctionNameAsn
  ranFunctionDefinitionEventTrigger : Option DefinitionEventTrigger
  ranFunctionDefinitionReport : Option (List DefinitionReportItem)
  ranFunctionDefinitionInsert : Option (List DefinitionInsertItem)
  ranFunctionDefinitionControl : Option (List DefinitionControlItem)
  ranFunctionDefinitionPolicy : Option (List DefinitionPolicyItem)

/-- The lengths of the names are not checked. -/
def encRanFuncName (src : RanFunctionName) : Except Fault RanFunctionNameAsn := do
  check (src.instanceId = none) .notImplemented
  pure {
    ranFunctionShortName := src.name
    ranFunctionE2smOid := src.oid
    ranFunctionDescription := src.description
    ranFunctionInstance := none }

/-- The check that both sides make of a name, below the bound. -/
def checkName (bound : Nat) (name : Bytes) : Except Fault Unit :=
  check (0 < name.length ∧ name.length < bound) .bound

def encRanFuncDefEvTrgStyIt (src : SeqEvTrgStyle) : Except Fault EventTriggerStyleItem := do
  checkName 151 src.name
  pure {
    ricEventTriggerStyleType := longOf32 src.style
    ricEventTriggerStyleName := src.name
    ricEventTriggerFormatType := longOf32 src.format }

/-- The body of the functions that encode a parameter with its name. -/
def encNamedParam (src : SeqRanParam3) : Except Fault NamedParamItem := do
  check (0 < src.id) .bound
  checkName 151 src.name
  let ranParameterDefinition ← src.defn.mapM encRanParamDef
  pure {
    ranParameterId := src.id.toUInt64
    ranParameterName := src.name
    ranParameterDefinition }

def encSeqRanParamL2Var (src : SeqRanParam3) : Except Fault NamedParamItem := encNamedParam src

def encSeqRanParam32 (src : SeqRanParam3) : Except Fault NamedParamItem := encNamedParam src

def encCallProcBreak (src : CallProcBreak) : Except Fault BreakpointItem := do
  check (0 < src.id) .bound
  checkName 151 src.name
  let ranCallProcessBreakpointParametersList ← orNull (·.mapM encSeqRanParam32) src.param
  pure {
    callProcessBreakpointId := longOf16 src.id
    callProcessBreakpointName := src.name
    ranCallProcessBreakpointParametersList }

/-- Here the longest name is refused. -/
def encSeqCallProcType (src : SeqCallProcType) : Except Fault CallProcessItem := do
  check (0 < src.id) .bound
  checkName 150 src.name
  let callProcessBreakpointsList ← mapMWithin 1 65535 .bound encCallProcBreak src.callProcBreak
  pure {
    callProcessTypeId := longOf16 src.id
    callProcessTypeName := src.name
    callProcessBreakpointsList }

def encSeqRanParamIdUe (src : SeqRanParam3) : Except Fault NamedParamItem := encNamedParam src

def encSeqRanParamIdCell (src : SeqRanParam3) : Except Fault NamedParamItem := encNamedParam src

def encRanFuncDefEvTrg (src : RanFuncDefEvTrig) : Except Fault DefinitionEventTrigger := do
  let ricEventTriggerStyleList ← mapMWithin 1 63 .bound encRanFuncDefEvTrgStyIt src.seqEvTrgStyle
  let ranL2ParametersList ← orNull (·.mapM encSeqRanParamL2Var) src.seqRanParamL2Var
  let ranCallProcessTypesList ← orNull (·.mapM encSeqCallProcType) src.seqCallProcType
  let ranUeIdentificationParametersList ← orNull (·.mapM encSeqRanParamIdUe) src.seqRanParamIdUe
  let ranCellIdentificationParametersList ←
    orNull (·.mapM encSeqRanParamIdCell) src.seqRanParamIdCell
  pure {
    ricEventTriggerStyleList
    ranL2ParametersList
    ranCallProcessTypesList
    ranUeIdentificationParametersList
    ranCellIdentificationParametersList }

def encSeqReportRanParamIt (src : SeqRanParam3) : Except Fault NamedParamItem := encNamedParam src

def encSeqReportSty (src : SeqReportSty) : Except Fault DefinitionReportItem := do
  checkName 151 src.name
  let ranReportParametersList ←
    orNull (mapMWithin 0 65535 .bound encSeqReportRanParamIt) src.ranParam
  pure {
    ricReportStyleType := longOf32 src.reportType
    ricReportStyleName := src.name
    ricSupportedEventTriggerStyleType := longOf32 src.evTrigType
    ricReportActionFormatType := longOf32 src.actFrmtType
    ricIndicationHeaderFormatType := longOf32 src.indHdrType
    ricIndicationMessageFormatType := longOf32 src.indMsgType
    ranReportParametersList }

def encRanFuncDefReport (src : List SeqReportSty) : Except Fault (List DefinitionReportItem) :=
  mapMWithin 1 63 .bound encSeqReportSty src

/-- The name of a parameter of an insert is not checked. -/
def encSeqInsInd3 (src : SeqRanParam3) : Except Fault NamedParamItem := do
  check (0 < src.id) .bound
  let ranParameterDefinition ← src.defn.mapM encRanParamDef
  pure {
    ranParameterId := src.id.toUInt64
    ranParameterName := src.name
    ranParameterDefinition }

def encSeqInsInd (src : SeqInsInd) : Except Fault DefinitionInsertIndicationItem := do
  check (0 < src.id) .bound
  checkName 151 src.name
  let ranInsertIndicationParametersList ←
    orNull (mapMWithin 0 65535 .bound encSeqInsInd3) src.seqInsInd
  pure {
    ricInsertIndicationId := longOf16 src.id
    ricInsertIndicationName := src.name
    ranInsertIndicationParametersList }

/-- There may be any number of indications. -/
def encSeqInsSty (src : SeqInsSty) : Except Fault DefinitionInsertItem := do
  checkName 151 src.name
  let ricInsertIndicationList ← orNull (·.mapM encSeqInsInd) src.seqInsInd
  pure {
    ricInsertStyleType := longOf32 src.styleType
    ricInsertStyleName := src.name
    ricSupportedEventTriggerStyleType := longOf32 src.evTrigStyleType
    ricActionDefinitionFormatType := longOf32 src.actDefFrmtType
    ricInsertIndicationList
    ricIndicationHeaderFormatType := longOf32 src.indHdrFrmtType
    ricIndicationMessageFormatType := longOf32 src.indMsgFrmtType
    ricCallProcessIdFormatType := longOf32 src.callProcIdType }

def encRanFuncDefInsert (src : List SeqInsSty) : Except Fault (List DefinitionInsertItem) :=
  mapMWithin 1 63 .bound encSeqInsSty src

def encCtrlActRanParamIt (src : SeqRanParam3) : Except Fault NamedParamItem := encNamedParam src

def encRanFuncDefCtrlActIt (src : SeqCtrlAct2) : Except Fault DefinitionControlActionItem := do
  check (0 < src.id) .bound
  checkName 151 src.name
  let ranControlActionParametersList ←
    orNull (mapMWithin 0 65535 .bound encCtrlActRanParamIt) src.assocRanParam
  pure {
    ricControlActionId := longOf16 src.id
    ricControlActionName := src.name
    ranControlActionParametersList }

def encRanFuncDefCtrlParamIt (src : SeqRanParam3) : Except Fault NamedParamItem := encNamedParam src

/-- There may be more parameters of an outcome than the decoder takes. -/
def encRanFuncDefCtrlIt (src : SeqCtrlStyle) : Except Fault DefinitionControlItem := do
  checkName 151 src.name
  let ricControlActionList ←
    orNull (mapMWithin 0 65535 .bound encRanFuncDefCtrlActIt) src.seqCtrlAct
  check (src.callProcIdType = none) .notImplemented
  let ranControlOutcomeParametersList ←
    orNull (mapMWithin 0 65535 .bound encRanFuncDefCtrlParamIt) src.ranParamCtrlOut
  pure {
    ricControlStyleType := longOf32 src.styleType
    ricControlStyleName := src.name
    ricControlActionList
    ricControlHeaderFormatType := longOf32 src.hdr
    ricControlMessageFormatType := longOf32 src.msg
    ricCallProcessIdFormatType := none
    ricControlOutcomeFormatType := longOf32 src.outFrmt
    ranControlOutcomeParametersList }

def encRanFuncDefCtrl (src : List SeqCtrlStyle) : Except Fault (List DefinitionControlItem) :=
  mapMWithin 1 63 .bound encRanFuncDefCtrlIt src

def encRanFuncDefPolActIt (src : SeqRanParam3) : Except Fault NamedParamItem := encNamedParam src

def encRanFuncDefPolCndIt (src : SeqRanParam3) : Except Fault NamedParamItem := encNamedParam src

/-- The id of an action is not checked. -/
def encRanFuncDefPolAct (src : SeqPolAction) : Except Fault DefinitionPolicyActionItem := do
  checkName 151 src.name
  let ranPolicyActionParametersList ←
    orNull (mapMWithin 0 65535 .bound encRanFuncDefPolActIt) src.seqAssocRpAction
  let ranPolicyConditionParametersList ←
    orNull (mapMWithin 0 65535 .bound encRanFuncDefPolCndIt) src.seqAssocRpPolicy
  pure {
    ricPolicyActionId := longOf32 src.actionId
    ricPolicyActionName := src.name
    ricActionDefinitionFormatType := longOf32 src.frmtType
    ranPolicyActionParametersList
    ranPolicyConditionParametersList }

def encRanFuncDefPolIt (src : SeqPolicySty) : Except Fault DefinitionPolicyItem := do
  checkName 151 src.name
  let ricPolicyActionList ←
    orNull (mapMWithin 0 65535 .bound encRanFuncDefPolAct) src.seqPolAction
  pure {
    ricPolicyStyleType := longOf32 src.styleType
    ricPolicyStyleName := src.name
    ricSupportedEventTriggerStyleType := longOf32 src.evTrgStyleType
    ricPolicyActionList }

def encRanFuncDefPolicy (src : List SeqPolicySty) : Except Fault (List DefinitionPolicyItem) :=
  mapMWithin 1 63 .bound encRanFuncDefPolIt src

/-- The unit of `rc_enc_func_def_asn`. -/
def funcDefUnit (src : FuncDef) : Except Fault RanFunctionDefinitionAsn := do
  let ranFunctionName ← encRanFuncName src.name
  let ranFunctionDefinitionEventTrigger ← src.evTrig.mapM encRanFuncDefEvTrg
  let ranFunctionDefinitionReport ← src.report.mapM encRanFuncDefReport
  let ranFunctionDefinitionInsert ← src.insert.mapM encRanFuncDefInsert
  let ranFunctionDefinitionControl ← src.ctrl.mapM encRanFuncDefCtrl
  let ranFunctionDefinitionPolicy ← src.policy.mapM encRanFuncDefPolicy
  pure {
    ranFunctionName
    ranFunctionDefinitionEventTrigger
    ranFunctionDefinitionReport
    ranFunctionDefinitionInsert
    ranFunctionDefinitionControl
    ranFunctionDefinitionPolicy }

/-- An instance is left out. -/
def decRanFuncName (src : RanFunctionNameAsn) : RanFunctionName where
  name := src.ranFunctionShortName
  oid := src.ranFunctionE2smOid
  description := src.ranFunctionDescription
  instanceId := none

def decSeqEvTrgStyle (src : EventTriggerStyleItem) : Except Fault SeqEvTrgStyle := do
  checkName 151 src.ricEventTriggerStyleName
  pure {
    style := low32 src.ricEventTriggerStyleType
    name := src.ricEventTriggerStyleName
    format := low32 src.ricEventTriggerFormatType }

/-- The body of the functions that decode a parameter with its name. -/
def decNamedParam (src : NamedParamItem) : Except Fault SeqRanParam3 := do
  check (0 < src.ranParameterId) .bound
  checkName 151 src.ranParameterName
  let defn ← src.ranParameterDefinition.mapM decRanParamDef
  pure { id := src.ranParameterId.toUInt32, name := src.ranParameterName, defn }

/-- That of the functions that check the greatest id besides. -/
def decBoundedParam (src : NamedParamItem) : Except Fault SeqRanParam3 := do
  check (src.ranParameterId < 4294967296) .bound
  decNamedParam src

def decSeqRanParamL2Var (src : NamedParamItem) : Except Fault SeqRanParam3 := decBoundedParam src

def decSeqRanParam3 (src : NamedParamItem) : Except Fault SeqRanParam3 := decBoundedParam src

def decCallProcBreak (src : BreakpointItem) : Except Fault CallProcBreak := do
  check (0 < src.callProcessBreakpointId ∧ src.callProcessBreakpointId < 65536) .bound
  checkName 151 src.callProcessBreakpointName
  let param ← fromNull (·.mapM decSeqRanParam3) src.ranCallProcessBreakpointParametersList
  pure { id := low16 src.callProcessBreakpointId, name := src.callProcessBreakpointName, param }

def decSeqCallProcType (src : CallProcessItem) : Except Fault SeqCallProcType := do
  check (0 < src.callProcessTypeId ∧ src.callProcessTypeId < 65536) .bound
  checkName 151 src.callProcessTypeName
  let callProcBreak ← mapMWithin 1 65535 .bound decCallProcBreak src.callProcessBreakpointsList
  pure { id := low16 src.callProcessTypeId, name := src.callProcessTypeName, callProcBreak }

def decSeqRanParamIdUe (src : NamedParamItem) : Except Fault SeqRanParam3 := decBoundedParam src

def decSeqRanParamIdCell (src : NamedParamItem) : Except Fault SeqRanParam3 := decBoundedParam src

def decRanFunDefEvTrg (src : DefinitionEventTrigger) : Except Fault RanFuncDefEvTrig := do
  let seqEvTrgStyle ← mapMWithin 1 63 .bound decSeqEvTrgStyle src.ricEventTriggerStyleList
  let seqRanParamL2Var ← fromNull (·.mapM decSeqRanParamL2Var) src.ranL2ParametersList
  let seqCallProcType ← fromNull (·.mapM decSeqCallProcType) src.ranCallProcessTypesList
  let seqRanParamIdUe ←
    fromNull (·.mapM decSeqRanParamIdUe) src.ranUeIdentificationParametersList
  let seqRanParamIdCell ←
    fromNull (·.mapM decSeqRanParamIdCell) src.ranCellIdentificationParametersList
  pure { seqEvTrgStyle, seqRanParamL2Var, seqCallProcType, seqRanParamIdUe, seqRanParamIdCell }

def decSeqRanParamReport (src : NamedParamItem) : Except Fault SeqRanParam3 := decNamedParam src

def decSeqReportSty (src : DefinitionReportItem) : Except Fault SeqReportSty := do
  checkName 151 src.ricReportStyleName
  let ranParam ←
    fromNull (mapMWithin 0 65535 .bound decSeqRanParamReport) src.ranReportParametersList
  pure {
    reportType := low32 src.ricReportStyleType
    name := src.ricReportStyleName
    evTrigType := low32 src.ricSupportedEventTriggerStyleType
    actFrmtType := low32 src.ricReportActionFormatType
    indHdrType := low32 src.ricIndicationHeaderFormatType
    indMsgType := low32 src.ricIndicationMessageFormatType
    ranParam }

def decRanFuncDefReport (src : List DefinitionReportItem) : Except Fault (List SeqReportSty) :=
  mapMWithin 1 63 .bound decSeqReportSty src

def decSeqInsInd3 (src : NamedParamItem) : Except Fault SeqRanParam3 := decNamedParam src

/-- Neither the id is bounded from above nor the number of parameters. -/
def decSeqInsInd (src : DefinitionInsertIndicationItem) : Except Fault SeqInsInd := do
  check (0 < src.ricInsertIndicationId) .bound
  checkName 151 src.ricInsertIndicationName
  let seqInsInd ← fromNull (·.mapM decSeqInsInd3) src.ranInsertIndicationParametersList
  pure { id := low16 src.ricInsertIndicationId, name := src.ricInsertIndicationName, seqInsInd }

def decSeqInsSty (src : DefinitionInsertItem) : Except Fault SeqInsSty := do
  checkName 151 src.ricInsertStyleName
  let seqInsInd ← fromNull (mapMWithin 0 65535 .bound decSeqInsInd) src.ricInsertIndicationList
  pure {
    styleType := low32 src.ricInsertStyleType
    name := src.ricInsertStyleName
    evTrigStyleType := low32 src.ricSupportedEventTriggerStyleType
    actDefFrmtType := low32 src.ricActionDefinitionFormatType
    seqInsInd
    indHdrFrmtType := low32 src.ricIndicationHeaderFormatType
    indMsgFrmtType := low32 src.ricIndicationMessageFormatType
    callProcIdType := low32 src.ricCallProcessIdFormatType }

def decRanFuncDefInsert (src : List DefinitionInsertItem) : Except Fault (List SeqInsSty) :=
  mapMWithin 1 63 .bound decSeqInsSty src

def decAssocRanParam (src : NamedParamItem) : Except Fault SeqRanParam3 := decNamedParam src

def decRanFuncCtrlAct (src : DefinitionControlActionItem) : Except Fault SeqCtrlAct2 := do
  check (0 < src.ricControlActionId ∧ src.ricControlActionId < 65536) .bound
  checkName 151 src.ricControlActionName
  let assocRanParam ←
    fromNull (mapMWithin 0 65535 .bound decAssocRanParam) src.ranControlActionParametersList
  pure { id := low16 src.ricControlActionId, name := src.ricControlActionName, assocRanParam }

def decRanParamCtrlOut (src : NamedParamItem) : Except Fault SeqRanParam3 := decNamedParam src

def decRanFuncCtrlIt (src : DefinitionControlItem) : Except Fault SeqCtrlStyle := do
  checkName 151 src.ricControlStyleName
  let seqCtrlAct ← fromNull (mapMWithin 0 65535 .bound decRanFuncCtrlAct) src.ricControlActionList
  check (src.ricCallProcessIdFormatType = none) .notImplemented
  let ranParamCtrlOut ←
    fromNull (mapMWithin 0 255 .bound decRanParamCtrlOut) src.ranControlOutcomeParametersList
  pure {
    styleType := low32 src.ricControlStyleType
    name := src.ricControlStyleName
    seqCtrlAct
    hdr := low32 src.ricControlHeaderFormatType
    msg := low32 src.ricControlMessageFormatType
    callProcIdType := none
    outFrmt := low32 src.ricControlOutcomeFormatType
    ranParamCtrlOut }

def decRanFuncDefCtrl (src : List DefinitionControlItem) : Except Fault (List SeqCtrlStyle) :=
  mapMWithin 1 63 .bound decRanFuncCtrlIt src

def decPolActRanParamIt (src : NamedParamItem) : Except Fault SeqRanParam3 := decNamedParam src

def decPolCndRanParamIt (src : NamedParamItem) : Except Fault SeqRanParam3 := decNamedParam src

def decSeqPolActionIt (src : DefinitionPolicyActionItem) : Except Fault SeqPolAction := do
  checkName 151 src.ricPolicyActionName
  let seqAssocRpAction ←
    fromNull (mapMWithin 0 65535 .bound decPolActRanParamIt) src.ranPolicyActionParametersList
  let seqAssocRpPolicy ←
    fromNull (mapMWithin 0 65535 .bound decPolCndRanParamIt) src.ranPolicyConditionParametersList
  pure {
    actionId := low32 src.ricPolicyActionId
    name := src.ricPolicyActionName
    frmtType := low32 src.ricActionDefinitionFormatType
    seqAssocRpAction
    seqAssocRpPolicy }

def decRanFuncDefPolicyIt (src : DefinitionPolicyItem) : Except Fault SeqPolicySty := do
  checkName 151 src.ricPolicyStyleName
  let seqPolAction ←
    fromNull (mapMWithin 0 65535 .bound decSeqPolActionIt) src.ricPolicyActionList
  pure {
    styleType := low32 src.ricPolicyStyleType
    name := src.ricPolicyStyleName
    evTrgStyleType := low32 src.ricSupportedEventTriggerStyleType
    seqPolAction }

def decRanFuncDefPolicy (src : List DefinitionPolicyItem) : Except Fault (List SeqPolicySty) :=
  mapMWithin 1 63 .bound decRanFuncDefPolicyIt src

/-- The definition that `rc_dec_func_def_asn` takes a unit for. -/
def funcDefOf (src : RanFunctionDefinitionAsn) : Except Fault FuncDef := do
  let evTrig ← src.ranFunctionDefinitionEventTrigger.mapM decRanFunDefEvTrg
  let report ← src.ranFunctionDefinitionReport.mapM decRanFuncDefReport
  let insert ← src.ranFunctionDefinitionInsert.mapM decRanFuncDefInsert
  let ctrl ← src.ranFunctionDefinitionControl.mapM decRanFuncDefCtrl
  let policy ← src.ranFunctionDefinitionPolicy.mapM decRanFuncDefPolicy
  pure { name := decRanFuncName src.ranFunctionName, evTrig, report, insert, ctrl, policy }

/-- Room for the bytes of a definition. -/
def funcDefRoom : Nat := 16 * 1024

def rcEncFuncDefAsn (p : Packing RanFunctionDefinitionAsn) : FuncDef → Except Fault Bytes :=
  encodeWith funcDefUnit p funcDefRoom .aper

def rcDecFuncDefAsn (p : Packing RanFunctionDefinitionAsn) : Bytes → Except Fault FuncDef :=
  decodeWith funcDefOf p .aper

end FlexRic.Rc
