import FlexRic.Library.Packing
import FlexRic.Rc.ParamTests

/-! # Event triggers of the RC service model

Five formats. Parts that are not implemented are refused where they are present, but for
those of the third format, which its encoder does not look at.
-/

namespace FlexRic.Rc

open Asn (Fault)
open E2sm (Unread fromNumber longOf16 low16)

/-- `network_interface_type_e`. -/
inductive NetworkInterfaceType where
  | ng | xn | f1 | e1 | s1 | x2 | w1
  deriving DecidableEq

/-- `InterfaceType_t`. -/
def NetworkInterfaceType.number : NetworkInterfaceType → Int64
  | .ng => 0 | .xn => 1 | .f1 => 2 | .e1 => 3 | .s1 => 4 | .x2 => 5 | .w1 => 6

def NetworkInterfaceType.ofNumber : Int64 → Except Fault NetworkInterfaceType :=
  fromNumber number [.ng, .xn, .f1, .e1, .s1, .x2, .w1]

/-- `lte_rrc_class_e`. -/
inductive LteRrcClass where
  | bcchBch | bcchBchMbms | bcchDlSch | bcchDlSchBr | bcchDlSchMbms | mcch
  | pcch | dlCcch | dlDcch | ulCcch | ulDcch | scMcch
  deriving DecidableEq

/-- `cp_rrc_msg_type_lte`, to `RRCclass_LTE_t`. -/
def cpRrcMsgTypeLte : LteRrcClass → Int64
  | .bcchBch => 0 | .bcchBchMbms => 1 | .bcchDlSch => 2 | .bcchDlSchBr => 3 | .bcchDlSchMbms => 4
  | .mcch => 5 | .pcch => 6 | .dlCcch => 7 | .dlDcch => 8 | .ulCcch => 9 | .ulDcch => 10
  | .scMcch => 11

def decRrcMsgTypeLte : Int64 → Except Fault LteRrcClass :=
  fromNumber cpRrcMsgTypeLte [.bcchBch, .bcchBchMbms, .bcchDlSch, .bcchDlSchBr, .bcchDlSchMbms,
    .mcch, .pcch, .dlCcch, .dlDcch, .ulCcch, .ulDcch, .scMcch]

/-- `nr_rrc_class_e`. -/
inductive NrRrcClass where
  | bcchBch | bcchDlSch | dlCcch | dlDcch | pcch | ulCcch | ulCcch1 | ulDcch
  deriving DecidableEq

/-- `cp_rrc_msg_type_nr`, to `RRCclass_NR_t`. -/
def cpRrcMsgTypeNr : NrRrcClass → Int64
  | .bcchBch => 0 | .bcchDlSch => 1 | .dlCcch => 2 | .dlDcch => 3 | .pcch => 4 | .ulCcch => 5
  | .ulCcch1 => 6 | .ulDcch => 7

def decRrcMsgTypeNr : Int64 → Except Fault NrRrcClass :=
  fromNumber cpRrcMsgTypeNr
    [.bcchBch, .bcchDlSch, .dlCcch, .dlDcch, .pcch, .ulCcch, .ulCcch1, .ulDcch]

/-- `rrc_state_e2sm_rc_e`. -/
inductive RrcStateE2smRc where
  | rrcConnected | rrcInactive | rrcIdle | any
  deriving DecidableEq

/-- `RRC_State_t`. -/
def RrcStateE2smRc.number : RrcStateE2smRc → Int64
  | .rrcConnected => 0 | .rrcInactive => 1 | .rrcIdle => 2 | .any => 3

def RrcStateE2smRc.ofNumber : Int64 → Except Fault RrcStateE2smRc :=
  fromNumber number [.rrcConnected, .rrcInactive, .rrcIdle, .any]

/-- `logical_or_e`. -/
inductive LogicalOr where
  | trueLogicalOr
  | falseLogicalOr
  deriving DecidableEq

/-- `ev_trigger_cell_info_t`. -/
structure EvTriggerCellInfo where
  dummy : UInt32
  deriving DecidableEq

/-- `network_interface_e2rc_t`. -/
structure NetworkInterfaceE2rc where
  niType : NetworkInterfaceType
  niId : Option Unread
  niMsgId : Option Unread
  deriving DecidableEq

/-- The message class of a radio access technology. -/
inductive RrcMessageClass where
  | lte (lte : LteRrcClass)
  | nr (nr : NrRrcClass)
  deriving DecidableEq

/-- `rrc_msg_id_t`. -/
structure RrcMsgId where
  type : RrcMessageClass
  rrcMsgId : UInt64
  deriving DecidableEq

/-- The message type of a `msg_ev_trg_t`. -/
inductive MsgTypeEvTrg where
  | net (net : NetworkInterfaceE2rc)
  | rrcMsg (rrcMsg : RrcMsgId)
  deriving DecidableEq

/-- `msg_ev_trg_t`. -/
structure MsgEvTrg where
  evTriggerCondId : UInt16
  msgType : MsgTypeEvTrg
  msgDir : Option Unread
  assocUeInfo : Option Unread
  logOr : Option Unread
  deriving DecidableEq

/-- `e2sm_rc_ev_trg_frmt_1_t`. -/
structure EvTrgFrmt1 where
  msgEvTrg : List MsgEvTrg
  globalAssocUeInfo : Option Unread
  deriving DecidableEq

/-- `e2sm_rc_ev_trg_frmt_2_t`. -/
structure EvTrgFrmt2 where
  callProcTypeId : UInt16
  callBreakId : UInt16
  assocE2NodeInfo : Option Unread
  assocUeInfo : Option Unread
  deriving DecidableEq

/-- `e2_node_info_chng_t`. -/
structure E2NodeInfoChng where
  evTriggerCondId : UInt16
  e2NodeInfoChngId : UInt16
  evTriggerCellInfo : Option EvTriggerCellInfo
  logOr : Option LogicalOr
  deriving DecidableEq

/-- `rrc_state_t`. -/
structure RrcState where
  stateChngdTo : RrcStateE2smRc
  logOr : Option Unread
  deriving DecidableEq

/-- What changes in a `ue_info_chng_t`. -/
inductive UeInfoChngTrigger where
  | rrcState (stateChngTo : List RrcState)
  | ueIdChng (ueIdChng : UInt16)
  | l2State (ranParamTest : List RanParamTest)

/-- `ue_info_chng_t`. -/
structure UeInfoChng where
  evTrigCondId : UInt16
  trigger : UeInfoChngTrigger
  assocUeInfo : Option Unread
  logOr : Option Unread

/-- `e2sm_rc_ev_trg_frmt_5_t`. That it is on demand is its only value. -/
structure EvTrgFrmt5 where
  assocUeInfo : Option Unread
  assocCellInfo : Option Unread
  deriving DecidableEq

/-- `e2sm_rc_event_trigger_t`. -/
inductive EventTrigger where
  | frmt1 (frmt1 : EvTrgFrmt1)
  | frmt2 (frmt2 : EvTrgFrmt2)
  | frmt3 (e2NodeInfoChng : List E2NodeInfoChng)
  | frmt4 (ueInfoChng : List UeInfoChng)
  | frmt5 (frmt5 : EvTrgFrmt5)

/-- `MessageType_Choice_NI_t`. -/
structure MessageTypeChoiceNi where
  nIType : Int64
  nIIdentifier : Option Unread
  nIMessage : Option Unread
  deriving DecidableEq

/-- `RRC_MessageID__rrcType`. -/
inductive RrcType where
  | lTE (lTE : Int64)
  | nR (nR : Int64)
  deriving DecidableEq

/-- `RRC_MessageID_t`. -/
structure RrcMessageId where
  rrcType : RrcType
  messageId : Int64
  deriving DecidableEq

/-- `MessageType_Choice_t`. -/
inductive MessageTypeChoice where
  | ni (messageTypeChoiceNi : MessageTypeChoiceNi)
  | rrc (rrcMessage : RrcMessageId)
  deriving DecidableEq

/-- `E2SM_RC_EventTrigger_Format1_Item_t`. -/
structure EventTriggerFormat1Item where
  ricEventTriggerConditionId : Int64
  messageType : MessageTypeChoice
  messageDirection : Option Unread
  associatedUeInfo : Option Unread
  logicalOr : Option Unread
  deriving DecidableEq

/-- `E2SM_RC_EventTrigger_Format1_t`. -/
structure EventTriggerFormat1 where
  messageList : List EventTriggerFormat1Item
  globalAssociatedUeInfo : Option Unread
  deriving DecidableEq

/-- `E2SM_RC_EventTrigger_Format2_t`. -/
structure EventTriggerFormat2 where
  ricCallProcessTypeId : Int64
  ricCallProcessBreakpointId : Int64
  associatedE2NodeInfo : Option Unread
  associatedUeInfo : Option Unread
  deriving DecidableEq

/-- `E2SM_RC_EventTrigger_Format3_Item_t`. -/
structure EventTriggerFormat3Item where
  ricEventTriggerConditionId : Int64
  e2NodeInfoChangeId : Int64
  associatedCellInfo : Option Unread
  logicalOr : Option Unread
  deriving DecidableEq

/-- `TriggerType_Choice_RRCstate_Item_t`. -/
structure TriggerTypeRrcStateItem where
  stateChangedTo : Int64
  logicalOr : Option Unread
  deriving DecidableEq

/-- `TriggerType_Choice_t`. -/
inductive TriggerTypeChoice where
  | rrcState (rrcStateList : List TriggerTypeRrcStateItem)
  | ueId (ueIdChangeId : Int64)
  | l2State (associatedL2variables : List RanParameterTestingItem)

/-- `E2SM_RC_EventTrigger_Format4_Item_t`. -/
structure EventTriggerFormat4Item where
  ricEventTriggerConditionId : Int64
  triggerType : TriggerTypeChoice
  associatedUeInfo : Option Unread
  logicalOr : Option Unread

/-- `E2SM_RC_EventTrigger_Format5_t`. -/
structure EventTriggerFormat5 where
  onDemand : Int64
  associatedUeInfo : Option Unread
  associatedCellInfo : Option Unread
  deriving DecidableEq

/-- `E2SM_RC_EventTrigger_t`. -/
inductive EventTriggerAsn where
  | format1 (eventTriggerFormat1 : EventTriggerFormat1)
  | format2 (eventTriggerFormat2 : EventTriggerFormat2)
  | format3 (e2NodeInfoChangeList : List EventTriggerFormat3Item)
  | format4 (ueInfoChangeList : List EventTriggerFormat4Item)
  | format5 (eventTriggerFormat5 : EventTriggerFormat5)

def cpMsgTypeNi (src : NetworkInterfaceE2rc) : Except Fault MessageTypeChoiceNi := do
  check (src.niId = none) .notImplemented
  check (src.niMsgId = none) .notImplemented
  pure { nIType := src.niType.number, nIIdentifier := none, nIMessage := none }

def cpMsgTypeRrc (src : RrcMsgId) : RrcMessageId where
  rrcType :=
    match src.type with
    | .lte lte => .lTE (cpRrcMsgTypeLte lte)
    | .nr nr => .nR (cpRrcMsgTypeNr nr)
  messageId := src.rrcMsgId.toInt64

/-- The message type, which `cp_rc_ev_trigger_format_1_it` chooses. -/
def cpMsgType : MsgTypeEvTrg → Except Fault MessageTypeChoice
  | .net net => MessageTypeChoice.ni <$> cpMsgTypeNi net
  | .rrcMsg rrcMsg => pure (.rrc (cpMsgTypeRrc rrcMsg))

def cpRcEvTriggerFormat1It (src : MsgEvTrg) : Except Fault EventTriggerFormat1Item := do
  check (0 < src.evTriggerCondId) .bound
  let messageType ← cpMsgType src.msgType
  check (src.msgDir = none) .notImplemented
  check (src.assocUeInfo = none) .notImplemented
  check (src.logOr = none) .notImplemented
  pure {
    ricEventTriggerConditionId := longOf16 src.evTriggerCondId
    messageType
    messageDirection := none
    associatedUeInfo := none
    logicalOr := none }

def cpRcEvTriggerFormat1 (src : EvTrgFrmt1) : Except Fault EventTriggerFormat1 := do
  let messageList ← mapMWithin 1 65535 .bound cpRcEvTriggerFormat1It src.msgEvTrg
  check (src.globalAssocUeInfo = none) .notImplemented
  pure { messageList, globalAssociatedUeInfo := none }

def cpRcEvTriggerFormat2 (src : EvTrgFrmt2) : Except Fault EventTriggerFormat2 := do
  check (0 < src.callProcTypeId) .bound
  check (0 < src.callBreakId) .bound
  check (src.assocE2NodeInfo = none) .notImplemented
  check (src.assocUeInfo = none) .notImplemented
  pure {
    ricCallProcessTypeId := longOf16 src.callProcTypeId
    ricCallProcessBreakpointId := longOf16 src.callBreakId
    associatedE2NodeInfo := none
    associatedUeInfo := none }

/-- The cell and the logical or are left out, whether they are there or not. -/
def cpRcEvTriggerFormat3It (src : E2NodeInfoChng) : Except Fault EventTriggerFormat3Item := do
  check (0 < src.evTriggerCondId) .bound
  check (0 < src.e2NodeInfoChngId ∧ src.e2NodeInfoChngId < 513) .bound
  pure {
    ricEventTriggerConditionId := longOf16 src.evTriggerCondId
    e2NodeInfoChangeId := longOf16 src.e2NodeInfoChngId
    associatedCellInfo := none
    logicalOr := none }

def cpRcEvTriggerFormat3 (src : List E2NodeInfoChng) :
    Except Fault (List EventTriggerFormat3Item) :=
  src.mapM cpRcEvTriggerFormat3It

def encRrcState (src : RrcState) : Except Fault TriggerTypeRrcStateItem := do
  check (src.logOr = none) .notImplemented
  pure { stateChangedTo := src.stateChngdTo.number, logicalOr := none }

/-- The trigger type, which `cp_rc_ev_trigger_format_4_it` chooses. -/
def cpTriggerType : UeInfoChngTrigger → Except Fault TriggerTypeChoice
  | .rrcState states => TriggerTypeChoice.rrcState <$> mapMWithin 1 8 .bound encRrcState states
  | .ueIdChng ueIdChng => pure (.ueId (longOf16 ueIdChng))
  | .l2State tests => TriggerTypeChoice.l2State <$> mapMWithin 1 255 .bound encRanParamTest tests

def cpRcEvTriggerFormat4It (src : UeInfoChng) : Except Fault EventTriggerFormat4Item := do
  check (0 < src.evTrigCondId) .bound
  let triggerType ← cpTriggerType src.trigger
  check (src.assocUeInfo = none) .notImplemented
  check (src.logOr = none) .notImplemented
  pure {
    ricEventTriggerConditionId := longOf16 src.evTrigCondId
    triggerType
    associatedUeInfo := none
    logicalOr := none }

def cpRcEvTriggerFormat4 (src : List UeInfoChng) : Except Fault (List EventTriggerFormat4Item) :=
  mapMWithin 1 65535 .bound cpRcEvTriggerFormat4It src

def cpRcEvTriggerFormat5 (src : EvTrgFrmt5) : Except Fault EventTriggerFormat5 := do
  check (src.assocUeInfo = none) .notImplemented
  check (src.assocCellInfo = none) .notImplemented
  pure { onDemand := 0, associatedUeInfo := none, associatedCellInfo := none }

/-- The unit of `rc_enc_event_trigger_asn`. -/
def eventTriggerUnit : EventTrigger → Except Fault EventTriggerAsn
  | .frmt1 frmt => EventTriggerAsn.format1 <$> cpRcEvTriggerFormat1 frmt
  | .frmt2 frmt => EventTriggerAsn.format2 <$> cpRcEvTriggerFormat2 frmt
  | .frmt3 frmt => EventTriggerAsn.format3 <$> cpRcEvTriggerFormat3 frmt
  | .frmt4 frmt => EventTriggerAsn.format4 <$> cpRcEvTriggerFormat4 frmt
  | .frmt5 frmt => EventTriggerAsn.format5 <$> cpRcEvTriggerFormat5 frmt

def decMsgTypeNi (src : MessageTypeChoiceNi) : Except Fault NetworkInterfaceE2rc := do
  let niType ← NetworkInterfaceType.ofNumber src.nIType
  check (src.nIIdentifier = none) .notImplemented
  check (src.nIMessage = none) .notImplemented
  pure { niType, niId := none, niMsgId := none }

def decRrcType : RrcType → Except Fault RrcMessageClass
  | .lTE lTE => RrcMessageClass.lte <$> decRrcMsgTypeLte lTE
  | .nR nR => RrcMessageClass.nr <$> decRrcMsgTypeNr nR

def decMsgTypeRrc (src : RrcMessageId) : Except Fault RrcMsgId := do
  let type ← decRrcType src.rrcType
  pure { type, rrcMsgId := src.messageId.toUInt64 }

def decMsgType : MessageTypeChoice → Except Fault MsgTypeEvTrg
  | .ni ni => MsgTypeEvTrg.net <$> decMsgTypeNi ni
  | .rrc rrc => MsgTypeEvTrg.rrcMsg <$> decMsgTypeRrc rrc

def decRcEvTriggerFormat1It (src : EventTriggerFormat1Item) : Except Fault MsgEvTrg := do
  check (0 < src.ricEventTriggerConditionId ∧ src.ricEventTriggerConditionId < 65536) .bound
  let msgType ← decMsgType src.messageType
  check (src.messageDirection = none) .notImplemented
  check (src.associatedUeInfo = none) .notImplemented
  check (src.logicalOr = none) .notImplemented
  pure {
    evTriggerCondId := low16 src.ricEventTriggerConditionId
    msgType
    msgDir := none
    assocUeInfo := none
    logOr := none }

def decRcEvTriggerFormat1 (src : EventTriggerFormat1) : Except Fault EvTrgFrmt1 := do
  let msgEvTrg ← mapMWithin 1 65535 .bound decRcEvTriggerFormat1It src.messageList
  check (src.globalAssociatedUeInfo = none) .notImplemented
  pure { msgEvTrg, globalAssocUeInfo := none }

def decRcEvTriggerFormat2 (src : EventTriggerFormat2) : Except Fault EvTrgFrmt2 := do
  check (0 < src.ricCallProcessTypeId ∧ src.ricCallProcessTypeId < 65536) .bound
  check (0 < src.ricCallProcessBreakpointId ∧ src.ricCallProcessBreakpointId < 65536) .bound
  check (src.associatedE2NodeInfo = none) .notImplemented
  check (src.associatedUeInfo = none) .notImplemented
  pure {
    callProcTypeId := low16 src.ricCallProcessTypeId
    callBreakId := low16 src.ricCallProcessBreakpointId
    assocE2NodeInfo := none
    assocUeInfo := none }

def decE2NodeInfoChng (src : EventTriggerFormat3Item) : Except Fault E2NodeInfoChng := do
  check (0 < src.ricEventTriggerConditionId ∧ src.ricEventTriggerConditionId < 65536) .bound
  check (0 < src.e2NodeInfoChangeId ∧ src.e2NodeInfoChangeId < 513) .bound
  check (src.associatedCellInfo = none) .notImplemented
  check (src.logicalOr = none) .notImplemented
  pure {
    evTriggerCondId := low16 src.ricEventTriggerConditionId
    e2NodeInfoChngId := low16 src.e2NodeInfoChangeId
    evTriggerCellInfo := none
    logOr := none }

def decRcEvTriggerFormat3 (src : List EventTriggerFormat3Item) :
    Except Fault (List E2NodeInfoChng) :=
  mapMWithin 1 65535 .bound decE2NodeInfoChng src

def decRrcState (src : TriggerTypeRrcStateItem) : Except Fault RrcState := do
  let stateChngdTo ← RrcStateE2smRc.ofNumber src.stateChangedTo
  check (src.logicalOr = none) .notImplemented
  pure { stateChngdTo, logOr := none }

/-- With the loops of `dec_rrc_state_lst` and of `dec_ran_param_cond_crit_def`. -/
def decTriggerType : TriggerTypeChoice → Except Fault UeInfoChngTrigger
  | .rrcState states => UeInfoChngTrigger.rrcState <$> mapMWithin 1 8 .bound decRrcState states
  | .ueId ueIdChangeId => pure (.ueIdChng (low16 ueIdChangeId))
  | .l2State tests => UeInfoChngTrigger.l2State <$> mapMWithin 1 255 .bound decRanParamTest tests

def decUeInfoChng (src : EventTriggerFormat4Item) : Except Fault UeInfoChng := do
  check (0 < src.ricEventTriggerConditionId ∧ src.ricEventTriggerConditionId < 65536) .bound
  let trigger ← decTriggerType src.triggerType
  check (src.associatedUeInfo = none) .notImplemented
  check (src.logicalOr = none) .notImplemented
  pure {
    evTrigCondId := low16 src.ricEventTriggerConditionId
    trigger
    assocUeInfo := none
    logOr := none }

def decRcEvTriggerFormat4 (src : List EventTriggerFormat4Item) : Except Fault (List UeInfoChng) :=
  mapMWithin 1 65535 .bound decUeInfoChng src

def decRcEvTriggerFormat5 (src : EventTriggerFormat5) : Except Fault EvTrgFrmt5 := do
  check (src.onDemand = 0) .notImplemented
  check (src.associatedUeInfo = none) .notImplemented
  check (src.associatedCellInfo = none) .notImplemented
  pure { assocUeInfo := none, assocCellInfo := none }

/-- The trigger that `rc_dec_event_trigger_asn` takes a unit for. -/
def eventTriggerOf : EventTriggerAsn → Except Fault EventTrigger
  | .format1 frmt => EventTrigger.frmt1 <$> decRcEvTriggerFormat1 frmt
  | .format2 frmt => EventTrigger.frmt2 <$> decRcEvTriggerFormat2 frmt
  | .format3 frmt => EventTrigger.frmt3 <$> decRcEvTriggerFormat3 frmt
  | .format4 frmt => EventTrigger.frmt4 <$> decRcEvTriggerFormat4 frmt
  | .format5 frmt => EventTrigger.frmt5 <$> decRcEvTriggerFormat5 frmt

/-- Room for the bytes of a trigger, and for those of an action definition. -/
def subscriptionRoom : Nat := 512 * 1024

def rcEncEventTriggerAsn (p : Packing EventTriggerAsn) : EventTrigger → Except Fault Wire.Bytes :=
  encodeWith eventTriggerUnit p subscriptionRoom .aper

def rcDecEventTriggerAsn (p : Packing EventTriggerAsn) : Wire.Bytes → Except Fault EventTrigger :=
  decodeWith eventTriggerOf p .aper

end FlexRic.Rc
