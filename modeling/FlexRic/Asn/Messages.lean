import FlexRic.Asn.Pdu
import FlexRic.Keys.GlobalE2NodeIds

/-! # Messages

The messages as the agent, the RIC and the xApps hold them. An array stands with its
length for a list; where one side forgets a length it is a field of its own.
-/

namespace FlexRic.Asn

open Wire (Bytes)
open GlobalE2NodeIds (NodeId)

/-- `cause_t`. -/
inductive Cause where
  | nothing
  | ricRequest (v : Nat)
  | ricService (v : Nat)
  | e2Node (v : Nat)
  | transport (v : Nat)
  | protocol (v : Nat)
  | misc (v : Nat)
  deriving DecidableEq, Repr

structure RicSubsequentAction where
  type : RicSubsequentActionType
  timeToWaitMs : Option UInt32
  deriving DecidableEq, Repr

structure RicAction where
  id : UInt8
  type : RicActionType
  definition : Option Bytes
  subseqAction : Option RicSubsequentAction
  deriving DecidableEq, Repr

structure RicSubscriptionRequest where
  ricId : RicGenId
  eventTrigger : Bytes
  action : List RicAction
  deriving DecidableEq, Repr

structure RicActionNotAdmitted where
  ricActId : UInt8
  cause : Cause
  deriving DecidableEq, Repr

/-- Of the actions that are not admitted only the first `lenNa` count. -/
structure RicSubscriptionResponse where
  ricId : RicGenId
  admitted : List UInt8
  notAdmitted : List RicActionNotAdmitted
  lenNa : Nat
  deriving DecidableEq, Repr

structure RicSubscriptionDeleteRequest where
  ricId : RicGenId
  deriving DecidableEq, Repr

structure RicSubscriptionDeleteResponse where
  ricId : RicGenId
  deriving DecidableEq, Repr

structure E42RicSubscriptionRequest where
  xappId : UInt16
  id : NodeId
  sr : RicSubscriptionRequest
  deriving DecidableEq, Repr

/-- `ric_indication_type_e`. -/
inductive RicIndicationType where
  | report
  | insert
  deriving DecidableEq, Repr

def RicIndicationType.toNat : RicIndicationType → Nat
  | report => 0
  | insert => 1

structure RicIndication where
  ricId : RicGenId
  actionId : UInt8
  sn : Option UInt16
  type : RicIndicationType
  hdr : Bytes
  msg : Bytes
  callProcessId : Option Bytes
  deriving DecidableEq, Repr

/-- `ric_control_ack_req_t`. -/
inductive RicControlAckReq where
  | noAck
  | ack
  | nack
  deriving DecidableEq, Repr

def RicControlAckReq.toNat : RicControlAckReq → Nat
  | noAck => 0
  | ack => 1
  | nack => 2

structure RicControlRequest where
  ricId : RicGenId
  callProcessId : Option Bytes
  hdr : Bytes
  msg : Bytes
  ackReq : Option RicControlAckReq
  deriving DecidableEq, Repr

structure RicControlAcknowledge where
  ricId : RicGenId
  callProcessId : Option Bytes
  controlOutcome : Option Bytes
  deriving DecidableEq, Repr

structure E42RicControlRequest where
  xappId : UInt16
  id : NodeId
  ctrlReq : RicControlRequest
  deriving DecidableEq, Repr

structure RanFunction where
  defn : Bytes
  id : UInt16
  rev : UInt16
  oid : Bytes
  deriving DecidableEq, Repr

/-- `e2ap_node_comp_id_t`. -/
inductive NodeCompId where
  | ng (amfName : Bytes)
  | xn
  | e1 (gnbCuUpId : UInt64)
  | f1 (gnbDuId : UInt64)
  | w1 (ngEnbDuId : UInt64)
  | s1 (mmeName : Bytes)
  | x2
  deriving DecidableEq, Repr

/-- `e2ap_node_component_config_add_t`. -/
structure NodeComponentConfigAdd where
  interfaceType : InterfaceType
  compId : NodeCompId
  request : Bytes
  response : Bytes
  deriving DecidableEq, Repr

/-- `e2ap_node_comp_config_add_ack_t`. -/
structure NodeCompConfigAddAck where
  interfaceType : InterfaceType
  compId : NodeCompId
  outcome : UpdateOutcome
  cause : Option Cause
  deriving DecidableEq, Repr

structure E2SetupRequest where
  transId : UInt8
  id : NodeId
  ranFuncItem : List RanFunction
  compConfAdd : List NodeComponentConfigAdd
  deriving DecidableEq, Repr

structure GlobalRicId where
  plmn : Plmn
  nearRicId : UInt32
  deriving DecidableEq, Repr

structure RejectedRanFunction where
  id : UInt16
  cause : Cause
  deriving DecidableEq, Repr

structure E2SetupResponse where
  transId : UInt8
  id : GlobalRicId
  accepted : List UInt16
  rejected : List RejectedRanFunction
  compConfigAddAck : List NodeCompConfigAddAck
  deriving DecidableEq, Repr

/-- `e2_node_connected_t`: the components with the length in 8 bits. -/
structure E2NodeConnected where
  id : NodeId
  lenCca : UInt8
  cca : List NodeComponentConfigAdd
  ackRf : List RanFunction
  deriving DecidableEq, Repr

structure E42SetupResponse where
  xappId : UInt16
  lenE2NodesConn : UInt8
  nodes : List E2NodeConnected
  deriving DecidableEq, Repr

/-- `e2ap_msg_t`, the kinds that are modelled. -/
inductive E2apMsg where
  | ricSubReq (m : RicSubscriptionRequest)
  | ricSubResp (m : RicSubscriptionResponse)
  | ricSubDelReq (m : RicSubscriptionDeleteRequest)
  | ricSubDelResp (m : RicSubscriptionDeleteResponse)
  | ricInd (m : RicIndication)
  | ricCtrlReq (m : RicControlRequest)
  | ricCtrlAck (m : RicControlAcknowledge)
  | e2StpReq (m : E2SetupRequest)
  | e2StpResp (m : E2SetupResponse)
  | e42StpResp (m : E42SetupResponse)
  | e42RicSubReq (m : E42RicSubscriptionRequest)
  | e42RicCtrlReq (m : E42RicControlRequest)
  deriving DecidableEq, Repr

end FlexRic.Asn
