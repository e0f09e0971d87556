import FlexRic.E2ap.Ids
import FlexRic.Library.Translation
import FlexRic.Util.Assertion
import Mathlib.Algebra.Group.Nat.Defs

/-! # Decoded messages

The fields of the messages that the handlers read or pass on. The bodies of the
service models travel through unread and are left out.
-/

namespace FlexRic

/-- `e2ap_node_comp_id_t`: the interface of a component. Of the names and ids in it a copy
    looks at one only. -/
inductive NodeCompId where
  | ng
  | xn
  | e1
  | f1 (gnbDuId : UInt64)
  | w1
  | s1
  | x2
  deriving DecidableEq, Repr

/-- `cp_e2ap_node_comp_id`. -/
def cpE2apNodeCompId (src : NodeCompId) : Checked NodeCompId :=
  match src with
  | .ng | .e1 | .s1 => .ok src
  | .f1 gnbDuId => do
      check (gnbDuId.toNat < 2 ^ 36) .gnbDuIdRange
      pure src
  | .xn | .w1 | .x2 => .error .componentType

/-- A component that can be copied. -/
def NodeCompId.Copied : NodeCompId → Prop
  | .ng | .e1 | .s1 => True
  | .f1 gnbDuId => gnbDuId.toNat < 2 ^ 36
  | .xn | .w1 | .x2 => False

instance : (c : NodeCompId) → Decidable c.Copied
  | .ng | .e1 | .s1 => .isTrue trivial
  | .f1 _ => inferInstanceAs (Decidable (_ < _))
  | .xn | .w1 | .x2 => .isFalse id

theorem cpE2apNodeCompId_eq_ok {src dst : NodeCompId} :
    cpE2apNodeCompId src = .ok dst ↔ src.Copied ∧ src = dst := by
  cases src <;> simp [cpE2apNodeCompId, NodeCompId.Copied]

/-- `e2_setup_request_t`: the offered RAN function ids and the interfaces of the
    component configurations. -/
structure E2SetupRequest where
  transId : UInt8
  id : GlobalE2NodeId
  ranFuncItem : List UInt16
  compConfAdd : List NodeCompId
  deriving DecidableEq

/-- `e2_setup_response_t`. -/
structure E2SetupResponse where
  transId : UInt8
  accepted : List UInt16
  compConfigAddAck : List NodeCompId
  deriving DecidableEq, Repr

/-- `ric_action_type_t`. -/
inductive RicActionType where
  | report
  | insert
  | policy
  deriving DecidableEq, Repr

/-- `ric_action_t`. -/
structure RicAction where
  id : UInt8
  type : RicActionType
  deriving DecidableEq, Repr

/-- `ric_subscription_request_t`. -/
structure RicSubscriptionRequest where
  ricId : RicGenId
  action : List RicAction
  deriving DecidableEq, Repr

/-- `ric_subscription_response_t`: the admitted action ids and the number of
    those that were not. -/
structure RicSubscriptionResponse where
  ricId : RicGenId
  admitted : List UInt8
  lenNa : Nat
  deriving DecidableEq, Repr

/-- What an E2 node sends about a request of the near-RIC. -/
inductive RicMsg where
  | subscriptionResponse (resp : RicSubscriptionResponse)
  | subscriptionDeleteResponse (ricId : RicGenId)
  | controlAcknowledge (ricId : RicGenId)
  | indication (ricId : RicGenId)
  deriving DecidableEq, Repr

def RicMsg.ricId : RicMsg → RicGenId
  | subscriptionResponse resp => resp.ricId
  | subscriptionDeleteResponse ricId => ricId
  | controlAcknowledge ricId => ricId
  | indication ricId => ricId

/-- What the near-RIC asks of an E2 node. -/
inductive NodeRequest where
  | subscription (ricId : RicGenId)
  | subscriptionDelete (ricId : RicGenId)
  | control (ricId : RicGenId)
  deriving DecidableEq, Repr

/-- `e42_ric_subscription_request_t` and `e42_ric_control_request_t`. -/
structure E42Request where
  xappId : UInt16
  id : GlobalE2NodeId
  ricId : RicGenId
  deriving DecidableEq

/-- What an xApp asks of the iApp, once it is set up. -/
inductive E42Msg where
  | ricSubscriptionRequest (req : E42Request)
  | ricSubscriptionDeleteRequest (xappId : UInt16) (ricId : RicGenId)
  | ricControlRequest (req : E42Request)
  deriving DecidableEq

def E42Msg.ricId : E42Msg → RicGenId
  | ricSubscriptionRequest req => req.ricId
  | ricSubscriptionDeleteRequest _ ricId => ricId
  | ricControlRequest req => req.ricId

/-- What the iApp tells an xApp. -/
inductive XappMsg where
  | e42SetupResponse (xappId : UInt16) (nodes : List GlobalE2NodeId)
  | ricMsg (msg : RicMsg)
  deriving DecidableEq

/-- A message handed to SCTP, with the peer it goes to. -/
inductive Sent where
  /-- `e2ap_send_bytes_ric`, which looks the address of the node up. -/
  | toNode (id : GlobalE2NodeId) (info : SctpInfo) (msg : NodeRequest)
  /-- The answer to a setup request, which goes where the request came from. -/
  | setupResponse (info : SctpInfo) (resp : E2SetupResponse)
  | toXapp (info : SctpInfo) (msg : XappMsg)
  deriving DecidableEq

/-- `sm_ag_if_rd_ind_e`: the service model that an indication comes from. -/
inductive SmAgIfRdIndE where
  | macStatsV0
  | rlcStatsV0
  | pdcpStatsV0
  | sliceStatsV0
  | tcStatsV0
  | gtpStatsV0
  | kpmStatsV3_0
  | ranCtrlStatsV1_03
  | smAgentIfReadV0End
  deriving DecidableEq, Repr

/-- `sm_ag_if_rd_ind_t`: what `on_indication` of a service model decodes. -/
structure SmAgIfRdInd (π : Type) where
  type : SmAgIfRdIndE
  payload : π
  deriving DecidableEq, Repr

/-- `ric_indication_t`, as an id and the bytes for the service model. -/
structure RicIndication where
  ricId : RicGenId
  bytes : List UInt8
  deriving DecidableEq, Repr

/-- What an agent tells the near-RIC. -/
inductive AgentMsg where
  | setupRequest (req : E2SetupRequest)
  | subscriptionResponse (resp : RicSubscriptionResponse)
  | subscriptionDeleteResponse (ricId : RicGenId)
  | indication (ricId : RicGenId) (actionId : UInt8)
  deriving DecidableEq

end FlexRic
