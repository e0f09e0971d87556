import FlexRic.Asn.Control
import FlexRic.Asn.Subscription

/-! # Messages between the RIC and its xApps

The setup response lists the connected nodes to an xApp, which names one of them in
its requests. The type of a CU is not sent: the xApp guesses it from the components
that are listed with the node.
-/

namespace FlexRic.Asn

open Wire (Bytes)
open GlobalE2NodeIds (NodeId)

/-- The types that the encoder of the setup response admits. -/
def connectedTypes : List NgranNode := [.gNB, .gNBCU, .gNBCUUP, .gNBDU, .eNB]

/-- The three elements that a connected node is listed with. -/
def encConnected (node : E2NodeConnected) : Except Fault (List (Ie ConnectedValue)) := do
  check (node.id.type ∈ connectedTypes) .notImplemented
  let id ← encGlobalE2nodeId node.id
  check (0 < node.lenCca) .bound
  check (node.lenCca.toNat ≤ node.cca.length) .missing
  let components ← (node.cca.take node.lenCca.toNat).mapM encNodeComponentConfAddition
  let ranFunctions ← node.ackRf.mapM copyRanFunction
  pure [⟨.globalE2nodeId, .reject, .globalE2nodeId id⟩,
    ⟨.e2nodeComponentConfigAddition, .reject, .componentConfigAdditionList components⟩,
    ⟨.ranFunctionsAdded, .reject, .ranFunctionsList ranFunctions⟩]

def encConnectedIe (node : E2NodeConnected) : Except Fault (Ie IeValue) := do
  let items ← encConnected node
  pure ⟨.e2nodesConnected, .reject, .e2nodeConnectedList items⟩

/-- `e2ap_enc_e42_setup_response_asn_pdu`. -/
def e2apEncE42SetupResponse (sr : E42SetupResponse) : Except Fault Pdu := do
  check (0 < sr.lenE2NodesConn) .count
  check (sr.lenE2NodesConn.toNat ≤ sr.nodes.length) .missing
  let connected ← (sr.nodes.take sr.lenE2NodesConn.toNat).mapM encConnectedIe
  pure ⟨.successfulOutcome, .e42Setup, .reject, .e42setupResponse,
    ⟨.xappId, .reject, .xappId sr.xappId.toNat⟩ :: connected⟩

/-- The type that the components of a node without a unit stand for: two make a CU,
    three a CU-CP. The assertions on their interfaces abort. -/
def guessType (cca : List NodeComponentConfigAdd) : Except Fault NgranNode :=
  match cca.map (·.interfaceType) with
  | [first, second] => do
      check (first = .ng ∧ second = .f1) .present
      pure .gNBCU
  | [first, second, third] => do
      check (first = .ng ∧ second = .f1 ∧ third = .e1) .present
      pure .gNBCUCP
  | _ => .ok .gNB

def asConnectedId : ConnectedValue → Except Fault GlobalE2nodeIdChoice
  | .globalE2nodeId v => .ok v
  | _ => .error .present

def asComponents : ConnectedValue → Except Fault (List (Ie ComponentConfigAdditionItem))
  | .componentConfigAdditionList v => .ok v
  | _ => .error .present

def asRanFunctions : ConnectedValue → Except Fault (List (Ie RanFunctionItem))
  | .ranFunctionsList v => .ok v
  | _ => .error .present

/-- The type under which the xApp knows a node. -/
def learnType (type : NgranNode) (cca : List NodeComponentConfigAdd) : Except Fault NgranNode :=
  if type = .gNB then guessType cca else .ok type

/-- The loop body of the decoder for one node. -/
def decConnected (items : List (Ie ConnectedValue)) : Except Fault E2NodeConnected := do
  check (items.length = 3) .count
  let choice ← ieAt items 0 .globalE2nodeId (some .reject) >>= asConnectedId
  let id ← decGlobalE2nodeId choice
  let components ← ieAt items 1 .e2nodeComponentConfigAddition (some .reject) >>= asComponents
  check (0 < components.length ∧ components.length < 256) .bound
  let cca ← components.mapM decNodeComponentConfAddition
  let type ← learnType id.type cca
  let ranFunctions ← ieAt items 2 .ranFunctionsAdded (some .reject) >>= asRanFunctions
  let ackRf ← ranFunctions.mapM decRanFunction
  pure ⟨{ id with type := type }, UInt8.ofNat components.length, cca, ackRf⟩

def asConnectedList : IeValue → Except Fault (List (Ie ConnectedValue))
  | .e2nodeConnectedList v => .ok v
  | _ => .error .present

def decConnectedIe (ie : Ie IeValue) : Except Fault E2NodeConnected := do
  let value ← ie.expect .e2nodesConnected (some .reject)
  let items ← asConnectedList value
  decConnected items

/-- `e2ap_dec_e42_setup_response`. -/
def e2apDecE42SetupResponse (pdu : Pdu) : Except Fault E2apMsg := do
  pdu.expect .successfulOutcome .e42Setup (some .reject) .e42setupResponse
  let ies := pdu.protocolIEs
  check (0 < ies.length) .count
  let xappId ← ieAt ies 0 .xappId (some .reject) >>= asXappId
  let nodes ← (ies.drop 1).mapM decConnectedIe
  pure (.e42StpResp ⟨UInt16.ofNat xappId, UInt8.ofNat (ies.drop 1).length, nodes⟩)

/-- The types that the encoder of the subscription request admits. -/
def subscriptionTypes : List NgranNode := [.gNB, .gNBCU, .gNBCUCP, .gNBCUUP, .gNBDU, .eNB]

/-- `e2ap_enc_e42_subscription_request_asn_pdu`. -/
def e2apEncE42SubscriptionRequest (req : E42RicSubscriptionRequest) : Except Fault Pdu := do
  check (req.sr.eventTrigger ≠ []) .empty
  check (req.sr.action.length ≤ maxNumActionDef) .bound
  check (req.id.type ∈ subscriptionTypes) .notImplemented
  let id ← encGlobalE2nodeId req.id
  let details ← encSubscriptionDetails req.sr
  pure ⟨.initiatingMessage, .e42RicSubscription, .reject, .e42RicSubscriptionRequest,
    ⟨.xappId, .reject, .xappId req.xappId.toNat⟩ ::
      ⟨.globalE2nodeId, .reject, .globalE2nodeId id⟩ ::
        (encRicId req.sr.ricId ++ [details])⟩

/-- `e2ap_dec_e42_subscription_request`. -/
def e2apDecE42SubscriptionRequest (pdu : Pdu) : Except Fault E2apMsg := do
  pdu.expect .initiatingMessage .e42RicSubscription none .e42RicSubscriptionRequest
  let ies := pdu.protocolIEs
  check (ies.length = 5) .count
  let xappId ← ieAt ies 0 .xappId (some .reject) >>= asXappId
  let choice ← ieAt ies 1 .globalE2nodeId (some .reject) >>= asNodeId
  let id ← decGlobalE2nodeId choice
  let sr ← decRequestFrom ies 2
  pure (.e42RicSubReq ⟨UInt16.ofNat xappId, id, sr⟩)

end FlexRic.Asn
