import FlexRic.Ric.MapRicId
import FlexRic.Ric.NearRic

/-! # The iApp

The iApp serves the xApps: it hands them ids, passes their requests to the
near-RIC under fresh request ids, and routes what the E2 nodes answer back. It
keeps the map of request ids, the addresses of the xApps and a registry of the
E2 nodes of its own.
-/

namespace FlexRic

open Assertion

abbrev MapXappsSad := BiMap cmpUint16 cmpSctpInfo

/-- `pair_rf_cca_t`. -/
structure PairRfCca where
  ranFunc : List UInt16
  compConfAdd : List NodeCompId
  deriving DecidableEq, Repr

abbrev RegE2Nodes := AssocRbTree cmpGlobalE2NodeId PairRfCca

/-- `e42_iapp_t`. -/
structure E42Iapp where
  xappId : UInt32
  mapRicId : MapRicId
  /-- `ep.xapps`. -/
  xapps : MapXappsSad
  e2Nodes : RegE2Nodes

def initE42Iapp : E42Iapp where
  xappId := 7
  mapRicId := .init
  xapps := .init
  e2Nodes := .init

def addMapXappsSad (m : MapXappsSad) (xappId : UInt16) (s : SctpInfo) : Checked MapXappsSad := do
  let it := m.left.findIf (· = xappId)
  check (it = none) xappIdRegistered
  pure (m.insert xappId s)

def findMapXappsSad (m : MapXappsSad) (xappId : UInt16) : Checked SctpInfo :=
  match m.left.findIf (· = xappId) with
  | none => .error xappIdNotFound
  | some (_, s) => .ok s

def findMapXappsXid (m : MapXappsSad) (s : SctpInfo) : Checked UInt16 :=
  match m.right.findIf fun s' => eqSctpInfo s' s with
  | none => .error sctpInfoNotFound
  | some (_, xappId) => .ok xappId

def addRegE2Node (i : RegE2Nodes) (id : GlobalE2NodeId) (ranFunc : List UInt16)
    (cca : List NodeCompId) : Checked RegE2Nodes := do
  check (0 < ranFunc.length) noRanFunc
  check (0 < cca.length) lenCcaRange
  let compConfAdd ← cca.mapM cpE2apNodeCompId
  check (0 < i.size → i.findIf (fun id' => eqGlobalE2NodeId id' id) = none) e2NodeExists
  pure (i.insert id { ranFunc := ranFunc, compConfAdd := compConfAdd })

def rmRegE2Node (n : RegE2Nodes) (id : GlobalE2NodeId) : Checked RegE2Nodes :=
  match n.freeIf fun id' => eqGlobalE2NodeId id' id with
  | none => .error e2NodeNotRegistered
  | some n => .ok n

/-- The ids in the array that `generate_e2_node_arr` copies out. -/
def generateE2NodeArr (n : RegE2Nodes) : List GlobalE2NodeId := n.toList.map Prod.fst

def addE2NodeIapp (iapp : E42Iapp) (req : E2SetupRequest) : Checked E42Iapp := do
  let e2Nodes ← addRegE2Node iapp.e2Nodes req.id req.ranFuncItem req.compConfAdd
  pure { iapp with e2Nodes := e2Nodes }

def rmE2NodeIapp (iapp : E42Iapp) (id : GlobalE2NodeId) : Checked E42Iapp := do
  let e2Nodes ← rmRegE2Node iapp.e2Nodes id
  pure { iapp with e2Nodes := e2Nodes }

/-- `e2ap_handle_e42_setup_request_iapp`, and the registration and answer that
    follow it in the loop. The counter has 32 bits, the id in the answer 16. -/
def e2apHandleE42SetupRequestIapp (iapp : E42Iapp) (lenRf : Nat) (info : SctpInfo) :
    Checked (E42Iapp × Sent) := do
  check (0 < lenRf) noRanFunc
  let nodes := generateE2NodeArr iapp.e2Nodes
  let xappId := iapp.xappId.toUInt16
  let xapps ← addMapXappsSad iapp.xapps xappId info
  pure ({ iapp with xappId := iapp.xappId + 1, xapps := xapps },
    .toXapp info (.e42SetupResponse xappId nodes))

/-- `valid_xapp_id`, whose own assertion that the id has 16 bits its type takes care of. -/
def validXappId (iapp : E42Iapp) (xappId : UInt16) : Bool := xappId.toUInt32 ≤ iapp.xappId

def validGlobalE2Node (iapp : E42Iapp) (id : GlobalE2NodeId) : Bool :=
  (generateE2NodeArr iapp.e2Nodes).any fun id' => eqGlobalE2NodeId id' id

/-- Forward an xApp's request and remember whose it is. The map is locked for
    writing all along, so no answer is looked up in between. -/
def e42Request (type : RicReqType)
    (fwd : NearRic → Fd → GlobalE2NodeId → RicGenId → Checked (UInt16 × NearRic × Sent))
    (ric : NearRic) (iapp : E42Iapp) (fd : Fd) (req : E42Request) :
    Checked (NearRic × E42Iapp × Sent) := do
  check (validXappId iapp req.xappId) invalidXappId
  check (validGlobalE2Node iapp req.id) invalidGlobalE2Node
  let xappRicId : XappRicId := { ricId := req.ricId, xappId := req.xappId }
  let (newRicId, ric, sent) ← fwd ric fd req.id req.ricId
  let n : E2NodeRicId :=
    { ricId := { req.ricId with ricReqId := newRicId.toUInt32 }, e2NodeId := req.id,
      ricReqType := type }
  let mapRicId ← addMapRicId iapp.mapRicId n xappRicId
  pure (ric, { iapp with mapRicId := mapRicId }, sent)

def e2apHandleE42RicSubscriptionRequestIapp :=
  e42Request .subscription fwdRicSubscriptionRequest

def e2apHandleE42RicControlRequestIapp := e42Request .control fwdRicControlRequest

/-- A delete that is ready to be forwarded to its node. -/
structure Delete where
  id : GlobalE2NodeId
  ricId : RicGenId
  deriving DecidableEq

/-- `e2ap_handle_e42_ric_subscription_delete_request_iapp`, up to the forwarding. -/
def e2apHandleE42RicSubscriptionDeleteRequestIapp (iapp : E42Iapp) (xappId : UInt16)
    (ricId : RicGenId) : Checked Delete := do
  let n ← findRicReqMapRicId iapp.mapRicId { ricId := ricId, xappId := xappId }
  check (n.ricReqType = .subscription) notSubscription
  pure { id := n.e2NodeId, ricId := { ricId with ricReqId := n.ricId.ricReqId } }

/-- `rm_if_pending_subs` for the xApp that disconnected: the deletes that
    `gen_e2ap_subs_delete` then forwards one after the other. -/
def rmIfPendingSubs (iapp : E42Iapp) (info : SctpInfo) : Checked (List Delete) := do
  let xappId ← findMapXappsXid iapp.xapps info
  pure ((findAllSubsMapRicId iapp.mapRicId xappId).map fun n => ⟨n.e2NodeId, n.ricId⟩)

/-- The handlers of E2 node messages differ in three ways. -/
structure RicMsgHandler where
  /-- It asserts that the request id is in the map. -/
  required : Bool
  /-- The message that the xApp gets. -/
  ans : XappRicId → RicMsg
  /-- It removes the entry at the end. -/
  removes : Bool

def e2apHandleSubscriptionResponseIapp (src : RicSubscriptionResponse) : RicMsgHandler where
  required := true
  ans x := .subscriptionResponse
    { src with ricId := { src.ricId with ricReqId := x.ricId.ricReqId } }
  removes := false

def e2apHandleSubscriptionDeleteResponseIapp : RicMsgHandler where
  required := false
  ans x := .subscriptionDeleteResponse x.ricId
  removes := true

def e2apHandleE42RicControlAckIapp : RicMsgHandler where
  required := true
  ans x := .controlAcknowledge x.ricId
  removes := true

def e2apHandleRicIndicationIapp (src : RicGenId) : RicMsgHandler where
  required := false
  ans x := .indication { src with ricReqId := x.ricId.ricReqId }
  removes := false

/-- `e2ap_msg_handle_iapp`. -/
def e2apMsgHandleIapp : RicMsg → RicMsgHandler
  | .subscriptionResponse resp => e2apHandleSubscriptionResponseIapp resp
  | .subscriptionDeleteResponse _ => e2apHandleSubscriptionDeleteResponseIapp
  | .controlAcknowledge _ => e2apHandleE42RicControlAckIapp
  | .indication ricId => e2apHandleRicIndicationIapp ricId

/-- The first part of a handler: whose request is it? The id is cut to 16 bits
    on its way into the look-up. -/
def lookUp (iapp : E42Iapp) (msg : RicMsg) : Checked (Option XappRicId) := do
  match ← findXappMapRicId iapp.mapRicId msg.ricId.ricReqId.toUInt16 with
  | none =>
      check ((e2apMsgHandleIapp msg).required = false) ricReqIdNotFound
      pure none
  | some x =>
      check (msg.ricId.ranFuncId = x.ricId.ranFuncId) ranFuncDiffers
      check (msg.ricId.ricInstId = x.ricId.ricInstId) ricInstDiffers
      pure (some x)

/-- The second part: the message goes to the address of the xApp. -/
def forward (iapp : E42Iapp) (msg : RicMsg) (x : XappRicId) : Checked Sent := do
  let info ← findMapXappsSad iapp.xapps x.xappId
  pure (.toXapp info (.ricMsg ((e2apMsgHandleIapp msg).ans x)))

/-- The last part of a handler that removes. -/
def remove (iapp : E42Iapp) (x : XappRicId) : Checked E42Iapp := do
  let mapRicId ← rmMapRicId iapp.mapRicId x
  pure { iapp with mapRicId := mapRicId }

end FlexRic
