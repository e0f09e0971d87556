import FlexRic.Agent.Provenance
import FlexRic.Ric.Provenance
import FlexRic.XApp.Provenance

/-! # A deployment

One RIC, an agent at the address of every E2 node and an xApp at any number of addresses, each
taking its own steps, over a network that may lose, repeat, delay and reorder messages but never
makes one up. So whatever was sent stays on the wire, and a message reaches its reader only off
the wire.
-/

namespace FlexRic

/-- A message on the wire, with the address that it comes from if it does not come from the RIC. -/
inductive Packet where
  | ric (sent : Sent)
  | agent (src : SctpInfo) (msg : AgentMsg)
  | controlAck (src : SctpInfo) (ricId : RicGenId)
  | xapp (src : SctpInfo) (msg : E42Msg)
  deriving DecidableEq

namespace Packet

/-- What an agent tells the RIC about a request. -/
def fromNode : Packet → Option (SctpInfo × RicMsg)
  | .agent src (.subscriptionResponse resp) => some (src, .subscriptionResponse resp)
  | .agent src (.subscriptionDeleteResponse ricId) => some (src, .subscriptionDeleteResponse ricId)
  | .agent src (.indication ricId _) => some (src, .indication ricId)
  | .controlAck src ricId => some (src, .controlAcknowledge ricId)
  | _ => none

/-- What an xApp asks of the RIC. -/
def fromXapp : Packet → Option E42Msg
  | .xapp _ msg => some msg
  | _ => none

/-- What the RIC asks of an agent. -/
def toNode : Packet → Option (SctpInfo × NodeRequest)
  | .ric (.toNode _ info msg) => some (info, msg)
  | _ => none

/-- What the RIC tells an xApp. -/
def toXapp : Packet → Option (SctpInfo × XappMsg)
  | .ric (.toXapp info msg) => some (info, msg)
  | _ => none

/-- The RIC answers the setup request of the agent at this address. -/
def answersSetup (a : SctpInfo) : Packet → Bool
  | .ric (.setupResponse info _) => info = a
  | _ => false

variable {p : Packet} {info : SctpInfo}

theorem fromXapp_eq_some {msg : E42Msg} (told : p.fromXapp = some msg) :
    ∃ src, p = .xapp src msg := by
  cases p with
  | xapp src msg =>
      cases told
      exact ⟨src, rfl⟩
  | ric | agent | controlAck => cases told

theorem fromNode_indication {ricId : RicGenId}
    (told : p.fromNode = some (info, .indication ricId)) :
    ∃ actionId, p = .agent info (.indication ricId actionId) := by
  cases p with
  | agent src sent =>
      cases sent with
      | indication _ actionId =>
          cases told
          exact ⟨actionId, rfl⟩
      | setupRequest | subscriptionResponse | subscriptionDeleteResponse => cases told
  | ric | controlAck | xapp => cases told

theorem toNode_eq_some {msg : NodeRequest} (told : p.toNode = some (info, msg)) :
    ∃ id, p = .ric (.toNode id info msg) := by
  cases p with
  | ric sent =>
      cases sent with
      | toNode id =>
          cases told
          exact ⟨id, rfl⟩
      | setupResponse | toXapp => cases told
  | agent | controlAck | xapp => cases told

theorem toXapp_eq_some {msg : XappMsg} (told : p.toXapp = some (info, msg)) :
    p = .ric (.toXapp info msg) := by
  cases p with
  | ric sent =>
      cases sent with
      | toXapp =>
          cases told
          rfl
      | toNode | setupResponse => cases told
  | agent | controlAck | xapp => cases told

end Packet

/-- The message is an answer to the request. -/
def E42Msg.answeredBy : E42Msg → RicMsg → Bool
  | .ricSubscriptionRequest req, .subscriptionResponse resp => resp.ricId = req.ricId
  | .ricSubscriptionDeleteRequest _ ricId, .subscriptionDeleteResponse ricId' => ricId' = ricId
  | .ricControlRequest req, .controlAcknowledge ricId => ricId = req.ricId
  | _, _ => false

/-- `e2ap_handle_control_request_agent`, which answers at once and keeps nothing. -/
def e2apHandleControlRequestAgent (ag : E2Agent) (ricId : RicGenId) : Checked RicGenId := do
  let _ ← smPluginAg ag ricId.ranFuncId
  pure ricId

/-- What its operator installs. -/
structure Installation (π : Type) where
  /-- The RAN function ids of the service models that the RIC loads, the agents and the xApps. -/
  ricPlugin : List UInt16
  agentPlugin : SctpInfo → List UInt16
  xappPlugin : List UInt16
  node : SctpInfo → GlobalE2NodeId
  compConfAdd : List NodeCompId
  onIndication : UInt16 → List UInt8 → SmAgIfRdInd π

structure Deployment where
  ric : Ric
  agents : SctpInfo → E2Agent
  /-- An xApp is there once its setup request is answered. -/
  xapps : SctpInfo → Option E42Xapp
  wire : List Packet

inductive DeploymentEvent where
  | ric (e : RicEvent)
  | agent (a : SctpInfo) (e : AgentEvent)
  /-- A control request reaches an agent. -/
  | agentControl (a : SctpInfo) (ricId : RicGenId)
  /-- The answer to its setup request reaches an xApp. -/
  | xappStarts (a : SctpInfo) (xappId : UInt16) (nodes : List GlobalE2NodeId)
  | xapp (a : SctpInfo) (e : ProcEvent)
  deriving DecidableEq

/-- What the component that moved brought about. -/
inductive DeploymentOutput (π : Type) where
  | ric (out : List Sent)
  | agent (out : List AgentMsg)
  | controlAck (ricId : RicGenId)
  | started
  | xapp (out : List (ProcOutput π))
  deriving DecidableEq

namespace Deployment

variable {π : Type}

def RicHears (wire : List Packet) : RicEvent → Prop
  | .setupRequest req info => .agent info (.setupRequest req) ∈ wire
  | .ricMsg msg => ∃ p ∈ wire, p.fromNode.map Prod.snd = some msg
  | .e42Subscription _ req => ∃ p ∈ wire, p.fromXapp = some (.ricSubscriptionRequest req)
  | .e42Control _ req => ∃ p ∈ wire, p.fromXapp = some (.ricControlRequest req)
  | .e42Delete xappId ricId =>
      ∃ p ∈ wire, p.fromXapp = some (.ricSubscriptionDeleteRequest xappId ricId)
  | _ => True

instance (wire : List Packet) : (e : RicEvent) → Decidable (RicHears wire e)
  | .setupRequest _ _ => inferInstanceAs (Decidable (_ ∈ wire))
  | .ricMsg _ | .e42Subscription _ _ | .e42Control _ _ | .e42Delete _ _ =>
      inferInstanceAs (Decidable (∃ p ∈ wire, _))
  | .runTask _ | .nodeShutdown _ | .resumeShutdown | .timerFires _ | .e42Setup _ _
  | .xappShutdown _ | .forwardDelete _ => .isTrue trivial

def AgentHears (wire : List Packet) (a : SctpInfo) : AgentEvent → Prop
  | .subscriptionRequest _ sr _ => ∃ p ∈ wire, p.toNode = some (a, .subscription sr.ricId)
  | .subscriptionDelete ricId => ∃ p ∈ wire, p.toNode = some (a, .subscriptionDelete ricId)
  | .setupResponse => ∃ p ∈ wire, p.answersSetup a = true
  | _ => True

instance (wire : List Packet) (a : SctpInfo) : (e : AgentEvent) → Decidable (AgentHears wire a e)
  | .subscriptionRequest .. | .subscriptionDelete _ | .setupResponse =>
      inferInstanceAs (Decidable (∃ p ∈ wire, _))
  | .start _ | .ricShutdown _ | .timerFires _ _ | .asyncEvent _ _ | .produce _ | .wake | .report _
  | .readPipe => .isTrue trivial

def answersFor (a : SctpInfo) (msg : E42Msg) (p : Packet) : Bool :=
  match p.toXapp with
  | some (info, .ricMsg ans) => info = a && msg.answeredBy ans
  | _ => false

def XappHears (wire : List Packet) (a : SctpInfo) : ProcEvent → Prop
  | .xapp (.answer msg) => ∃ p ∈ wire, answersFor a msg p = true
  | .indication ind => ∃ p ∈ wire, p.toXapp = some (a, .ricMsg (.indication ind.ricId))
  | _ => True

instance (wire : List Packet) (a : SctpInfo) : (e : ProcEvent) → Decidable (XappHears wire a e)
  | .xapp (.answer _) => inferInstanceAs (Decidable (∃ p ∈ wire, _))
  | .indication _ => inferInstanceAs (Decidable (∃ p ∈ wire, _))
  | .xapp (.report ..) | .xapp (.rmReport _) | .xapp (.control ..) | .xapp (.runCall ..)
  | .xapp .resumeAnswer => .isTrue trivial

def Enabled (d : Deployment) : DeploymentEvent → Prop
  | .ric e => d.ric.Enabled e ∧ RicHears d.wire e
  | .agent a e => (d.agents a).Enabled e ∧ AgentHears d.wire a e
  | .agentControl a ricId =>
      (d.agents a).Waiting ∧ ∃ p ∈ d.wire, p.toNode = some (a, .control ricId)
  -- "connected" is set by the first answer, and the others are ignored.
  | .xappStarts a xappId nodes =>
      d.xapps a = none ∧ ∃ p ∈ d.wire, p.toXapp = some (a, .e42SetupResponse xappId nodes)
  | .xapp a e => ∃ xapp ∈ d.xapps a, ActiveProcedures.OpenTo xapp e ∧ XappHears d.wire a e

instance (d : Deployment) : (e : DeploymentEvent) → Decidable (d.Enabled e)
  | .ric _ | .agent _ _ | .agentControl _ _ => inferInstanceAs (Decidable (_ ∧ _))
  | .xappStarts a _ _ =>
      have : Decidable (d.xapps a = none) :=
        decidable_of_iff ((d.xapps a).isNone = true) Option.isNone_iff_eq_none
      inferInstanceAs (Decidable (_ ∧ _))
  | .xapp a e =>
      inferInstanceAs (Decidable (∃ xapp ∈ d.xapps a,
        ActiveProcedures.OpenTo xapp e ∧ XappHears d.wire a e))

/-- What an xApp puts on the wire. -/
def requested (a : SctpInfo) : ProcOutput π → Option Packet
  | .sent msg => some (.xapp a msg)
  | _ => none

def init (inst : Installation π) : Deployment where
  ric := initRic inst.ricPlugin
  agents := fun a => e2InitAgent (inst.agentPlugin a) (inst.node a) inst.compConfAdd
  xapps := fun _ => none
  wire := []

def step (inst : Installation π) (d : Deployment) :
    DeploymentEvent → Checked (Deployment × DeploymentOutput π)
  | .ric e => do
      let (ric, out) ← d.ric.step e
      pure ({ d with ric := ric, wire := out.map .ric ++ d.wire }, .ric out)
  | .agent a e => do
      let (ag, out) ← (d.agents a).step e
      pure ({ d with agents := Function.update d.agents a ag,
                     wire := out.map (.agent a) ++ d.wire }, .agent out)
  | .agentControl a ricId => do
      let ack ← e2apHandleControlRequestAgent (d.agents a) ricId
      pure ({ d with wire := .controlAck a ack :: d.wire }, .controlAck ack)
  | .xappStarts a xappId _ =>
      pure ({ d with xapps := Function.update d.xapps a
                      (some (initE42Xapp inst.xappPlugin xappId)) }, .started)
  | .xapp a e =>
      match d.xapps a with
      | none => pure (d, .xapp [])
      | some xapp => do
          let (xapp, out) ← ActiveProcedures.step inst.onIndication xapp e
          pure ({ d with xapps := Function.update d.xapps a (some xapp),
                         wire := out.filterMap (requested a) ++ d.wire }, .xapp out)

def machine (inst : Installation π) :
    Machine Deployment DeploymentEvent Assertion (DeploymentOutput π) where
  init := init inst
  enabled := Enabled
  step := step inst

instance (inst : Installation π) (d : Deployment) (e : DeploymentEvent) :
    Decidable ((machine inst).enabled d e) :=
  inferInstanceAs (Decidable (d.Enabled e))

abbrev Event (π : Type) := Entry Deployment DeploymentEvent (DeploymentOutput π)

abbrev History (π : Type) := List (Event π)

/-- One node and one service model. -/
def lab : Installation Unit where
  ricPlugin := [2]
  agentPlugin := fun _ => [2]
  xappPlugin := [2]
  node := fun _ => Ric.gnb
  compConfAdd := [.f1 5]
  onIndication := fun _ _ => ⟨.kpmStatsV3_0, ()⟩

def labRequest : E42Request := ⟨7, Ric.gnb, Ric.localId⟩

/-- The node and an xApp set up, and a user of the xApp subscribes. -/
def subscribe : List DeploymentEvent :=
  [.agent Ric.gnbAddr (.start 10)] ++ (Ric.setup Ric.gnb Ric.gnbAddr).map .ric ++
    [.agent Ric.gnbAddr .setupResponse, .ric (.e42Setup 1 Ric.xappAddr),
      .xappStarts Ric.xappAddr 7 [Ric.gnb],
      .xapp Ric.xappAddr (.xapp (.report Ric.gnb 2 5))] ++
    [30, 0, 0].map (fun fd => .xapp Ric.xappAddr (.xapp (.runCall 0 fd))) ++
    [.ric (.e42Subscription 20 labRequest),
      .agent Ric.gnbAddr (.subscriptionRequest 11 (E2Agent.reportRequest 1021 2) (.periodic 1000))]

/-- What a node sent goes through the RIC. -/
def pass (msg : RicMsg) : List DeploymentEvent :=
  [.ric (.ricMsg msg), .ric (.runTask 0), .ric (.runTask 0), .ric (.runTask 0)]

/-- The answer comes back. -/
def confirm : List DeploymentEvent :=
  pass (.subscriptionResponse ⟨⟨1021, 0, 2⟩, [0], 0⟩) ++
    [.xapp Ric.xappAddr (.xapp (.answer (.ricSubscriptionRequest labRequest)))]

/-- And then an indication. -/
def indicate : List DeploymentEvent :=
  List.replicate 3 (.xapp Ric.xappAddr (.xapp .resumeAnswer)) ++
    [.agent Ric.gnbAddr (.timerFires 11 true)] ++ pass (.indication ⟨1021, 0, 2⟩) ++
    [.xapp Ric.xappAddr (.indication ⟨Ric.localId, []⟩)]

end Deployment

end FlexRic
