import FlexRic.Agent.Channel
import FlexRic.E2ap.Messages
import FlexRic.Util.BiMap

/-! # The agent

The agent of an E2 node keeps its subscriptions and its pending setup requests
in two-way maps under the descriptors of their timers. A subscription without a
timer is entered under descriptor zero.
-/

namespace FlexRic

open Assertion

/-- `subscription_ans_e`. -/
inductive SubscriptionAns where
  | periodic
  | aperiodic
  deriving DecidableEq, Repr

/-- `sm_ag_if_ans_subs_t`, what a service model answers to a subscription. -/
inductive SmAgIfAnsSubs where
  | periodic (ms : Int)
  | aperiodic
  deriving DecidableEq, Repr

/-- `ind_event_t`. The service model is known by its RAN function. -/
structure IndEvent where
  ricId : RicGenId
  sm : UInt16
  actionId : UInt8
  type : SubscriptionAns
  deriving DecidableEq, Repr

def cmpIndEvent : Comparator IndEvent := cmpRicGenId.on IndEvent.ricId

@[simp] theorem cmpIndEvent_ties {m0 m1 : IndEvent} :
    cmpIndEvent.Ties m0 m1 ↔ m0.ricId = m1.ricId := by
  simp [cmpIndEvent]

def eqIndEvent (ricId : RicGenId) (indEv : IndEvent) : Bool := eqRicGenId ricId indEv.ricId

def eqIndEventRicReqId (ricReqId : UInt32) (indEv : IndEvent) : Bool :=
  ricReqId = indEv.ricId.ricReqId

/-- `e2_agent_t`. -/
structure E2Agent where
  indEvent : BiMap cmpFd cmpIndEvent
  pending : BiMap cmpFd cmpPendingEvent
  /-- The timers that `io` watches. -/
  timers : List Fd
  /-- The RAN function ids of the loaded service models. -/
  plugin : List UInt16
  globalE2NodeId : GlobalE2NodeId
  /-- The number of component configurations that `read_setup_ran` yields. -/
  compConfAdd : List NodeCompId
  transIdSetupReq : UInt32
  chan : Channel
  /-- `e2_start_agent` has entered the loop. -/
  started : Bool

def e2InitAgent (plugin : List UInt16) (ge2nid : GlobalE2NodeId)
    (compConfAdd : List NodeCompId) : E2Agent where
  indEvent := .init
  pending := .init
  timers := []
  plugin := plugin
  globalE2NodeId := ge2nid
  compConfAdd := compConfAdd
  transIdSetupReq := 0
  chan := .init
  started := false

/-- `create_timer_ms_asio_agent`, given the descriptor that the system opened. -/
def createTimerMsAsioAgent (ag : E2Agent) (fd : Fd) (ms : Int) : Checked E2Agent := do
  check (-1 < ms) intervalNegative
  pure { ag with timers := fd :: ag.timers }

def rmFdAsioAgent (ag : E2Agent) (fd : Fd) : Checked E2Agent := do
  check (fd ∈ ag.timers) epollCtl
  pure { ag with timers := ag.timers.erase fd }

/-- The counter has 32 bits, the transaction id in the message 8. -/
def genSetupRequest (ag : E2Agent) : Checked (E2SetupRequest × E2Agent) := do
  check (0 < ag.plugin.length) noRanFunc
  pure ({ transId := ag.transIdSetupReq.toUInt8, id := ag.globalE2NodeId,
          ranFuncItem := ag.plugin, compConfAdd := ag.compConfAdd },
    { ag with transIdSetupReq := ag.transIdSetupReq + 1 })

/-- A setup request becomes pending, under a timer of three seconds. -/
def pendSetupRequest (ag : E2Agent) (fd : Fd) : Checked E2Agent := do
  let ag ← createTimerMsAsioAgent ag fd 3000
  pure { ag with pending := ag.pending.insert fd .setupRequest }

/-- `e2_start_agent`, up to the loop. -/
def e2StartAgent (ag : E2Agent) (fd : Fd) : Checked (E2Agent × List AgentMsg) := do
  let (sr, ag) ← genSetupRequest ag
  let ag ← pendSetupRequest ag fd
  pure ({ ag with started := true }, [.setupRequest sr])

/-- `notification_handle_ag`: a setup request becomes pending, but none is sent. -/
def notificationHandleAg (ag : E2Agent) (fd : Fd) : Checked E2Agent := pendSetupRequest ag fd

def stopPendingEventAgent (ag : E2Agent) (event : PendingEvent) : Checked E2Agent := do
  let (fd, pending) ← ag.pending.extractRight event
  check (0 < fd) fdPositive
  rmFdAsioAgent { ag with pending := pending } fd

/-- `e2ap_handle_setup_response_agent`. The transaction id of the response is
    printed and not compared. -/
def e2apHandleSetupResponseAgent (ag : E2Agent) : Checked E2Agent := do
  let ag ← stopPendingEventAgent ag .setupRequest
  check (0 < ag.transIdSetupReq) setupNotRequested
  pure { ag with transIdSetupReq := 0 }

def supportedRicSubscriptionRequest (sr : RicSubscriptionRequest) : Checked RicAction :=
  match sr.action with
  | [action] => do
      check (action.type = .report) reportOnly
      pure action
  | _ => .error oneActionOnly

/-- `sm_plugin_ag`. -/
def smPluginAg (ag : E2Agent) (ranFuncId : UInt16) : Checked UInt16 := do
  check (0 < ranFuncId) reservedRanFunc
  check (ranFuncId ∈ ag.plugin) ranFuncNotFound
  pure ranFuncId

/-- The entry that registers a subscription, given the answer of the service
    model and the descriptor that the system opens if a timer is created. -/
def registerIndEvent (ag : E2Agent) (fd : Fd) (ricId : RicGenId) (sm : UInt16) (actionId : UInt8) :
    SmAgIfAnsSubs → Checked E2Agent
  | .periodic ms => do
      check (ms < 10001) granularity
      let ag ← createTimerMsAsioAgent ag fd ms
      pure { ag with indEvent := ag.indEvent.insert fd ⟨ricId, sm, actionId, .periodic⟩ }
  | .aperiodic =>
      pure { ag with indEvent := ag.indEvent.insert 0 ⟨ricId, sm, actionId, .aperiodic⟩ }

theorem registerIndEvent_periodic {agent ag : E2Agent} {fd : Fd} {ricId : RicGenId} {sm : UInt16}
    {actionId : UInt8} {ms : Int}
    (registered : registerIndEvent agent fd ricId sm actionId (.periodic ms) = .ok ag) :
    ms < 10001 := by
  obtain ⟨_, short, -⟩ := bind_eq_ok.mp registered
  exact check_eq_ok.mp short

theorem registerIndEvent_ok (agent : E2Agent) (fd : Fd) (ricId : RicGenId) (sm : UInt16)
    (actionId : UInt8) {ms : Int} (least : -1 < ms) (short : ms < 10001) :
    ∃ ag, registerIndEvent agent fd ricId sm actionId (.periodic ms) = .ok ag := by
  simp only [registerIndEvent, createTimerMsAsioAgent, check_pass _ least, check_pass _ short,
    ok_bind]
  exact ⟨_, rfl⟩

def e2apHandleSubscriptionRequestAgent (ag : E2Agent) (fd : Fd) (sr : RicSubscriptionRequest)
    (subs : SmAgIfAnsSubs) : Checked (E2Agent × List AgentMsg) := do
  let action ← supportedRicSubscriptionRequest sr
  let sm ← smPluginAg ag sr.ricId.ranFuncId
  let ag ← registerIndEvent ag fd sr.ricId sm action.id subs
  pure (ag, [.subscriptionResponse { ricId := sr.ricId, admitted := [action.id], lenNa := 0 }])

/-- Descriptor zero is that of every aperiodic subscription. -/
def notAperiodicIndEvent (fd : Fd) : Bool := fd ≠ 0

def rmIndEventFd (ag : E2Agent) (fd : Fd) : Checked E2Agent :=
  if notAperiodicIndEvent fd then rmFdAsioAgent ag fd else pure ag

/-- `stop_ind_event`. An unknown subscription is not an error. -/
def stopIndEvent (ag : E2Agent) (id : RicGenId) : Checked (Bool × E2Agent) :=
  match ag.indEvent.right.findIf (eqIndEvent id) with
  | none => pure (false, ag)
  | some _ => do
      let tmp : IndEvent := { ricId := id, sm := 0, actionId := 0, type := .periodic }
      let (fd, indEvent) ← ag.indEvent.extractRight tmp
      let ag ← rmIndEventFd { ag with indEvent := indEvent } fd
      pure (true, ag)

def e2apHandleSubscriptionDeleteRequestAgent (ag : E2Agent) (ricId : RicGenId) :
    Checked (E2Agent × List AgentMsg) := do
  let (_, ag) ← stopIndEvent ag ricId
  pure (ag, [.subscriptionDeleteResponse ricId])

/-- `ind_event`: the subscription that the descriptor belongs to. -/
def indEventOf (ag : E2Agent) (fd : Fd) : Option IndEvent :=
  (ag.indEvent.left.findIf (· = fd)).map Prod.snd

def pendEventAgent (ag : E2Agent) (fd : Fd) : Checked PendingEvent := do
  let sz ← ag.pending.size
  check (sz = 1) pendingNotOne
  match ag.pending.left.findIf (· = fd) with
  | none => .error fdNotPending
  | some (_, pEv) => pure pEv

/-- The `INDICATION_EVENT` and `PENDING_EVENT` cases of `e2_event_loop_agent`. For
    the first the service model says whether its condition is met. -/
def timerEventAgent (ag : E2Agent) (fd : Fd) (hasValue : Bool) :
    Checked (E2Agent × List AgentMsg) :=
  match indEventOf ag fd with
  | some iEv => pure (ag, if hasValue then [.indication iEv.ricId iEv.actionId] else [])
  | none => do
      let pEv ← pendEventAgent ag fd
      check (pEv = .setupRequest) unforeseenPending
      let (sr, ag) ← genSetupRequest ag
      pure (ag, [.setupRequest sr])

/-- `e2_async_event_agent`, up to the queue. -/
def e2AsyncEventAgent (ag : E2Agent) (ricReqId : UInt32) (indData : UInt64) :
    Checked E2Agent :=
  match ag.indEvent.right.findIf (eqIndEventRicReqId ricReqId) with
  | none => .error ricRequestNotFound
  | some (indEv, _) =>
      let e : AindEvent := ⟨indEv.ricId, indEv.sm, indEv.actionId, indData⟩
      pure { ag with chan := { ag.chan with producers := ag.chan.producers ++ [.push e] } }

/-- The `APERIODIC_INDICATION_EVENT` case, for the next event of the array. -/
def reportAindEvent (ag : E2Agent) (hasValue : Bool) : E2Agent × List AgentMsg :=
  match ag.chan.loop with
  | .report e rest =>
      ({ ag with chan := { ag.chan with loop := .read rest } },
        if hasValue then [.indication e.ricId e.actionId] else [])
  | _ => (ag, [])

end FlexRic
