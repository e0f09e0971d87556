import FlexRic.Agent.System

/-! # What a step of the agent can do

`step_cases` takes a step apart once. The lemmas after it say which timers a
step leaves watched, whatever the run was like before.
-/

namespace FlexRic

open Assertion

namespace E2Agent

/-- The entry of a subscription that was accepted. -/
def subscribed (sr : RicSubscriptionRequest) (action : RicAction) (type : SubscriptionAns) :
    IndEvent :=
  ⟨sr.ricId, sr.ricId.ranFuncId, action.id, type⟩

/-- What a delete searches the right tree for. -/
def sought (ricId : RicGenId) : IndEvent := ⟨ricId, 0, 0, .periodic⟩

/-- The setup request that the agent would send now. -/
def setupRequest (ag : E2Agent) : E2SetupRequest :=
  ⟨ag.transIdSetupReq.toUInt8, ag.globalE2NodeId, ag.plugin, ag.compConfAdd⟩

/-- A request for one report of a loaded service model. -/
structure Supported (ag : E2Agent) (sr : RicSubscriptionRequest) (action : RicAction) : Prop where
  one : sr.action = [action]
  report : action.type = .report
  reserved : 0 < sr.ricId.ranFuncId
  loaded : sr.ricId.ranFuncId ∈ ag.plugin

inductive Step (ag : E2Agent) : AgentEvent → E2Agent → List AgentMsg → Prop where
  | start {fd : Fd} (loaded : 0 < ag.plugin.length) :
      Step ag (.start fd)
        { ag with
          transIdSetupReq := ag.transIdSetupReq + 1
          timers := fd :: ag.timers
          pending := ag.pending.insert fd .setupRequest
          started := true }
        [.setupRequest ag.setupRequest]
  | periodic {fd : Fd} {sr : RicSubscriptionRequest} {ms : Int} {action : RicAction}
      (supported : Supported ag sr action) (long : -1 < ms) (short : ms < 10001) :
      Step ag (.subscriptionRequest fd sr (.periodic ms))
        { ag with
          timers := fd :: ag.timers
          indEvent := ag.indEvent.insert fd (subscribed sr action .periodic) }
        [.subscriptionResponse ⟨sr.ricId, [action.id], 0⟩]
  | aperiodic {fd : Fd} {sr : RicSubscriptionRequest} {action : RicAction}
      (supported : Supported ag sr action) :
      Step ag (.subscriptionRequest fd sr .aperiodic)
        { ag with indEvent := ag.indEvent.insert 0 (subscribed sr action .aperiodic) }
        [.subscriptionResponse ⟨sr.ricId, [action.id], 0⟩]
  | deleteUnknown {ricId : RicGenId}
      (unknown : ag.indEvent.right.findIf (eqIndEvent ricId) = none) :
      Step ag (.subscriptionDelete ricId) ag [.subscriptionDeleteResponse ricId]
  | deletePeriodic {ricId : RicGenId} {fd : Fd} {indEvent : BiMap cmpFd cmpIndEvent}
      (removed : ag.indEvent.extractRight (sought ricId) = .ok (fd, indEvent)) (timer : fd ≠ 0)
      (watched : fd ∈ ag.timers) :
      Step ag (.subscriptionDelete ricId)
        { ag with indEvent := indEvent, timers := ag.timers.erase fd }
        [.subscriptionDeleteResponse ricId]
  | deleteAperiodic {ricId : RicGenId} {indEvent : BiMap cmpFd cmpIndEvent}
      (removed : ag.indEvent.extractRight (sought ricId) = .ok (0, indEvent)) :
      Step ag (.subscriptionDelete ricId) { ag with indEvent := indEvent }
        [.subscriptionDeleteResponse ricId]
  | setupResponse {fd : Fd} {pending : BiMap cmpFd cmpPendingEvent}
      (removed : ag.pending.extractRight .setupRequest = .ok (fd, pending)) (pos : 0 < fd)
      (watched : fd ∈ ag.timers) (sent : 0 < ag.transIdSetupReq) :
      Step ag .setupResponse
        { ag with pending := pending, timers := ag.timers.erase fd, transIdSetupReq := 0 } []
  | ricShutdown {fd : Fd} :
      Step ag (.ricShutdown fd)
        { ag with
          timers := fd :: ag.timers
          pending := ag.pending.insert fd .setupRequest } []
  | indication {fd : Fd} {hasValue : Bool} {iEv : IndEvent} (found : indEventOf ag fd = some iEv) :
      Step ag (.timerFires fd hasValue) ag
        (if hasValue then [.indication iEv.ricId iEv.actionId] else [])
  | resend {fd : Fd} {hasValue : Bool} (none : indEventOf ag fd = none)
      (found : pendEventAgent ag fd = .ok .setupRequest) (loaded : 0 < ag.plugin.length) :
      Step ag (.timerFires fd hasValue)
        { ag with transIdSetupReq := ag.transIdSetupReq + 1 } [.setupRequest ag.setupRequest]
  | asyncEvent {ricReqId : UInt32} {indData : UInt64} {indEv : IndEvent} {fd : Fd}
      (found : ag.indEvent.right.findIf (eqIndEventRicReqId ricReqId) = some (indEv, fd)) :
      Step ag (.asyncEvent ricReqId indData)
        { ag with
          chan := { ag.chan with
            producers := ag.chan.producers ++
              [.push ⟨indEv.ricId, indEv.sm, indEv.actionId, indData⟩] } } []
  | produce (i : Nat) : Step ag (.produce i) { ag with chan := ag.chan.produce i } []
  | wake (some : 0 < ag.chan.aind.length) :
      Step ag .wake
        { ag with
          chan := { ag.chan with
            aind := [], edge := false, loop := Channel.loopOn ag.chan.aind } } []
  | report {hasValue : Bool} {e : AindEvent} {rest : List AindEvent}
      (at_ : ag.chan.loop = .report e rest) :
      Step ag (.report hasValue) { ag with chan := { ag.chan with loop := .read rest } }
        (if hasValue then [.indication e.ricId e.actionId] else [])
  | readPipe {rest : List AindEvent} (at_ : ag.chan.loop = .read rest)
      (rc : (ag.chan.pipe.take 4).length ≠ 1) :
      Step ag .readPipe
        { ag with
          chan := { ag.chan with pipe := ag.chan.pipe.drop 4, loop := Channel.loopOn rest } } []

variable {ag ag' : E2Agent} {e : AgentEvent} {out : List AgentMsg}

theorem supportedRicSubscriptionRequest_eq_ok {sr : RicSubscriptionRequest} {action : RicAction} :
    supportedRicSubscriptionRequest sr = .ok action ↔
      sr.action = [action] ∧ action.type = .report := by
  unfold supportedRicSubscriptionRequest
  split
  · rename_i action' one
    simp only [bind_eq_ok, check_eq_ok, pure_eq_ok, one, List.cons.injEq, and_true]
    constructor
    · rintro ⟨_, report, rfl⟩
      exact ⟨rfl, report⟩
    · rintro ⟨rfl, report⟩
      exact ⟨(), report, rfl⟩
  · rename_i other
    constructor
    · intro h
      cases h
    · intro both
      exact absurd both.1 (other action)

theorem smPluginAg_eq_ok {ranFuncId sm : UInt16} :
    smPluginAg ag ranFuncId = .ok sm ↔ 0 < ranFuncId ∧ ranFuncId ∈ ag.plugin ∧ ranFuncId = sm := by
  simp only [smPluginAg, bind_eq_ok, check_eq_ok, pure_eq_ok]
  constructor
  · rintro ⟨_, reserved, _, loaded, same⟩
    exact ⟨reserved, loaded, same⟩
  · intro both
    obtain ⟨reserved, loaded, same⟩ := both
    exact ⟨(), reserved, (), loaded, same⟩

theorem step_subscriptionRequest {fd : Fd} {sr : RicSubscriptionRequest} {subs : SmAgIfAnsSubs}
    (h : ag.step (.subscriptionRequest fd sr subs) = .ok (ag', out)) :
    Step ag (.subscriptionRequest fd sr subs) ag' out := by
  simp only [step, e2apHandleSubscriptionRequestAgent, bind_eq_ok,
    supportedRicSubscriptionRequest_eq_ok, smPluginAg_eq_ok] at h
  obtain ⟨action, ⟨one, report⟩, _, ⟨reserved, loaded, rfl⟩, _, registered, answered⟩ := h
  have supported : Supported ag sr action := ⟨one, report, reserved, loaded⟩
  simp only [pure_eq_ok, Prod.mk.injEq] at answered
  obtain ⟨rfl, rfl⟩ := answered
  cases subs with
  | periodic ms =>
      simp only [registerIndEvent, createTimerMsAsioAgent, bind_eq_ok, check_eq_ok,
        pure_eq_ok] at registered
      obtain ⟨_, short, _, ⟨_, long, rfl⟩, rfl⟩ := registered
      exact .periodic supported long short
  | aperiodic =>
      simp only [registerIndEvent, pure_eq_ok] at registered
      subst registered
      exact .aperiodic supported

theorem step_subscriptionDelete {ricId : RicGenId}
    (h : ag.step (.subscriptionDelete ricId) = .ok (ag', out)) :
    Step ag (.subscriptionDelete ricId) ag' out := by
  simp only [step, e2apHandleSubscriptionDeleteRequestAgent, stopIndEvent, bind_eq_ok,
    Prod.exists, pure_eq_ok, Prod.mk.injEq] at h
  obtain ⟨_, _, stopped, rfl, rfl⟩ := h
  split at stopped
  · simp only [pure_eq_ok, Prod.mk.injEq] at stopped
    obtain ⟨-, rfl⟩ := stopped
    exact .deleteUnknown ‹_›
  · simp only [rmIndEventFd, notAperiodicIndEvent, decide_eq_true_eq, bind_eq_ok, Prod.exists,
      pure_eq_ok, Prod.mk.injEq] at stopped
    obtain ⟨fd, indEvent, removed, _, closed, -, rfl⟩ := stopped
    split at closed
    · simp only [rmFdAsioAgent, bind_eq_ok, check_eq_ok, pure_eq_ok] at closed
      obtain ⟨_, watched, rfl⟩ := closed
      exact .deletePeriodic removed ‹_› watched
    · rename_i zero
      simp only [pure_eq_ok] at closed
      subst closed
      obtain rfl : fd = 0 := by simpa using zero
      exact .deleteAperiodic removed

theorem step_timerFires {fd : Fd} {hasValue : Bool}
    (h : ag.step (.timerFires fd hasValue) = .ok (ag', out)) :
    Step ag (.timerFires fd hasValue) ag' out := by
  simp only [step, timerEventAgent] at h
  split at h
  · simp only [pure_eq_ok, Prod.mk.injEq] at h
    obtain ⟨rfl, rfl⟩ := h
    exact .indication ‹_›
  · simp only [genSetupRequest, bind_eq_ok, check_eq_ok, pure_eq_ok, Prod.exists,
      Prod.mk.injEq] at h
    obtain ⟨_, found, _, rfl, _, _, ⟨_, loaded, rfl, rfl⟩, rfl, rfl⟩ := h
    exact .resend ‹_› found loaded

theorem step_cases (enabled : ag.Enabled e) (h : ag.step e = .ok (ag', out)) :
    Step ag e ag' out := by
  cases e with
  | start fd =>
      simp only [step, e2StartAgent, genSetupRequest, pendSetupRequest, createTimerMsAsioAgent,
        bind_eq_ok, check_eq_ok, pure_eq_ok, Prod.exists, Prod.mk.injEq] at h
      obtain ⟨_, _, ⟨_, loaded, rfl, rfl⟩, _, ⟨_, ⟨_, -, rfl⟩, rfl⟩, rfl, rfl⟩ := h
      exact .start loaded
  | subscriptionRequest fd sr subs => exact step_subscriptionRequest h
  | subscriptionDelete ricId => exact step_subscriptionDelete h
  | setupResponse =>
      simp only [step, e2apHandleSetupResponseAgent, stopPendingEventAgent, rmFdAsioAgent,
        bind_eq_ok, check_eq_ok, pure_eq_ok, Prod.exists, Prod.mk.injEq] at h
      obtain ⟨_, ⟨_, ⟨fd, pending, removed, _, pos, _, watched, rfl⟩, _, sent, rfl⟩, rfl, rfl⟩ := h
      exact .setupResponse removed pos watched sent
  | ricShutdown fd =>
      simp only [step, notificationHandleAg, pendSetupRequest, createTimerMsAsioAgent,
        bind_eq_ok, check_eq_ok, pure_eq_ok, Prod.mk.injEq] at h
      obtain ⟨_, ⟨_, ⟨_, -, rfl⟩, rfl⟩, rfl, rfl⟩ := h
      exact .ricShutdown
  | timerFires fd hasValue => exact step_timerFires h
  | asyncEvent ricReqId indData =>
      simp only [step, e2AsyncEventAgent, bind_eq_ok, pure_eq_ok, Prod.mk.injEq] at h
      obtain ⟨_, pushed, rfl, rfl⟩ := h
      split at pushed
      · cases pushed
      · simp only [pure_eq_ok] at pushed
        subst pushed
        exact .asyncEvent ‹_›
  | produce i =>
      simp only [step, pure_eq_ok, Prod.mk.injEq] at h
      obtain ⟨rfl, rfl⟩ := h
      exact .produce i
  | wake =>
      simp only [step, Channel.aindEvent, bind_eq_ok, check_eq_ok, pure_eq_ok, Prod.mk.injEq] at h
      obtain ⟨_, ⟨_, some, rfl⟩, rfl, rfl⟩ := h
      exact .wake some
  | report hasValue =>
      obtain ⟨e, rest, at_⟩ := enabled
      simp only [step, reportAindEvent, at_, pure_eq_ok, Prod.mk.injEq] at h
      obtain ⟨rfl, rfl⟩ := h
      exact .report at_
  | readPipe =>
      obtain ⟨⟨rest, at_⟩, -⟩ := enabled
      simp only [step, Channel.readPipe, at_, Channel.consumeFdAsync, bind_eq_ok, check_eq_ok,
        pure_eq_ok, Prod.mk.injEq] at h
      obtain ⟨_, ⟨_, rc, rfl⟩, rfl, rfl⟩ := h
      exact .readPipe at_ rc

end E2Agent

end FlexRic
