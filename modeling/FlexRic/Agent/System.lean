import FlexRic.Agent.E2Agent
import FlexRic.Library.Machine

/-! # The agent as a system

One loop serves the network, the timers and the pipe, one event at a time; the
threads of the RAN produce indications whenever they like. The loop waits for
its next event only when it is done with the array of aperiodic events that it
took last, and while it reads from an empty pipe it does not move.
-/

namespace FlexRic

open Assertion

inductive AgentEvent where
  | start (fd : Fd)
  | subscriptionRequest (fd : Fd) (sr : RicSubscriptionRequest) (subs : SmAgIfAnsSubs)
  | subscriptionDelete (ricId : RicGenId)
  | setupResponse
  /-- The association with the near-RIC shuts down. -/
  | ricShutdown (fd : Fd)
  | timerFires (fd : Fd) (hasValue : Bool)
  /-- A thread of the RAN has an indication for this request. -/
  | asyncEvent (ricReqId : UInt32) (indData : UInt64)
  /-- Producer number `i` runs its next section. -/
  | produce (i : Nat)
  /-- The loop is told that the pipe is readable. -/
  | wake
  /-- The loop reports the next event of its array. -/
  | report (hasValue : Bool)
  /-- The loop's read from the pipe returns. -/
  | readPipe
  deriving DecidableEq

namespace E2Agent

/-- The system may open this descriptor next. -/
def FreshFd (ag : E2Agent) (fd : Fd) : Prop := 0 < fd ∧ fd ∉ ag.timers

instance (ag : E2Agent) (fd : Fd) : Decidable (ag.FreshFd fd) :=
  inferInstanceAs (Decidable (_ ∧ _))

/-- The loop waits for an event. -/
def Waiting (ag : E2Agent) : Prop := ag.started = true ∧ ag.chan.loop = .idle

instance (ag : E2Agent) : Decidable ag.Waiting := inferInstanceAs (Decidable (_ ∧ _))

def Reporting (ag : E2Agent) : Prop := ∃ e rest, ag.chan.loop = .report e rest

instance (ag : E2Agent) : Decidable ag.Reporting :=
  match loop : ag.chan.loop with
  | .report e rest => .isTrue ⟨e, rest, loop⟩
  | .idle => .isFalse fun ⟨_, _, h⟩ => nomatch loop.symm.trans h
  | .read _ => .isFalse fun ⟨_, _, h⟩ => nomatch loop.symm.trans h

def Reading (ag : E2Agent) : Prop := ∃ rest, ag.chan.loop = .read rest

instance (ag : E2Agent) : Decidable ag.Reading :=
  match loop : ag.chan.loop with
  | .read rest => .isTrue ⟨rest, loop⟩
  | .idle => .isFalse fun ⟨_, h⟩ => nomatch loop.symm.trans h
  | .report _ _ => .isFalse fun ⟨_, h⟩ => nomatch loop.symm.trans h

def Enabled (ag : E2Agent) : AgentEvent → Prop
  | .start fd => ag.started = false ∧ ag.FreshFd fd
  | .subscriptionRequest fd _ _ => ag.Waiting ∧ ag.FreshFd fd
  | .subscriptionDelete _ => ag.Waiting
  | .setupResponse => ag.Waiting
  | .ricShutdown fd => ag.Waiting ∧ ag.FreshFd fd
  | .timerFires fd _ => ag.Waiting ∧ fd ∈ ag.timers
  | .asyncEvent _ _ => True
  | .produce i => i < ag.chan.producers.length
  | .wake => ag.Waiting ∧ ag.chan.edge = true ∧ ag.chan.pipe ≠ []
  | .report _ => ag.Reporting
  | .readPipe => ag.Reading ∧ ag.chan.pipe ≠ []

instance (ag : E2Agent) : (e : AgentEvent) → Decidable (ag.Enabled e)
  | .start _ => inferInstanceAs (Decidable (_ ∧ _))
  | .subscriptionRequest _ _ _ => inferInstanceAs (Decidable (_ ∧ _))
  | .subscriptionDelete _ => inferInstanceAs (Decidable ag.Waiting)
  | .setupResponse => inferInstanceAs (Decidable ag.Waiting)
  | .ricShutdown _ => inferInstanceAs (Decidable (_ ∧ _))
  | .timerFires _ _ => inferInstanceAs (Decidable (_ ∧ _))
  | .asyncEvent _ _ => .isTrue trivial
  | .produce i => inferInstanceAs (Decidable (i < ag.chan.producers.length))
  | .wake => inferInstanceAs (Decidable (_ ∧ _ ∧ _))
  | .report _ => inferInstanceAs (Decidable ag.Reporting)
  | .readPipe => inferInstanceAs (Decidable (_ ∧ _))

def step (ag : E2Agent) : AgentEvent → Checked (E2Agent × List AgentMsg)
  | .start fd => e2StartAgent ag fd
  | .subscriptionRequest fd sr subs => e2apHandleSubscriptionRequestAgent ag fd sr subs
  | .subscriptionDelete ricId => e2apHandleSubscriptionDeleteRequestAgent ag ricId
  | .setupResponse => do
      let ag ← e2apHandleSetupResponseAgent ag
      pure (ag, [])
  | .ricShutdown fd => do
      let ag ← notificationHandleAg ag fd
      pure (ag, [])
  | .timerFires fd hasValue => timerEventAgent ag fd hasValue
  | .asyncEvent ricReqId indData => do
      let ag ← e2AsyncEventAgent ag ricReqId indData
      pure (ag, [])
  | .produce i => pure ({ ag with chan := ag.chan.produce i }, [])
  | .wake => do
      let chan ← ag.chan.aindEvent
      pure ({ ag with chan := chan }, [])
  | .report hasValue => pure (reportAindEvent ag hasValue)
  | .readPipe => do
      let chan ← ag.chan.readPipe
      pure ({ ag with chan := chan }, [])

abbrev History := List (Entry E2Agent AgentEvent (List AgentMsg))

/-- The agent of this node, with these service models. -/
def machine (plugin : List UInt16) (ge2nid : GlobalE2NodeId) (compConfAdd : List NodeCompId) :
    Machine E2Agent AgentEvent Assertion (List AgentMsg) where
  init := e2InitAgent plugin ge2nid compConfAdd
  enabled := Enabled
  step := step

instance (plugin : List UInt16) (ge2nid : GlobalE2NodeId) (compConfAdd : List NodeCompId)
    (ag : E2Agent)
    (e : AgentEvent) : Decidable ((machine plugin ge2nid compConfAdd).enabled ag e) :=
  inferInstanceAs (Decidable (ag.Enabled e))

def node : GlobalE2NodeId where
  type := .gNB
  plmn := ⟨505, 1, 2⟩
  nbId := ⟨1, 4⟩
  cuDuId := none
  split := NgranNode.gNB_whole

/-- A subscription for one report of this RAN function. -/
def reportRequest (ricReqId : UInt32) (ranFuncId : UInt16) : RicSubscriptionRequest :=
  ⟨⟨ricReqId, 0, ranFuncId⟩, [⟨0, .report⟩]⟩

end E2Agent

end FlexRic
