import FlexRic.Library.Machine
import FlexRic.Library.Threads
import FlexRic.Ric.Iapp

/-! # The RIC as a system

Three kinds of threads share the state. The near-RIC's loop takes messages and
notifications off the network and hands every message to a task; the tasks run
in parallel, in any order; the iApp's loop serves the xApps. A task, a shutdown
notification and a delete are several critical sections long, and each section
is a step of its own, so that a run may interleave them as the threads do.
-/

namespace FlexRic

open Assertion

/-- `sctp_msg_arrived_event`, at the section that it runs next. -/
inductive Task where
  | regSockAddr (req : E2SetupRequest) (info : SctpInfo)
  | addE2Node (req : E2SetupRequest) (info : SctpInfo)
  | connectE2Node (req : E2SetupRequest) (info : SctpInfo)
  | handle (msg : RicMsg)
  | lookUp (msg : RicMsg)
  | forward (msg : RicMsg) (x : XappRicId)
  | remove (x : XappRicId)
  deriving DecidableEq

/-- What is left to do of a shutdown notification. -/
inductive Leaving where
  | disconnect (id : GlobalE2NodeId)
  | unregister (id : GlobalE2NodeId)
  deriving DecidableEq

structure Ric where
  ric : NearRic
  iapp : E42Iapp
  tasks : List Task
  /-- The rest of the notification that the near-RIC's loop is handling. -/
  leaving : Option Leaving
  /-- The deletes that the iApp's loop has still to forward. -/
  deletes : List Delete

inductive RicEvent where
  /-- A setup request reaches the near-RIC's loop. -/
  | setupRequest (req : E2SetupRequest) (info : SctpInfo)
  /-- Another message of an E2 node reaches it. -/
  | ricMsg (msg : RicMsg)
  /-- Task number `i` runs its next section. -/
  | runTask (i : Nat)
  /-- The association with an E2 node shuts down. -/
  | nodeShutdown (info : SctpInfo)
  /-- The loop goes on with the shutdown notification. -/
  | resumeShutdown
  /-- An armed timer fires. -/
  | timerFires (fd : Fd)
  | e42Setup (lenRf : Nat) (info : SctpInfo)
  | e42Subscription (fd : Fd) (req : E42Request)
  | e42Control (fd : Fd) (req : E42Request)
  | e42Delete (xappId : UInt16) (ricId : RicGenId)
  /-- The association with an xApp shuts down. -/
  | xappShutdown (info : SctpInfo)
  /-- The iApp's loop forwards the next delete. -/
  | forwardDelete (fd : Fd)
  deriving DecidableEq

def initRic (plugin : List UInt16) : Ric where
  ric := initNearRic plugin
  iapp := initE42Iapp
  tasks := []
  leaving := none
  deletes := []

namespace Ric

/-- The system may open this descriptor next. -/
def FreshFd (s : Ric) (fd : Fd) : Prop := 0 < fd ∧ fd ∉ s.ric.timers

instance (s : Ric) (fd : Fd) : Decidable (s.FreshFd fd) := inferInstanceAs (Decidable (_ ∧ _))

def Enabled (s : Ric) : RicEvent → Prop
  | .setupRequest _ _ => s.leaving = none
  | .ricMsg _ => s.leaving = none
  | .runTask i => i < s.tasks.length
  | .nodeShutdown _ => s.leaving = none
  | .resumeShutdown => s.leaving ≠ none
  | .timerFires fd => s.leaving = none ∧ fd ∈ s.ric.timers
  | .e42Setup _ _ => s.deletes = []
  | .e42Subscription fd _ => s.deletes = [] ∧ s.FreshFd fd
  | .e42Control fd _ => s.deletes = [] ∧ s.FreshFd fd
  | .e42Delete _ _ => s.deletes = []
  | .xappShutdown _ => s.deletes = []
  | .forwardDelete fd => s.deletes ≠ [] ∧ s.FreshFd fd

instance (s : Ric) : (e : RicEvent) → Decidable (s.Enabled e)
  | .setupRequest _ _ => inferInstanceAs (Decidable (s.leaving = none))
  | .ricMsg _ => inferInstanceAs (Decidable (s.leaving = none))
  | .runTask i => inferInstanceAs (Decidable (i < s.tasks.length))
  | .nodeShutdown _ => inferInstanceAs (Decidable (s.leaving = none))
  | .resumeShutdown => inferInstanceAs (Decidable (s.leaving ≠ none))
  | .timerFires fd => inferInstanceAs (Decidable (s.leaving = none ∧ fd ∈ s.ric.timers))
  | .e42Setup _ _ => inferInstanceAs (Decidable (s.deletes = []))
  | .e42Subscription fd _ => inferInstanceAs (Decidable (s.deletes = [] ∧ s.FreshFd fd))
  | .e42Control fd _ => inferInstanceAs (Decidable (s.deletes = [] ∧ s.FreshFd fd))
  | .e42Delete _ _ => inferInstanceAs (Decidable (s.deletes = []))
  | .xappShutdown _ => inferInstanceAs (Decidable (s.deletes = []))
  | .forwardDelete fd => inferInstanceAs (Decidable (s.deletes ≠ [] ∧ s.FreshFd fd))

/-- What a section of a task does: the shared state after it, the rest of the
    task, and what it sent. -/
def runTask (ric : NearRic) (iapp : E42Iapp) :
    Task → Checked (NearRic × E42Iapp × Option Task × List Sent)
  | .regSockAddr req info =>
      pure (e2apRegSockAddrRic ric req.id info, iapp, some (.addE2Node req info), [])
  | .addE2Node req info => do
      let iapp ← addE2NodeIapp iapp req
      pure (ric, iapp, some (.connectE2Node req info), [])
  | .connectE2Node req info => do
      let (resp, ric) ← FlexRic.connectE2Node ric req
      pure (ric, iapp, none, [.setupResponse info resp])
  | .handle msg => do
      let ric ← e2apMsgHandleRic ric msg
      pure (ric, iapp, some (.lookUp msg), [])
  | .lookUp msg => do
      let x ← FlexRic.lookUp iapp msg
      pure (ric, iapp, x.map (.forward msg), [])
  | .forward msg x => do
      let sent ← FlexRic.forward iapp msg x
      let rest := if (e2apMsgHandleIapp msg).removes then some (.remove x) else none
      pure (ric, iapp, rest, [sent])
  | .remove x => do
      let iapp ← FlexRic.remove iapp x
      pure (ric, iapp, none, [])

/-- A section of the shutdown notification after the first. -/
def runLeaving (ric : NearRic) (iapp : E42Iapp) :
    Leaving → Checked (NearRic × E42Iapp × Option Leaving)
  | .disconnect id => do
      let ric ← disconnectE2Node ric id
      pure (ric, iapp, some (.unregister id))
  | .unregister id => do
      let iapp ← rmE2NodeIapp iapp id
      pure (ric, iapp, none)

def step (s : Ric) : RicEvent → Checked (Ric × List Sent)
  | .setupRequest req info => pure ({ s with tasks := s.tasks ++ [.regSockAddr req info] }, [])
  | .ricMsg msg => pure ({ s with tasks := s.tasks ++ [.handle msg] }, [])
  | .runTask i =>
      match s.tasks[i]? with
      | none => pure (s, [])
      | some task => do
          let (ric, iapp, rest, sent) ← runTask s.ric s.iapp task
          pure ({ s with ric := ric, iapp := iapp, tasks := advance s.tasks i rest }, sent)
  | .nodeShutdown info => do
      let (id, ric) ← e2apRmSockAddrRic s.ric info
      pure ({ s with ric := ric, leaving := some (.disconnect id) }, [])
  | .resumeShutdown =>
      match s.leaving with
      | none => pure (s, [])
      | some leaving => do
          let (ric, iapp, rest) ← runLeaving s.ric s.iapp leaving
          pure ({ s with ric := ric, iapp := iapp, leaving := rest }, [])
  | .timerFires fd => do
      let _ ← pendingEventRic s.ric fd
      pure (s, [])
  | .e42Setup lenRf info => do
      let (iapp, sent) ← e2apHandleE42SetupRequestIapp s.iapp lenRf info
      pure ({ s with iapp := iapp }, [sent])
  | .e42Subscription fd req => do
      let (ric, iapp, sent) ← e2apHandleE42RicSubscriptionRequestIapp s.ric s.iapp fd req
      pure ({ s with ric := ric, iapp := iapp }, [sent])
  | .e42Control fd req => do
      let (ric, iapp, sent) ← e2apHandleE42RicControlRequestIapp s.ric s.iapp fd req
      pure ({ s with ric := ric, iapp := iapp }, [sent])
  | .e42Delete xappId ricId => do
      let d ← e2apHandleE42RicSubscriptionDeleteRequestIapp s.iapp xappId ricId
      pure ({ s with deletes := [d] }, [])
  | .xappShutdown info => do
      let deletes ← rmIfPendingSubs s.iapp info
      pure ({ s with deletes := deletes }, [])
  | .forwardDelete fd =>
      match s.deletes with
      | [] => pure (s, [])
      | d :: deletes => do
          let (ric, sent) ← fwdRicSubscriptionRequestDelete s.ric fd d.id d.ricId
          pure ({ s with ric := ric, deletes := deletes }, sent)

/-- The system, started with these service models. -/
def machine (plugin : List UInt16) : Machine Ric RicEvent Assertion (List Sent) where
  init := initRic plugin
  enabled := Enabled
  step := step

instance (plugin : List UInt16) (s : Ric) (e : RicEvent) :
    Decidable ((machine plugin).enabled s e) :=
  inferInstanceAs (Decidable (s.Enabled e))

def gnb : GlobalE2NodeId where
  type := .gNB
  plmn := ⟨505, 1, 2⟩
  nbId := ⟨1, 4⟩
  cuDuId := none
  split := NgranNode.gNB_whole

def gnbAddr : SctpInfo := ⟨4000, 1, 2, 1⟩

def xappAddr : SctpInfo := ⟨5000, 1, 2, 2⟩

def otherXappAddr : SctpInfo := ⟨5001, 1, 2, 3⟩

/-- The id that every xApp gives its first request. -/
def localId : RicGenId := ⟨1, 0, 2⟩

/-- A node sets up, and its task runs to the end. -/
def setup (id : GlobalE2NodeId) (info : SctpInfo) : List RicEvent :=
  [.setupRequest ⟨0, id, [2], [.f1 5]⟩ info, .runTask 0, .runTask 0, .runTask 0]

end Ric

end FlexRic
