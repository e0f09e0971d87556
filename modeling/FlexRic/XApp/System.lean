import FlexRic.Library.Machine
import FlexRic.Library.Threads
import FlexRic.XApp.E42Xapp

/-! # The xApp as a system

Any number of threads call the interface at once, each call section by section;
one event loop handles the answers, one at a time and section by section too.
The iApp answers what was sent, in any order and once. A thread that waits goes
on when it sees the flag set, for whomever it was set.
-/

namespace FlexRic

inductive XappEvent where
  | report (id : GlobalE2NodeId) (rfId : UInt16) (cb : Nat)
  | rmReport (ricReqId : Int)
  | control (id : GlobalE2NodeId) (ranFuncId : UInt16)
  /-- Call number `i` runs its next section. A timer gets this descriptor. -/
  | runCall (i : Nat) (opened : Fd)
  /-- The answer to this request reaches the event loop. -/
  | answer (msg : E42Msg)
  /-- The event loop goes on with the answer. -/
  | resumeAnswer
  deriving DecidableEq

namespace E42Xapp

def FreshFd (xapp : E42Xapp) (fd : Fd) : Prop := 0 < fd ∧ fd ∉ xapp.timers

instance (xapp : E42Xapp) (fd : Fd) : Decidable (xapp.FreshFd fd) :=
  inferInstanceAs (Decidable (_ ∧ _))

/-- The section can run: the system opens a fresh descriptor, and a wait goes on
    once the flag is set. -/
def CanRun (xapp : E42Xapp) (opened : Fd) : CallStage → Prop
  | .createTimer => xapp.FreshFd opened
  | .blocked => xapp.sync.flagSync = true
  | _ => True

instance (xapp : E42Xapp) (opened : Fd) : (stage : CallStage) → Decidable (xapp.CanRun opened stage)
  | .createTimer => inferInstanceAs (Decidable (xapp.FreshFd opened))
  | .blocked => inferInstanceAs (Decidable (xapp.sync.flagSync = true))
  | .addPending _ | .send | .condWait | .msgAck | .rmActProc => .isTrue trivial

def Enabled (xapp : E42Xapp) : XappEvent → Prop
  | .report .. | .rmReport .. | .control .. => True
  | .runCall i opened => ∃ call ∈ xapp.calls[i]?, xapp.CanRun opened call.stage
  | .answer msg => xapp.handling = none ∧ msg ∈ xapp.inFlight
  | .resumeAnswer => xapp.handling.isSome

instance (xapp : E42Xapp) : (e : XappEvent) → Decidable (xapp.Enabled e)
  | .report .. | .rmReport .. | .control .. => .isTrue trivial
  | .runCall .. => inferInstanceAs (Decidable (∃ call ∈ _, _))
  | .answer _ => inferInstanceAs (Decidable (_ ∧ _))
  | .resumeAnswer => inferInstanceAs (Decidable (_ = true))

def runCall (xapp : E42Xapp) (i : Nat) (opened : Fd) : Checked (E42Xapp × List E42Msg) :=
  match xapp.calls[i]? with
  | none => pure (xapp, [])
  | some call => do
      let (xapp, rest, sent) ← xapp.callSection call opened
      pure ({ xapp with calls := advance xapp.calls i rest }, sent)

def step (xapp : E42Xapp) : XappEvent → Checked (E42Xapp × List E42Msg)
  | .report id rfId cb => do
      let xapp ← xapp.reportSmSyncXapp id rfId cb
      pure (xapp, [])
  | .rmReport ricReqId => do
      let xapp ← xapp.rmReportSmSyncXapp ricReqId
      pure (xapp, [])
  | .control id ranFuncId => do
      let xapp ← xapp.controlSmSyncXapp id ranFuncId
      pure (xapp, [])
  | .runCall i opened => xapp.runCall i opened
  | .answer msg => do
      let xapp ← xapp.e2apMsgHandleXapp msg
      pure ({ xapp with inFlight := xapp.inFlight.erase msg }, [])
  | .resumeAnswer =>
      match xapp.handling with
      | none => pure (xapp, [])
      | some stage => do
          let xapp ← xapp.answerSection stage
          pure (xapp, [])

abbrev History := List (Entry E42Xapp XappEvent (List E42Msg))

/-- The xApp of this id, with these service models. -/
def machine (plugin : List UInt16) (id : UInt16) :
    Machine E42Xapp XappEvent Assertion (List E42Msg) where
  init := initE42Xapp plugin id
  enabled := Enabled
  step := step

instance (plugin : List UInt16) (id : UInt16) (xapp : E42Xapp) (e : XappEvent) :
    Decidable ((machine plugin id).enabled xapp e) :=
  inferInstanceAs (Decidable (xapp.Enabled e))

def node : GlobalE2NodeId where
  type := .gNB
  plmn := ⟨505, 1, 2⟩
  nbId := ⟨1, 4⟩
  cuDuId := none
  split := NgranNode.gNB_whole

/-- A control request for the node, under this id. -/
def controlRequest (ricReqId : UInt32) : E42Msg := .ricControlRequest ⟨7, node, ⟨ricReqId, 0, 3⟩⟩

/-- A subscription of the node, under this id. -/
def subscriptionRequest (ricReqId : UInt32) : E42Msg :=
  .ricSubscriptionRequest ⟨7, node, ⟨ricReqId, 0, 2⟩⟩

end E42Xapp

end FlexRic
