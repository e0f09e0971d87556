import FlexRic.E2ap.Messages
import FlexRic.Util.AssocReg
import FlexRic.Util.BiMap
import Mathlib.Algebra.Group.Int.Defs

/-! # The xApp

The threads of an xApp call its interface, which registers a procedure, sends a
request and waits; the answer reaches the event loop, which looks the procedure
up, stops the timer of the request and wakes a caller. Registry, pending
requests and the flags that callers wait for each have a lock of their own.
-/

namespace FlexRic

open Assertion

/-- `act_proc_val_e`. -/
inductive ActProcValE where
  | ricSubscriptionProcedureActive
  | ricControlProcedureActive
  deriving DecidableEq, Repr

/-- `act_proc_val_t`. The callback is known by a number, and a control has none. -/
structure ActProcVal where
  type : ActProcValE
  id : RicGenId
  smCb : Option Nat
  e2Node : GlobalE2NodeId
  deriving DecidableEq

abbrev ActProc := AssocReg ActProcVal

def addActProc (p : ActProc) (type : ActProcValE) (id : RicGenId) (e2Node : GlobalE2NodeId)
    (smCb : Option Nat) : Checked (UInt32 × ActProc) :=
  p.pushBack { type := type, id := id, smCb := smCb, e2Node := e2Node }

def rmActProc (p : ActProc) (ricReqId : UInt16) : Checked ActProc := do
  match ← p.findReg ricReqId.toUInt32 with
  | none => .error actProcNotFound
  | some it => pure (p.erase it)

/-- `val->id.ric_req_id = ric_req_id` -/
def ActProcVal.filled (val : ActProcVal) (ricReqId : UInt16) : ActProcVal :=
  { val with id := { val.id with ricReqId := ricReqId.toUInt32 } }

/-- `find_act_proc`. What it finds gets its request id filled in, in the registry too. -/
def findActProc (p : ActProc) (ricReqId : UInt16) : Checked (Option ActProcVal × ActProc) := do
  match ← p.findReg ricReqId.toUInt32 with
  | none => pure (none, p)
  | some it =>
      let p := p.update it (·.filled ricReqId)
      pure (p.arr[it]?.map RegistryBucket.val, p)

/-- `pending_event_xapp_t`. -/
structure PendingEventXapp where
  ev : PendingEvent
  id : RicGenId
  waitMs : Int
  deriving DecidableEq, Repr

def eqPendingEventXapp (m0 m1 : PendingEventXapp) : Bool :=
  m0.ev = m1.ev ∧ eqRicGenId m0.id m1.id

/-- The map compares with `cmp_pending_event`, which reads the first field. -/
def cmpPendingEventXapp : Comparator PendingEventXapp := cmpPendingEvent.on PendingEventXapp.ev

@[simp] theorem cmpPendingEventXapp_ties {m0 m1 : PendingEventXapp} :
    cmpPendingEventXapp.Ties m0 m1 ↔ m0.ev = m1.ev := by
  simp [cmpPendingEventXapp]

@[simp] theorem eqPendingEventXapp_iff {m0 m1 : PendingEventXapp} :
    eqPendingEventXapp m0 m1 ↔ m0.ev = m1.ev ∧ m0.id = m1.id := by
  simp [eqPendingEventXapp]

abbrev PendingEventXappDs := BiMap cmpFd cmpPendingEventXapp

def addPendingEvent (p : PendingEventXappDs) (fd : Fd) (ev : PendingEventXapp) :
    Checked PendingEventXappDs := do
  check (0 < fd) fdPositive
  pure (p.insert fd ev)

def rmPendingEventEv (p : PendingEventXappDs) (ev : PendingEventXapp) :
    Checked (Fd × PendingEventXappDs) := do
  let sz ← p.size
  let (fd, p) ← p.extractRight ev
  let rest ← p.size
  check (sz = rest + 1) pendingSizes
  check (0 < fd) fdPositive
  pure (fd, p)

/-- What a handler keeps of the request that it sends. -/
def pendingEvent : E42Msg → PendingEventXapp
  | .ricSubscriptionRequest req => ⟨.e42RicSubscriptionRequest, req.ricId, 5000⟩
  | .ricSubscriptionDeleteRequest _ ricId => ⟨.e42RicSubscriptionDeleteRequest, ricId, 10000⟩
  | .ricControlRequest req => ⟨.e42RicControlRequest, req.ricId, 10000⟩

/-- `sync_ui_t`. -/
structure SyncUi where
  flagSync : Bool
  msgAck : Bool
  deriving DecidableEq, Repr

def initSyncUi : SyncUi := ⟨false, false⟩

def signalSyncUi (_ : SyncUi) : SyncUi := ⟨true, true⟩

/-- The section that a call runs next. -/
inductive CallStage where
  | createTimer
  | addPending (fd : Fd)
  | send
  /-- `cond_wait_sync_ui`, up to the wait -/
  | condWait
  /-- the wait itself -/
  | blocked
  /-- the last assertion of `cond_wait_sync_ui`, which holds no lock -/
  | msgAck
  | rmActProc
  deriving DecidableEq, Repr

/-- A call of the interface that is on its way, with the request it is about. -/
structure Call where
  msg : E42Msg
  stage : CallStage
  deriving DecidableEq

/-- The section that the event loop runs next, once it has found the procedure
    of an answer. -/
inductive AnswerStage where
  | rmPending (ev : PendingEventXapp)
  | rmFd (fd : Fd)
  | signal
  deriving DecidableEq, Repr

/-- `e42_xapp_t`, as its initialization leaves it, with its threads and the
    requests that are out. -/
structure E42Xapp where
  id : UInt16
  /-- The RAN function ids of `plugin_ric`. -/
  plugin : List UInt16
  /-- The timers that `io` watches. -/
  timers : List Fd
  sync : SyncUi
  pending : PendingEventXappDs
  actProc : ActProc
  calls : List Call
  /-- The rest of the answer that the event loop is handling. -/
  handling : Option AnswerStage
  /-- The requests that were sent and not answered. -/
  inFlight : List E42Msg

def initE42Xapp (plugin : List UInt16) (id : UInt16) : E42Xapp where
  id := id
  plugin := plugin
  timers := []
  sync := initSyncUi
  pending := .init
  actProc := .init
  calls := []
  handling := none
  inFlight := []

namespace E42Xapp

def validRanFuncId (ranFuncId : UInt16) : Bool :=
  ranFuncId ∈ [145, 142, 143, 144, 146, 148, 2, 3]

def smPluginRic (xapp : E42Xapp) (ranFuncId : UInt16) : Checked Unit := do
  check (0 < ranFuncId) reservedRanFunc
  check (ranFuncId ∈ xapp.plugin) ranFuncNotFound

def generateRicGenId (xapp : E42Xapp) (type : ActProcValE) (ranFuncId : UInt16)
    (id : GlobalE2NodeId) (cb : Option Nat) : Checked (RicGenId × E42Xapp) := do
  check (validRanFuncId ranFuncId) invalidRanFuncId
  let (reqId, actProc) ← addActProc xapp.actProc type ⟨0, 0, ranFuncId⟩ id cb
  check (reqId.toNat < 2 ^ 16) ricReqIdOverflow
  pure (⟨reqId, 0, ranFuncId⟩, { xapp with actProc := actProc })

def enter (xapp : E42Xapp) (msg : E42Msg) (stage : CallStage) : E42Xapp :=
  { xapp with calls := xapp.calls ++ [⟨msg, stage⟩] }

/-- The pending event is added and then the request is sent. -/
def e2apHandleE42RicSubscriptionRequestXapp (xapp : E42Xapp) (req : E42Request) : E42Xapp :=
  xapp.enter (.ricSubscriptionRequest req) .createTimer

/-- The request is sent and then the pending event is added. -/
def e2apHandleE42SubscriptionDeleteRequestXapp (xapp : E42Xapp) (ricId : RicGenId) : E42Xapp :=
  xapp.enter (.ricSubscriptionDeleteRequest xapp.id ricId) .send

/-- The request is sent and then the pending event is added. -/
def e2apHandleE42RicControlRequestXapp (xapp : E42Xapp) (req : E42Request) : E42Xapp :=
  xapp.enter (.ricControlRequest req) .send

/-- `report_sm_sync_xapp`, up to the handler of its request. -/
def reportSmSyncXapp (xapp : E42Xapp) (id : GlobalE2NodeId) (rfId : UInt16) (cb : Nat) :
    Checked E42Xapp := do
  let (ricId, xapp) ← xapp.generateRicGenId .ricSubscriptionProcedureActive rfId id (some cb)
  xapp.smPluginRic rfId
  pure (xapp.e2apHandleE42RicSubscriptionRequestXapp ⟨xapp.id, id, ricId⟩)

/-- `rm_report_sm_sync_xapp`, up to the handler of its request. -/
def rmReportSmSyncXapp (xapp : E42Xapp) (ricReqId : Int) : Checked E42Xapp := do
  check (-1 < ricReqId ∧ ricReqId < 2 ^ 16) handleRange
  match ← findActProc xapp.actProc (UInt16.ofInt ricReqId) with
  | (none, _) => .error ricReqIdNotRegistered
  | (some val, actProc) =>
      let xapp := { xapp with actProc := actProc }
      pure (xapp.e2apHandleE42SubscriptionDeleteRequestXapp val.id)

/-- `control_sm_sync_xapp`, up to the handler of its request. -/
def controlSmSyncXapp (xapp : E42Xapp) (id : GlobalE2NodeId) (ranFuncId : UInt16) :
    Checked E42Xapp := do
  check (validRanFuncId ranFuncId) invalidRanFuncId
  let (ricId, xapp) ← xapp.generateRicGenId .ricControlProcedureActive ranFuncId id none
  xapp.smPluginRic ranFuncId
  pure (xapp.e2apHandleE42RicControlRequestXapp ⟨xapp.id, id, ricId⟩)

/-- The handler of a subscription request sends last, the others send first. -/
def sendsLast : E42Msg → Bool
  | .ricSubscriptionRequest _ => true
  | .ricSubscriptionDeleteRequest _ _ | .ricControlRequest _ => false

/-- The next section of a call, with what the call has to do after it and the
    requests that it sends. A timer gets the descriptor that the system opened. -/
def callSection (xapp : E42Xapp) (call : Call) (opened : Fd) :
    Checked (E42Xapp × Option Call × List E42Msg) :=
  match call.stage with
  | .createTimer => do
      check (0 < (pendingEvent call.msg).waitMs) waitMsPositive
      pure ({ xapp with timers := opened :: xapp.timers }, some ⟨call.msg, .addPending opened⟩, [])
  | .addPending fd => do
      let pending ← addPendingEvent xapp.pending fd (pendingEvent call.msg)
      pure ({ xapp with pending := pending },
        some ⟨call.msg, if sendsLast call.msg then .send else .condWait⟩, [])
  | .send =>
      pure ({ xapp with inFlight := xapp.inFlight ++ [call.msg] },
        some ⟨call.msg, if sendsLast call.msg then .condWait else .createTimer⟩, [call.msg])
  | .condWait => pure ({ xapp with sync := initSyncUi }, some ⟨call.msg, .blocked⟩, [])
  | .blocked => pure (xapp, some ⟨call.msg, .msgAck⟩, [])
  | .msgAck => do
      check (xapp.sync.msgAck = true) noMsgAck
      -- The procedure of a subscription stays active.
      pure (xapp, if sendsLast call.msg then none else some ⟨call.msg, .rmActProc⟩, [])
  | .rmActProc => do
      let actProc ← FlexRic.rmActProc xapp.actProc call.msg.ricId.ricReqId.toUInt16
      pure ({ xapp with actProc := actProc }, none, [])

/-- A handler of an answer, up to the first lock that it releases. -/
def handleAnswer (xapp : E42Xapp) (event : PendingEvent) (ricReqId : UInt16) :
    Checked E42Xapp := do
  match ← findActProc xapp.actProc ricReqId with
  | (none, _) => .error ricReqIdNotRegistered
  | (some val, actProc) =>
      let ev : PendingEventXapp := { ev := event, id := val.id, waitMs := 0 }
      pure { xapp with actProc := actProc, handling := some (.rmPending ev) }

def e2apHandleSubscriptionResponseXapp (xapp : E42Xapp) (ricId : RicGenId) : Checked E42Xapp :=
  xapp.handleAnswer .e42RicSubscriptionRequest ricId.ricReqId.toUInt16

def e2apHandleSubscriptionDeleteResponseXapp (xapp : E42Xapp) (ricId : RicGenId) :
    Checked E42Xapp :=
  xapp.handleAnswer .e42RicSubscriptionDeleteRequest ricId.ricReqId.toUInt16

def e2apHandleControlAckXapp (xapp : E42Xapp) (ricId : RicGenId) : Checked E42Xapp :=
  xapp.handleAnswer .e42RicControlRequest ricId.ricReqId.toUInt16

/-- `e2ap_msg_handle_xapp`, for the answer to a request. -/
def e2apMsgHandleXapp (xapp : E42Xapp) : E42Msg → Checked E42Xapp
  | .ricSubscriptionRequest req => xapp.e2apHandleSubscriptionResponseXapp req.ricId
  | .ricSubscriptionDeleteRequest _ ricId => xapp.e2apHandleSubscriptionDeleteResponseXapp ricId
  | .ricControlRequest req => xapp.e2apHandleControlAckXapp req.ricId

def rmFdAsioXapp (xapp : E42Xapp) (fd : Fd) : Checked E42Xapp := do
  check (fd ∈ xapp.timers) epollCtl
  pure { xapp with timers := xapp.timers.erase fd }

/-- The next section of a handler: `rm_pending_event_ev`, `rm_fd_asio_xapp` and
    `signal_sync_ui`, in turn. -/
def answerSection (xapp : E42Xapp) : AnswerStage → Checked E42Xapp
  | .rmPending ev => do
      let (fd, pending) ← rmPendingEventEv xapp.pending ev
      pure { xapp with pending := pending, handling := some (.rmFd fd) }
  | .rmFd fd => do
      let xapp ← xapp.rmFdAsioXapp fd
      pure { xapp with handling := some .signal }
  | .signal => pure { xapp with sync := signalSyncUi xapp.sync, handling := none }

end E42Xapp

end FlexRic
