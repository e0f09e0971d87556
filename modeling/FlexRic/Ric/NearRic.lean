import FlexRic.E2ap.Messages
import FlexRic.Util.BiMap

/-! # The near-RIC

The endpoint's map of node addresses, the list of connected nodes, the counter
of request ids, and the timers of the requests that wait for an answer. Each
function is one stretch of the source that runs under one lock or touches
nothing shared, so that runs may interleave them freely.
-/

namespace FlexRic

open Assertion

/-- `pending_event_ric_t`. -/
structure PendingEventRic where
  ev : PendingEvent
  id : RicGenId
  deriving DecidableEq, Repr

def cmpPendingEventRic : Comparator PendingEventRic :=
  .lex (cmpPendingEvent.on PendingEventRic.ev) (cmpRicGenId.on PendingEventRic.id)

@[simp] theorem cmpPendingEventRic_ties {p1 p2 : PendingEventRic} :
    cmpPendingEventRic.Ties p1 p2 ↔ p1 = p2 := by
  cases p1
  cases p2
  simp only [cmpPendingEventRic, Comparator.lex_ties, Comparator.on_ties, cmpPendingEvent_ties,
    cmpRicGenId_ties, PendingEventRic.mk.injEq]

def eqPendingEventRic (p1 p2 : PendingEventRic) : Bool := cmpPendingEventRic.cmp p1 p2 = 0

@[simp] theorem eqPendingEventRic_iff {p1 p2 : PendingEventRic} :
    eqPendingEventRic p1 p2 ↔ p1 = p2 := by
  rw [← cmpPendingEventRic_ties]
  simp [eqPendingEventRic, Comparator.Ties]

/-- `e2_node_t`. -/
structure E2Node where
  id : GlobalE2NodeId
  accepted : List UInt16
  deriving DecidableEq

abbrev MapE2NodeSad := BiMap cmpGlobalE2NodeId cmpSctpInfo

/-- `near_ric_t`. -/
structure NearRic where
  /-- `req_id`. Its 32 bits wrap around, which the 16 that are used do not notice. -/
  reqId : Nat
  pending : BiMap cmpFd cmpPendingEventRic
  /-- The timers that `io` watches. -/
  timers : List Fd
  /-- `ep.e2_nodes`. -/
  e2Nodes : MapE2NodeSad
  connE2Nodes : List E2Node
  /-- The RAN function ids of the loaded service models. -/
  plugin : List UInt16

def initNearRic (plugin : List UInt16) : NearRic where
  reqId := 1021
  pending := .init
  timers := []
  e2Nodes := .init
  connE2Nodes := []
  plugin := plugin

def addMapE2NodeSad (m : MapE2NodeSad) (id : GlobalE2NodeId) (s : SctpInfo) : MapE2NodeSad :=
  m.insert id s

def rmMapSadE2Node (m : MapE2NodeSad) (s : SctpInfo) : Checked (GlobalE2NodeId × MapE2NodeSad) :=
  m.extractRight s

def findMapE2NodeSad (m : MapE2NodeSad) (id : GlobalE2NodeId) : Checked SctpInfo :=
  match m.left.findIf fun id' => eqGlobalE2NodeId id' id with
  | none => .error e2NodeNotInTree
  | some (_, s) => .ok s

def e2apSendBytesRic (ric : NearRic) (id : GlobalE2NodeId) (msg : NodeRequest) : Checked Sent := do
  let s ← findMapE2NodeSad ric.e2Nodes id
  pure (.toNode id s msg)

/-- `*(uint16_t*)&ric_req_id = n`: only the low half of the field is written. -/
def storeLow16 (ricReqId : UInt32) (n : UInt16) : UInt32 :=
  (ricReqId &&& 0xffff0000) ||| n.toUInt32

/-- `create_timer_ms_asio_ric`, given the descriptor that the system opened. -/
def createTimer (ric : NearRic) (fd : Fd) : NearRic := { ric with timers := fd :: ric.timers }

def addPending (ric : NearRic) (fd : Fd) (ev : PendingEventRic) : NearRic :=
  { createTimer ric fd with pending := ric.pending.insert fd ev }

/-- Forward a request under a fresh id: arm its timer, then send it. -/
def fwdRequest (ev : PendingEvent) (wrap : RicGenId → NodeRequest) (ric : NearRic) (fd : Fd)
    (id : GlobalE2NodeId) (ricId : RicGenId) : Checked (UInt16 × NearRic × Sent) := do
  let ricReqId := UInt16.ofNat ric.reqId
  let ric := { ric with reqId := ric.reqId + 1 }
  let ricId := { ricId with ricReqId := storeLow16 ricId.ricReqId ricReqId }
  let ric := addPending ric fd ⟨ev, ricId⟩
  let sent ← e2apSendBytesRic ric id (wrap ricId)
  pure (ricReqId, ric, sent)

def fwdRicSubscriptionRequest := fwdRequest .subscriptionRequest .subscription

def fwdRicControlRequest := fwdRequest .controlRequest .control

/-- A delete that is already pending is dropped. -/
def fwdRicSubscriptionRequestDelete (ric : NearRic) (fd : Fd) (id : GlobalE2NodeId)
    (ricId : RicGenId) : Checked (NearRic × List Sent) := do
  let ev : PendingEventRic := ⟨.subscriptionDeleteRequest, ricId⟩
  if ric.pending.right.findIf (fun ev' => eqPendingEventRic ev' ev) ≠ none then
    pure (ric, [])
  else
    let ric := addPending ric fd ev
    let sent ← e2apSendBytesRic ric id (.subscriptionDelete ricId)
    pure (ric, [sent])

def rmFdAsioRic (ric : NearRic) (fd : Fd) : Checked NearRic := do
  check (fd ∈ ric.timers) epollCtl
  pure { ric with timers := ric.timers.erase fd }

def stopPendingEvent (ric : NearRic) (ev : PendingEventRic) : Checked NearRic := do
  let (fd, pending) ← ric.pending.extractRight ev
  check (0 < fd) fdPositive
  rmFdAsioRic { ric with pending := pending } fd

def e2apHandleSubscriptionResponseRic (ric : NearRic) (resp : RicSubscriptionResponse) :
    Checked NearRic := do
  let ric ← stopPendingEvent ric ⟨.subscriptionRequest, resp.ricId⟩
  check (resp.lenNa = 0) noOtherCaseImplemented
  check (resp.admitted.length = 1) noOtherCaseImplemented
  check (resp.admitted[0]? = some 0) noOtherCaseImplemented
  pure ric

def e2apHandleSubscriptionDeleteResponseRic (ric : NearRic) (ricId : RicGenId) :
    Checked NearRic :=
  stopPendingEvent ric ⟨.subscriptionDeleteRequest, ricId⟩

def e2apHandleControlAckRic (ric : NearRic) (ricId : RicGenId) : Checked NearRic :=
  stopPendingEvent ric ⟨.controlRequest, ricId⟩

/-- `sm_plugin_ric`. -/
def smPluginRic (ric : NearRic) (ranFuncId : UInt16) : Checked Unit := do
  check (0 < ranFuncId) reservedRanFunc
  check (ranFuncId ∈ ric.plugin) ranFuncNotFound

/-- The service model decodes the indication and the listeners of its function
    are called; neither keeps any state here. -/
def e2apHandleIndicationRic (ric : NearRic) (ricId : RicGenId) : Checked NearRic := do
  smPluginRic ric ricId.ranFuncId
  pure ric

/-- `e2ap_msg_handle_ric`, up to the point where the iApp is notified. -/
def e2apMsgHandleRic (ric : NearRic) : RicMsg → Checked NearRic
  | .subscriptionResponse resp => e2apHandleSubscriptionResponseRic ric resp
  | .subscriptionDeleteResponse ricId => e2apHandleSubscriptionDeleteResponseRic ric ricId
  | .controlAcknowledge ricId => e2apHandleControlAckRic ric ricId
  | .indication ricId => e2apHandleIndicationRic ric ricId

/-- `async_event_t`, as far as the loop reads it. -/
structure AsyncEvent where
  fd : Fd
  pEv : PendingEventRic
  deriving DecidableEq, Repr

def pendEvent (ric : NearRic) (fd : Fd) : Checked PendingEventRic :=
  match ric.pending.left.findIf (· = fd) with
  | none => .error fdNotPending
  | some (_, pEv) => .ok pEv

/-- `next_asio_event_ric` for a timer: the event starts zeroed, and only its
    type and pending event are filled in. -/
def nextAsioEventRic (ric : NearRic) (fd : Fd) : Checked AsyncEvent := do
  let pEv ← pendEvent ric fd
  pure { fd := 0, pEv := pEv }

def consumeFd (fd : Fd) : Checked Unit := check (0 < fd) fdPositive

/-- The `PENDING_EVENT` case of `e2_event_loop_ric`. -/
def pendingEventRic (ric : NearRic) (fd : Fd) : Checked AsyncEvent := do
  let e ← nextAsioEventRic ric fd
  consumeFd e.fd
  pure e

def e2apRegSockAddrRic (ric : NearRic) (id : GlobalE2NodeId) (s : SctpInfo) : NearRic :=
  { ric with e2Nodes := addMapE2NodeSad ric.e2Nodes id s }

def e2apRmSockAddrRic (ric : NearRic) (s : SctpInfo) : Checked (GlobalE2NodeId × NearRic) := do
  let (id, e2Nodes) ← rmMapSadE2Node ric.e2Nodes s
  pure (id, { ric with e2Nodes := e2Nodes })

/-- All functions are accepted; an unknown one stops the process. -/
def acceptRanFunc (ric : NearRic) (req : E2SetupRequest) : Checked (List UInt16) := do
  check (req.ranFuncItem ⊆ ric.plugin) unknownRanFunc
  pure req.ranFuncItem

def generateSetupResponse (ric : NearRic) (req : E2SetupRequest) : Checked E2SetupResponse := do
  let accepted ← acceptRanFunc ric req
  check (0 < req.compConfAdd.length ∧ req.compConfAdd.length < 1025) lenCcaRange
  let addAck ← req.compConfAdd.mapM cpE2apNodeCompId
  pure { transId := req.transId, accepted := accepted, compConfigAddAck := addAck }

/-- The end of `e2ap_handle_setup_request_ric`: the response, and the node in the list. -/
def connectE2Node (ric : NearRic) (req : E2SetupRequest) : Checked (E2SetupResponse × NearRic) := do
  let resp ← generateSetupResponse ric req
  let n : E2Node := { id := req.id, accepted := resp.accepted }
  pure (resp, { ric with connE2Nodes := ric.connE2Nodes ++ [n] })

/-- The middle of `notification_handle_ric`: the first node equal to `id` goes. -/
def disconnectE2Node (ric : NearRic) (id : GlobalE2NodeId) : Checked NearRic := do
  let found := ric.connE2Nodes.find? fun n => eqGlobalE2NodeId n.id id
  check (found ≠ none) e2NodeNotConnected
  pure { ric with connE2Nodes := ric.connE2Nodes.eraseP fun n => eqGlobalE2NodeId n.id id }

variable {ric ric' : NearRic}

theorem stopPendingEvent_ok {ev : PendingEventRic} (h : stopPendingEvent ric ev = .ok ric') :
    ∃ fd pending, ric.pending.extractRight ev = .ok (fd, pending) ∧ 0 < fd ∧ fd ∈ ric.timers ∧
      ric' = { ric with pending := pending, timers := ric.timers.erase fd } := by
  simp only [stopPendingEvent, rmFdAsioRic, bind_eq_ok, Prod.exists, check_eq_ok, pure_eq_ok] at h
  obtain ⟨fd, pending, taken, _, pos, _, armed, rfl⟩ := h
  exact ⟨fd, pending, taken, pos, armed, rfl⟩

/-- The timer that an answer stops, by the kind of the answer. -/
def RicMsg.stops : RicMsg → Option PendingEventRic
  | .subscriptionResponse resp => some ⟨.subscriptionRequest, resp.ricId⟩
  | .subscriptionDeleteResponse ricId => some ⟨.subscriptionDeleteRequest, ricId⟩
  | .controlAcknowledge ricId => some ⟨.controlRequest, ricId⟩
  | .indication _ => none

/-- An answer stops its timer; an indication changes nothing. -/
theorem e2apMsgHandleRic_ok {msg : RicMsg} (h : e2apMsgHandleRic ric msg = .ok ric') :
    match msg.stops with
    | some ev => stopPendingEvent ric ev = .ok ric'
    | none => ric' = ric := by
  cases msg with
  | subscriptionResponse resp =>
      simp only [e2apMsgHandleRic, e2apHandleSubscriptionResponseRic, bind_eq_ok, check_eq_ok,
        pure_eq_ok] at h
      obtain ⟨_, stopped, _, _, _, _, _, _, rfl⟩ := h
      exact stopped
  | subscriptionDeleteResponse ricId => exact h
  | controlAcknowledge ricId => exact h
  | indication ricId =>
      simp only [e2apMsgHandleRic, e2apHandleIndicationRic, bind_eq_ok, pure_eq_ok] at h
      obtain ⟨_, _, same⟩ := h
      exact same.symm

theorem e2apMsgHandleRic_frame {msg : RicMsg} (h : e2apMsgHandleRic ric msg = .ok ric') :
    ∃ pending timers, ric' = { ric with pending := pending, timers := timers } := by
  have stopped := e2apMsgHandleRic_ok h
  split at stopped
  · obtain ⟨_, _, _, _, _, rfl⟩ := stopPendingEvent_ok stopped
    exact ⟨_, _, rfl⟩
  · exact ⟨ric.pending, ric.timers, stopped⟩

/-- A delete is dropped because it is pending, or goes to the registered address. -/
theorem fwdRicSubscriptionRequestDelete_ok {fd : Fd} {id : GlobalE2NodeId} {ricId : RicGenId}
    {sent : List Sent} (h : fwdRicSubscriptionRequestDelete ric fd id ricId = .ok (ric', sent)) :
    (ric' = ric ∧ sent = [] ∧
      ∃ e ∈ ric.pending.right.toList, e.1 = ⟨.subscriptionDeleteRequest, ricId⟩) ∨
    (ric' = addPending ric fd ⟨.subscriptionDeleteRequest, ricId⟩ ∧
      (∀ e ∈ ric.pending.right.toList, e.1 ≠ ⟨.subscriptionDeleteRequest, ricId⟩) ∧
      ∃ info, findMapE2NodeSad ric.e2Nodes id = .ok info ∧
        sent = [.toNode id info (.subscriptionDelete ricId)]) := by
  simp only [fwdRicSubscriptionRequestDelete] at h
  split at h
  · rename_i found
    obtain ⟨e, found⟩ := Option.ne_none_iff_exists'.mp found
    obtain ⟨mem, same⟩ := AssocRbTree.findIf_some found
    simp only [pure_eq_ok, Prod.mk.injEq] at h
    exact .inl ⟨h.1.symm, h.2.symm, e, mem, eqPendingEventRic_iff.mp same⟩
  · rename_i missing
    rw [not_not, AssocRbTree.findIf_none] at missing
    simp only [e2apSendBytesRic, bind_eq_ok, pure_eq_ok, Prod.mk.injEq] at h
    obtain ⟨_, ⟨info, found, rfl⟩, rfl, rfl⟩ := h
    refine .inr ⟨rfl, fun e mem same => ?_, info, found, rfl⟩
    exact missing e mem (eqPendingEventRic_iff.mpr same)

theorem disconnectE2Node_ok {id : GlobalE2NodeId} (h : disconnectE2Node ric id = .ok ric') :
    (∃ n ∈ ric.connE2Nodes, eqGlobalE2NodeId n.id id) ∧
      ric' = { ric with
        connE2Nodes := ric.connE2Nodes.eraseP fun n => eqGlobalE2NodeId n.id id } := by
  simp only [disconnectE2Node, bind_eq_ok, check_eq_ok, pure_eq_ok] at h
  obtain ⟨_, found, rfl⟩ := h
  obtain ⟨n, found⟩ := Option.ne_none_iff_exists'.mp found
  have same := List.find?_some found
  exact ⟨⟨n, List.mem_of_find?_eq_some found, same⟩, rfl⟩

end FlexRic
