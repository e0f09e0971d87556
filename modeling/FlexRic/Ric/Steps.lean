import FlexRic.Ric.System

/-! # What a step of the RIC can do

`step_cases` takes a step apart once, down to the operation on the shared state
that decides it. The invariants are proved from the cases and never unfold the
step function.
-/

namespace FlexRic

open Assertion

theorem storeLow16_toUInt16 (r : UInt32) (n : UInt16) : (storeLow16 r n).toUInt16 = n := by
  rw [← UInt16.toBitVec_inj]
  simp [storeLow16]

theorem toUInt32_inj {m n : UInt16} (h : m.toUInt32 = n.toUInt32) : m = n := by
  simpa using congrArg UInt32.toUInt16 h

namespace Ric

/-- The request that a node gets, by its type. -/
def nodeRequest : RicReqType → RicGenId → NodeRequest
  | .subscription => .subscription
  | .control => .control

def requestEvent : RicReqType → PendingEvent
  | .subscription => .subscriptionRequest
  | .control => .controlRequest

/-- The event of an xApp's request, by its type. -/
def requestArrives : RicReqType → Fd → E42Request → RicEvent
  | .subscription => .e42Subscription
  | .control => .e42Control

/-- The id that the next request gets. -/
def nextId (s : Ric) : UInt16 := UInt16.ofNat s.ric.reqId

/-- The request as it leaves for the node. -/
def sentId (s : Ric) (req : E42Request) : RicGenId :=
  { req.ricId with ricReqId := storeLow16 req.ricId.ricReqId s.nextId }

/-- The request as the map keeps it. -/
def mappedRequest (s : Ric) (type : RicReqType) (req : E42Request) : E2NodeRicId where
  ricId := { req.ricId with ricReqId := s.nextId.toUInt32 }
  e2NodeId := req.id
  ricReqType := type

/-- An xApp's request that goes through. -/
inductive Requested (type : RicReqType) (s : Ric) (fd : Fd) (req : E42Request) :
    Ric → List Sent → Prop where
  | mk {info : SctpInfo} {map : MapRicId} (validXapp : validXappId s.iapp req.xappId)
      (validNode : validGlobalE2Node s.iapp req.id)
      (found : findMapE2NodeSad s.ric.e2Nodes req.id = .ok info)
      (added : addMapRicId s.iapp.mapRicId (s.mappedRequest type req) ⟨req.ricId, req.xappId⟩ =
        .ok map) :
      Requested type s fd req
        { s with
          ric := addPending { s.ric with reqId := s.ric.reqId + 1 } fd
            ⟨requestEvent type, s.sentId req⟩
          iapp := { s.iapp with mapRicId := map } }
        [.toNode req.id info (nodeRequest type (s.sentId req))]

inductive Step (s : Ric) : RicEvent → Ric → List Sent → Prop where
  | setupRequest (req : E2SetupRequest) (info : SctpInfo) :
      Step s (.setupRequest req info) { s with tasks := s.tasks ++ [.regSockAddr req info] } []
  | ricMsg (msg : RicMsg) : Step s (.ricMsg msg) { s with tasks := s.tasks ++ [.handle msg] } []
  | regSockAddr {i : Nat} {req : E2SetupRequest} {info : SctpInfo}
      (task : s.tasks[i]? = some (.regSockAddr req info)) :
      Step s (.runTask i)
        { s with
          ric := { s.ric with e2Nodes := s.ric.e2Nodes.insert req.id info }
          tasks := advance s.tasks i (some (.addE2Node req info)) } []
  | addE2Node {i : Nat} {req : E2SetupRequest} {info : SctpInfo} {reg : RegE2Nodes}
      (task : s.tasks[i]? = some (.addE2Node req info))
      (added : addRegE2Node s.iapp.e2Nodes req.id req.ranFuncItem req.compConfAdd = .ok reg) :
      Step s (.runTask i)
        { s with
          iapp := { s.iapp with e2Nodes := reg }
          tasks := advance s.tasks i (some (.connectE2Node req info)) } []
  | connectE2Node {i : Nat} {req : E2SetupRequest} {info : SctpInfo} {resp : E2SetupResponse}
      (task : s.tasks[i]? = some (.connectE2Node req info))
      (answered : generateSetupResponse s.ric req = .ok resp) :
      Step s (.runTask i)
        { s with
          ric := { s.ric with connE2Nodes := s.ric.connE2Nodes ++ [⟨req.id, resp.accepted⟩] }
          tasks := advance s.tasks i none } [.setupResponse info resp]
  | handle {i : Nat} {msg : RicMsg} {ric : NearRic} (task : s.tasks[i]? = some (.handle msg))
      (handled : e2apMsgHandleRic s.ric msg = .ok ric) :
      Step s (.runTask i)
        { s with ric := ric, tasks := advance s.tasks i (some (.lookUp msg)) } []
  | lookUp {i : Nat} {msg : RicMsg} {x : Option XappRicId}
      (task : s.tasks[i]? = some (.lookUp msg)) (found : FlexRic.lookUp s.iapp msg = .ok x) :
      Step s (.runTask i)
        { s with tasks := advance s.tasks i (x.map (.forward msg)) } []
  | forward {i : Nat} {msg : RicMsg} {x : XappRicId} {info : SctpInfo}
      (task : s.tasks[i]? = some (.forward msg x))
      (found : findMapXappsSad s.iapp.xapps x.xappId = .ok info) :
      Step s (.runTask i)
        { s with
          tasks := advance s.tasks i
            (if (e2apMsgHandleIapp msg).removes then some (.remove x) else none) }
        [.toXapp info (.ricMsg ((e2apMsgHandleIapp msg).ans x))]
  | remove {i : Nat} {x : XappRicId} {map : MapRicId} (task : s.tasks[i]? = some (.remove x))
      (removed : rmMapRicId s.iapp.mapRicId x = .ok map) :
      Step s (.runTask i)
        { s with
          iapp := { s.iapp with mapRicId := map }
          tasks := advance s.tasks i none } []
  | nodeShutdown {info : SctpInfo} {id : GlobalE2NodeId} {e2Nodes : MapE2NodeSad}
      (removed : rmMapSadE2Node s.ric.e2Nodes info = .ok (id, e2Nodes)) :
      Step s (.nodeShutdown info)
        { s with ric := { s.ric with e2Nodes := e2Nodes }, leaving := some (.disconnect id) } []
  | disconnect {id : GlobalE2NodeId} {ric : NearRic} (leaving : s.leaving = some (.disconnect id))
      (removed : disconnectE2Node s.ric id = .ok ric) :
      Step s .resumeShutdown { s with ric := ric, leaving := some (.unregister id) } []
  | unregister {id : GlobalE2NodeId} {reg : RegE2Nodes}
      (leaving : s.leaving = some (.unregister id))
      (removed : rmRegE2Node s.iapp.e2Nodes id = .ok reg) :
      Step s .resumeShutdown
        { s with iapp := { s.iapp with e2Nodes := reg }, leaving := none } []
  | e42Setup {lenRf : Nat} {info : SctpInfo} {xapps : MapXappsSad} (pos : 0 < lenRf)
      (added : addMapXappsSad s.iapp.xapps s.iapp.xappId.toUInt16 info = .ok xapps) :
      Step s (.e42Setup lenRf info)
        { s with iapp := { s.iapp with xappId := s.iapp.xappId + 1, xapps := xapps } }
        [.toXapp info (.e42SetupResponse s.iapp.xappId.toUInt16
          (generateE2NodeArr s.iapp.e2Nodes))]
  | e42Subscription {fd : Fd} {req : E42Request} {s' : Ric} {out : List Sent}
      (done : Requested .subscription s fd req s' out) :
      Step s (.e42Subscription fd req) s' out
  | e42Control {fd : Fd} {req : E42Request} {s' : Ric} {out : List Sent}
      (done : Requested .control s fd req s' out) :
      Step s (.e42Control fd req) s' out
  | e42Delete {xappId : UInt16} {ricId : RicGenId} {n : E2NodeRicId}
      (found : findRicReqMapRicId s.iapp.mapRicId ⟨ricId, xappId⟩ = .ok n)
      (type : n.ricReqType = .subscription) :
      Step s (.e42Delete xappId ricId)
        { s with
          deletes := [⟨n.e2NodeId, { ricId with ricReqId := n.ricId.ricReqId }⟩] } []
  | xappShutdown {info : SctpInfo} {xappId : UInt16}
      (found : findMapXappsXid s.iapp.xapps info = .ok xappId) :
      Step s (.xappShutdown info)
        { s with
          deletes := (findAllSubsMapRicId s.iapp.mapRicId xappId).map
            fun n => ⟨n.e2NodeId, n.ricId⟩ } []
  | forwardDelete {fd : Fd} {d : Delete} {deletes : List Delete} {ric : NearRic}
      {out : List Sent} (next : s.deletes = d :: deletes)
      (forwarded : fwdRicSubscriptionRequestDelete s.ric fd d.id d.ricId = .ok (ric, out)) :
      Step s (.forwardDelete fd) { s with ric := ric, deletes := deletes } out

variable {s s' : Ric} {e : RicEvent} {out : List Sent}

/-- The event of a timer that fires carries descriptor zero, and the loop stops at it. -/
theorem timerFires_fails (ric : NearRic) (fd : Fd) :
    ∃ failed, pendingEventRic ric fd = .error failed := by
  cases found : pendEvent ric fd with
  | error failed => exact ⟨failed, by simp [pendingEventRic, nextAsioEventRic, found]⟩
  | ok pEv =>
      refine ⟨fdPositive, ?_⟩
      simp only [pendingEventRic, nextAsioEventRic, found, ok_bind]
      rfl

theorem requested_of_ok {type : RicReqType} {fd : Fd} {req : E42Request} {ric : NearRic}
    {iapp : E42Iapp} {sent : Sent}
    (h : e42Request type (fwdRequest (requestEvent type) (nodeRequest type)) s.ric s.iapp fd req =
      .ok (ric, iapp, sent)) :
    Requested type s fd req { s with ric := ric, iapp := iapp } [sent] := by
  simp only [e42Request, fwdRequest, e2apSendBytesRic, bind_eq_ok, check_eq_ok, pure_eq_ok,
    Prod.exists, Prod.mk.injEq] at h
  obtain ⟨_, validXapp, _, validNode, _, _, _, ⟨_, ⟨info, found, rfl⟩, rfl, rfl, rfl⟩, map, added,
    rfl, rfl, rfl⟩ := h
  exact .mk validXapp validNode found added

/-- A request whose checks pass goes through. -/
theorem e42Request_ok {type : RicReqType} {fd : Fd} {req : E42Request} {info : SctpInfo}
    {map : MapRicId} (validXapp : validXappId s.iapp req.xappId)
    (validNode : validGlobalE2Node s.iapp req.id)
    (found : findMapE2NodeSad s.ric.e2Nodes req.id = .ok info)
    (added : addMapRicId s.iapp.mapRicId (s.mappedRequest type req) ⟨req.ricId, req.xappId⟩ =
      .ok map) :
    e42Request type (fwdRequest (requestEvent type) (nodeRequest type)) s.ric s.iapp fd req =
      .ok (addPending { s.ric with reqId := s.ric.reqId + 1 } fd
          ⟨requestEvent type, s.sentId req⟩, { s.iapp with mapRicId := map },
        .toNode req.id info (nodeRequest type (s.sentId req))) := by
  simp only [e42Request, fwdRequest, e2apSendBytesRic, bind_eq_ok, check_eq_ok, pure_eq_ok,
    Prod.exists, Prod.mk.injEq]
  exact ⟨(), validXapp, (), validNode, _, _, _, ⟨_, ⟨info, found, rfl⟩, rfl, rfl, rfl⟩, map,
    added, rfl, rfl, rfl⟩

theorem step_e42Control {fd : Fd} {req : E42Request} {ric : NearRic} {iapp : E42Iapp}
    {sent : Sent}
    (goes : e42Request .control (fwdRequest .controlRequest .control) s.ric s.iapp fd req =
      .ok (ric, iapp, sent)) :
    s.step (.e42Control fd req) = .ok ({ s with ric := ric, iapp := iapp }, [sent]) := by
  simp only [step, e2apHandleE42RicControlRequestIapp, fwdRicControlRequest, goes, ok_bind]
  rfl

theorem runTask_cases {i : Nat} {task : Task} {ric : NearRic} {iapp : E42Iapp}
    {rest : Option Task} (found : s.tasks[i]? = some task)
    (h : runTask s.ric s.iapp task = .ok (ric, iapp, rest, out)) :
    Step s (.runTask i)
      { s with ric := ric, iapp := iapp, tasks := advance s.tasks i rest } out := by
  cases task with
  | regSockAddr req info =>
      simp only [runTask, pure_eq_ok, Prod.mk.injEq] at h
      obtain ⟨rfl, rfl, rfl, rfl⟩ := h
      exact .regSockAddr found
  | addE2Node req info =>
      simp only [runTask, addE2NodeIapp, bind_eq_ok, pure_eq_ok, Prod.mk.injEq] at h
      obtain ⟨_, ⟨reg, added, rfl⟩, rfl, rfl, rfl, rfl⟩ := h
      exact .addE2Node found added
  | connectE2Node req info =>
      simp only [runTask, FlexRic.connectE2Node, bind_eq_ok, Prod.exists, pure_eq_ok,
        Prod.mk.injEq] at h
      obtain ⟨_, _, ⟨resp, answered, rfl, rfl⟩, rfl, rfl, rfl, rfl⟩ := h
      exact .connectE2Node found answered
  | handle msg =>
      simp only [runTask, bind_eq_ok, pure_eq_ok, Prod.mk.injEq] at h
      obtain ⟨ric, handled, rfl, rfl, rfl, rfl⟩ := h
      exact .handle found handled
  | lookUp msg =>
      simp only [runTask, bind_eq_ok, pure_eq_ok, Prod.mk.injEq] at h
      obtain ⟨x, looked, rfl, rfl, rfl, rfl⟩ := h
      exact .lookUp found looked
  | forward msg x =>
      simp only [runTask, FlexRic.forward, bind_eq_ok, pure_eq_ok, Prod.mk.injEq] at h
      obtain ⟨_, ⟨info, addressed, rfl⟩, rfl, rfl, rfl, rfl⟩ := h
      exact .forward found addressed
  | remove x =>
      simp only [runTask, FlexRic.remove, bind_eq_ok, pure_eq_ok, Prod.mk.injEq] at h
      obtain ⟨_, ⟨map, removed, rfl⟩, rfl, rfl, rfl, rfl⟩ := h
      exact .remove found removed

theorem step_cases (enabled : s.Enabled e) (h : step s e = .ok (s', out)) : Step s e s' out := by
  cases e with
  | setupRequest req info =>
      simp only [step, pure_eq_ok, Prod.mk.injEq] at h
      obtain ⟨rfl, rfl⟩ := h
      exact .setupRequest req info
  | ricMsg msg =>
      simp only [step, pure_eq_ok, Prod.mk.injEq] at h
      obtain ⟨rfl, rfl⟩ := h
      exact .ricMsg msg
  | runTask i =>
      simp only [step] at h
      split at h
      · rename_i missing
        exact absurd (List.getElem?_eq_none_iff.mp missing) (Nat.not_le_of_lt enabled)
      · rename_i task found
        simp only [bind_eq_ok, Prod.exists, pure_eq_ok, Prod.mk.injEq] at h
        obtain ⟨ric, iapp, rest, sent, ran, rfl, rfl⟩ := h
        exact runTask_cases found ran
  | nodeShutdown info =>
      simp only [step, e2apRmSockAddrRic, bind_eq_ok, Prod.exists, pure_eq_ok, Prod.mk.injEq] at h
      obtain ⟨id, _, ⟨_, _, removed, rfl, rfl⟩, rfl, rfl⟩ := h
      exact .nodeShutdown removed
  | resumeShutdown =>
      simp only [step] at h
      split at h
      · exact absurd ‹_› enabled
      · rename_i leaving at_
        cases leaving with
        | disconnect id =>
            simp only [runLeaving, bind_eq_ok, Prod.exists, pure_eq_ok, Prod.mk.injEq] at h
            obtain ⟨_, _, _, ⟨ric, removed, rfl, rfl, rfl⟩, rfl, rfl⟩ := h
            exact .disconnect at_ removed
        | unregister id =>
            simp only [runLeaving, rmE2NodeIapp, bind_eq_ok, Prod.exists, pure_eq_ok,
              Prod.mk.injEq] at h
            obtain ⟨_, _, _, ⟨_, ⟨reg, removed, rfl⟩, rfl, rfl, rfl⟩, rfl, rfl⟩ := h
            exact .unregister at_ removed
  | timerFires fd =>
      obtain ⟨failed, fails⟩ := timerFires_fails s.ric fd
      simp [step, fails] at h
  | e42Setup lenRf info =>
      simp only [step, e2apHandleE42SetupRequestIapp, bind_eq_ok, check_eq_ok, pure_eq_ok,
        Prod.exists, Prod.mk.injEq] at h
      obtain ⟨_, _, ⟨_, pos, xapps, added, rfl, rfl⟩, rfl, rfl⟩ := h
      exact .e42Setup pos added
  | e42Subscription fd req =>
      simp only [step, bind_eq_ok, Prod.exists, pure_eq_ok, Prod.mk.injEq] at h
      obtain ⟨ric, iapp, sent, done, rfl, rfl⟩ := h
      exact .e42Subscription (requested_of_ok done)
  | e42Control fd req =>
      simp only [step, bind_eq_ok, Prod.exists, pure_eq_ok, Prod.mk.injEq] at h
      obtain ⟨ric, iapp, sent, done, rfl, rfl⟩ := h
      exact .e42Control (requested_of_ok done)
  | e42Delete xappId ricId =>
      simp only [step, e2apHandleE42RicSubscriptionDeleteRequestIapp, bind_eq_ok, check_eq_ok,
        pure_eq_ok, Prod.mk.injEq] at h
      obtain ⟨_, ⟨n, found, _, type, rfl⟩, rfl, rfl⟩ := h
      exact .e42Delete found type
  | xappShutdown info =>
      simp only [step, rmIfPendingSubs, bind_eq_ok, pure_eq_ok, Prod.mk.injEq] at h
      obtain ⟨_, ⟨xappId, found, rfl⟩, rfl, rfl⟩ := h
      exact .xappShutdown found
  | forwardDelete fd =>
      simp only [step] at h
      split at h
      · exact absurd ‹_› enabled.1
      · rename_i d deletes next
        simp only [bind_eq_ok, Prod.exists, pure_eq_ok, Prod.mk.injEq] at h
        obtain ⟨ric, sent, forwarded, rfl, rfl⟩ := h
        exact .forwardDelete next forwarded

/-- What a step does to the pending requests and their timers: a request or a
    delete arms one, an answer stops one, and nothing else touches them. -/
theorem Step.pending_cases (step : Step s e s' out) :
    (∃ type fd req, e = requestArrives type fd req ∧ Requested type s fd req s' out) ∨
    (∃ fd d rest, e = .forwardDelete fd ∧ s.deletes = d :: rest ∧
      s'.ric = addPending s.ric fd ⟨.subscriptionDeleteRequest, d.ricId⟩ ∧
      (∀ p ∈ s.ric.pending.right.toList, p.1 ≠ ⟨.subscriptionDeleteRequest, d.ricId⟩) ∧
      ∃ info, out = [.toNode d.id info (.subscriptionDelete d.ricId)]) ∨
    (∃ msg ev, Task.handle msg ∈ s.tasks ∧ msg.stops = some ev ∧
      stopPendingEvent s.ric ev = .ok s'.ric) ∨
    (s'.ric.pending = s.ric.pending ∧ s'.ric.timers = s.ric.timers) := by
  cases step with
  | e42Subscription done => exact .inl ⟨.subscription, _, _, rfl, done⟩
  | e42Control done => exact .inl ⟨.control, _, _, rfl, done⟩
  | forwardDelete next forwarded =>
      rcases fwdRicSubscriptionRequestDelete_ok forwarded with
        ⟨rfl, -⟩ | ⟨armed, fresh, info, -, sent⟩
      · exact .inr (.inr (.inr ⟨rfl, rfl⟩))
      · exact .inr (.inl ⟨_, _, _, rfl, next, armed, fresh, info, sent⟩)
  | @handle i msg _ task handled =>
      have stopped := e2apMsgHandleRic_ok handled
      cases stops : msg.stops with
      | none =>
          rw [stops] at stopped
          exact .inr (.inr (.inr (by rw [stopped]; exact ⟨rfl, rfl⟩)))
      | some ev =>
          rw [stops] at stopped
          exact .inr (.inr (.inl ⟨msg, ev, List.mem_of_getElem? task, stops, stopped⟩))
  | disconnect leaving removed =>
      obtain ⟨-, rfl⟩ := disconnectE2Node_ok removed
      exact .inr (.inr (.inr ⟨rfl, rfl⟩))
  | _ => exact .inr (.inr (.inr ⟨rfl, rfl⟩))

end Ric

end FlexRic
