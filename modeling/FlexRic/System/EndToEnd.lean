import FlexRic.System.Parts

/-! # From the users to the nodes and back

No component sees more than its own messages: the xApp trusts the ids that come back, the RIC
replaces them, the agent serves whatever id it gets. Together they serve the users. A node does
only what a user asked of it, and what a user's callback gets comes from the node that the user
named.
-/

namespace FlexRic

namespace Deployment

open ActiveProcedures (Registration)

variable {π : Type} {inst : Installation π} {d d' : Deployment} {h later earlier : History π}
  {e : DeploymentEvent} {out : DeploymentOutput π} {x : Event π} {a n src : SctpInfo} {p : Packet}
  {type : RicReqType} {req : E42Request}
  {ricId : RicGenId}

def request : RicReqType → E42Request → E42Msg
  | .subscription => .ricSubscriptionRequest
  | .control => .ricControlRequest

def procedure : RicReqType → ActProcValE
  | .subscription => .ricSubscriptionProcedureActive
  | .control => .ricControlProcedureActive

/-- The procedure that a request is sent for. A subscription has a callback. -/
def registers (type : RicReqType) (req : E42Request) (cb : Option Nat) : Registration where
  type := procedure type
  ranFuncId := req.ricId.ranFuncId
  e2Node := req.id
  smCb := cb

/-- A user of the xApp at this address asked for the request, and its id was given out for that. -/
def UserAsked (inst : Installation π) (h : History π) (src : SctpInfo) (type : RicReqType)
    (req : E42Request) : Prop :=
  ∃ cb, (type = .subscription → cb.isSome) ∧ (req.ricId.ricReqId, registers type req cb) ∈
    ActiveProcedures.givenOut ((xappPart inst src).history h)

/-- The agent of this node took a request under this id. -/
def Handled (inst : Installation π) (h : History π) (n : SctpInfo) (type : RicReqType)
    (ricId : RicGenId) : Prop :=
  match type with
  | .subscription => ∃ y ∈ (agentPart inst n).history h, ∃ fd sr subs,
      y.event = .subscriptionRequest fd sr subs ∧ sr.ricId = ricId
  | .control => ∃ x ∈ h, x.event = .agentControl n ricId

/-- The RIC sent the request on under this id. -/
structure ForwardedAs (inst : Installation π) (h : History π) (req : E42Request)
    (ricId : RicGenId) : Prop where
  handedOut : (ricId.ricReqId.toUInt16, ⟨req.ricId, req.xappId⟩) ∈
    Ric.assignments ((ricPart inst).history h)
  func : ricId.ranFuncId = req.ricId.ranFuncId
  instId : ricId.ricInstId = req.ricId.ricInstId

/-- The type of the request that a message of a node is about. -/
def about : RicMsg → Option RicReqType
  | .subscriptionResponse _ | .indication _ => some .subscription
  | .controlAcknowledge _ => some .control
  | .subscriptionDeleteResponse _ => none

theorem registered_of_wire (run : (machine inst).Run d h) {xappId : UInt16}
    {nodes : List GlobalE2NodeId}
    (mem : .ric (.toXapp a (.e42SetupResponse xappId nodes)) ∈ d.wire) :
    (xappId, a) ∈ Ric.registrations ((ricPart inst).history h) := by
  obtain ⟨y, here, sent⟩ := ric_sent run mem
  exact List.mem_flatMap.mpr ⟨y, here, List.mem_filterMap.mpr ⟨_, sent, rfl⟩⟩

/-- An xApp keeps the id that it starts with. -/
theorem Step.xapp_id (step : Step inst d e d' out) {xapp : E42Xapp}
    (here : d'.xapps a = some xapp) :
    (∃ old, d.xapps a = some old ∧ old.id = xapp.id) ∨
      ∃ nodes, .ric (.toXapp a (.e42SetupResponse xapp.id nodes)) ∈ d.wire := by
  cases step with
  | ric | agent | agentControl => exact .inl ⟨xapp, here, rfl⟩
  | @xappStarts b xappId nodes absent hears =>
      simp only [Function.update_apply] at here
      split at here
      · rename_i same
        subst same
        cases here
        obtain ⟨p, mem, told⟩ := hears
        cases Packet.toXapp_eq_some told
        exact .inr ⟨nodes, mem⟩
      · exact .inl ⟨xapp, here, rfl⟩
  | @xapp b e before after sent there opened hears moved =>
      simp only [Function.update_apply] at here
      split at here
      · rename_i same
        subst same
        cases here
        exact .inl ⟨before, there, (ActiveProcedures.step_id opened moved).symm⟩
      · exact .inl ⟨xapp, here, rfl⟩

/-- The id of an xApp is one that the RIC sent to its address. -/
theorem xapp_named (run : (machine inst).Run d h) {xapp : E42Xapp} (here : d.xapps a = some xapp) :
    ∃ nodes, .ric (.toXapp a (.e42SetupResponse xapp.id nodes)) ∈ d.wire := by
  induction run generalizing xapp with
  | start => cases here
  | next run enabled moved ih =>
      have step := step_cases enabled moved
      rw [step.wire_eq]
      rcases step.xapp_id here with ⟨old, there, same⟩ | ⟨nodes, mem⟩
      · obtain ⟨nodes, mem⟩ := ih there
        exact ⟨nodes, List.mem_append_right _ (same ▸ mem)⟩
      · exact ⟨nodes, List.mem_append_right _ mem⟩

/-- A request on the wire was asked for by a user, of the xApp that is registered under its id. -/
theorem request_traced (run : (machine inst).Run d h) (mem : p ∈ d.wire)
    (told : p.fromXapp = some (request type req)) :
    ∃ src, UserAsked inst h src type req ∧ req.ricId.ricInstId = 0 ∧
      (req.xappId, src) ∈ Ric.registrations ((ricPart inst).history h) := by
  obtain ⟨src, rfl⟩ := Packet.fromXapp_eq_some told
  obtain ⟨y, past, sent⟩ := xapp_sent run mem
  have follows := xapp_follows run src
  obtain ⟨xapp, here⟩ := follows.state_of_mem past
  obtain ⟨nodes, named⟩ := xapp_named run here
  obtain ⟨xappId, alone⟩ := xapp_run run here
  have mine := (ActiveProcedures.honest_run alone).mine
  obtain ⟨later, earlier, cut⟩ := List.append_of_mem past
  have asked := ActiveProcedures.sent_origin (cut ▸ alone) sent
  rw [← cut, ← mine] at asked
  cases type with
  | subscription =>
      obtain ⟨same, instId, cb, given⟩ := asked
      exact ⟨src, ⟨some cb, fun _ => rfl, given⟩, instId, same ▸ registered_of_wire run named⟩
  | control =>
      obtain ⟨same, instId, given⟩ := asked
      refine ⟨src, ⟨none, ?_, given⟩, instId, same ▸ registered_of_wire run named⟩
      intro other
      cases other

/-- Whoever set up from an address is the node of the agent there. -/
theorem node_traced (run : (machine inst).Run d h) {id : GlobalE2NodeId}
    (setUp : Ric.SetUp ((ricPart inst).history h) id n) : id = inst.node n := by
  obtain ⟨y, past, req, event, rfl⟩ := setUp
  have heard := ric_heard run past
  rw [event] at heard
  obtain ⟨z, past, sent⟩ := agent_sent run heard
  obtain ⟨later, earlier, cut⟩ := List.append_of_mem past
  exact E2Agent.setupRequest_origin (cut ▸ agent_run run n) sent

/-- A request to a node is one that a user asked for, of this node. -/
theorem nodeRequest_traced (run : (machine inst).Run d h) (mem : p ∈ d.wire)
    (told : p.toNode = some (n, Ric.nodeRequest type ricId)) :
    ∃ req src, UserAsked inst h src type req ∧ req.ricId.ricInstId = 0 ∧
      (req.xappId, src) ∈ Ric.registrations ((ricPart inst).history h) ∧
      eqGlobalE2NodeId (inst.node n) req.id ∧ ForwardedAs inst h req ricId := by
  obtain ⟨id, rfl⟩ := Packet.toNode_eq_some told
  obtain ⟨y, past, sent⟩ := ric_sent run mem
  have heard := ric_heard run past
  obtain ⟨later, earlier, cut⟩ := List.append_of_mem past
  obtain ⟨fd, req, event, rfl, func, instId, handedOut, id', setUp, same⟩ :=
    Ric.request_origin (cut ▸ ric_run run) sent
  have node : id' = inst.node n := by
    apply node_traced run
    rw [cut]
    exact setUp.cons.append
  rw [event] at heard
  have asked : ∃ q ∈ d.wire, q.fromXapp = some (request type req) := by
    cases type <;> exact heard
  obtain ⟨q, onWire, fromXapp⟩ := asked
  obtain ⟨src, user, zero, registered⟩ := request_traced run onWire fromXapp
  exact ⟨req, src, user, zero, registered, node ▸ same, cut ▸ handedOut, func, instId⟩

/-- What an agent took was sent to it. -/
theorem handled_heard (run : (machine inst).Run d h) (handled : Handled inst h n type ricId) :
    ∃ p ∈ d.wire, p.toNode = some (n, Ric.nodeRequest type ricId) := by
  cases type with
  | subscription =>
      obtain ⟨y, past, fd, sr, subs, event, rfl⟩ := handled
      have heard := agent_heard run past
      rw [event] at heard
      exact heard
  | control =>
      obtain ⟨⟨before, e, out, after⟩, past, rfl⟩ := handled
      obtain ⟨later, earlier, rfl⟩ := List.append_of_mem past
      obtain ⟨-, enabled, -⟩ := run.cut
      obtain ⟨-, p, mem, told⟩ := enabled
      exact ⟨p, wire_subset run mem, told⟩

/-- A delete that is sent to a node is for a subscription of this node that a user asked for. -/
theorem delete_traced (run : (machine inst).Run d h) (mem : p ∈ d.wire)
    (told : p.toNode = some (n, .subscriptionDelete ricId)) :
    ∃ req src, UserAsked inst h src .subscription req ∧ req.ricId.ricInstId = 0 ∧
      eqGlobalE2NodeId (inst.node n) req.id ∧ ricId.ranFuncId = req.ricId.ranFuncId ∧
      ricId.ricInstId = req.ricId.ricInstId := by
  obtain ⟨id, rfl⟩ := Packet.toNode_eq_some told
  obtain ⟨y, past, sent⟩ := ric_sent run mem
  obtain ⟨later, earlier, cut⟩ := List.append_of_mem past
  obtain ⟨subscribed, id', setUp, same⟩ := Ric.delete_origin (cut ▸ ric_run run) sent
  have node : id' = inst.node n := by
    apply node_traced run
    rw [cut]
    exact setUp.cons.append
  have whole : Ric.Subscribed ((ricPart inst).history h) id ricId := by
    rw [cut]
    exact subscribed.cons.append
  obtain ⟨z, past, fd, req, reqId, event, rfl, -, rfl⟩ := whole
  have heard := ric_heard run past
  rw [event] at heard
  have asked : ∃ q ∈ d.wire, q.fromXapp = some (request .subscription req) := heard
  obtain ⟨q, onWire, fromXapp⟩ := asked
  obtain ⟨src, user, zero, -⟩ := request_traced run onWire fromXapp
  exact ⟨req, src, user, zero, node ▸ same, rfl, rfl⟩

/-- What a node says about a request, it says because it took it. -/
theorem answer_handled (run : (machine inst).Run d h) (mem : p ∈ d.wire) {msg : RicMsg}
    (told : p.fromNode = some (n, msg)) (kind : about msg = some type) :
    Handled inst h n type msg.ricId := by
  cases p with
  | agent src sent =>
      cases sent with
      | setupRequest => cases told
      | subscriptionDeleteResponse =>
          cases told
          cases kind
      | subscriptionResponse resp =>
          cases told
          cases kind
          obtain ⟨y, past, sent⟩ := agent_sent run mem
          obtain ⟨later, earlier, cut⟩ := List.append_of_mem past
          obtain ⟨fd, sr, subs, event, same⟩ :=
            E2Agent.subscriptionResponse_origin (cut ▸ agent_run run _) sent
          exact ⟨y, past, fd, sr, subs, event, same.symm⟩
      | indication ricId actionId =>
          cases told
          cases kind
          obtain ⟨y, past, sent⟩ := agent_sent run mem
          obtain ⟨later, earlier, cut⟩ := List.append_of_mem past
          obtain ⟨z, before, fd, sr, subs, action, event, same, -⟩ :=
            E2Agent.indication_origin (cut ▸ agent_run run _) sent
          refine ⟨z, ?_, fd, sr, subs, event, same⟩
          rw [cut]
          exact List.mem_append_right _ (List.mem_cons_of_mem _ before)
  | controlAck src ricId =>
      cases told
      cases kind
      exact controlAck_sent run mem
  | ric | xapp => cases told

/-- What arrived at the RIC was sent by a node. -/
theorem arrived_sent (run : (machine inst).Run d h) {later earlier : Ric.History}
    (cut : (ricPart inst).history h = later ++ earlier) {msg : RicMsg}
    (came : msg ∈ Ric.arrived earlier) : ∃ n, ∃ p ∈ d.wire, p.fromNode = some (n, msg) := by
  obtain ⟨y, past, arrived⟩ := List.mem_filterMap.mp came
  have heard := ric_heard run (cut ▸ List.mem_append_right later past)
  split at arrived
  · rename_i event
    cases arrived
    rw [event] at heard
    obtain ⟨p, mem, told⟩ := heard
    obtain ⟨⟨n, _⟩, from_, rfl⟩ := Option.map_eq_some_iff.mp told
    exact ⟨n, p, mem, from_⟩
  · cases arrived

theorem about_withRicId (ricId : RicGenId) (msg : RicMsg) :
    about (Ric.withRicId ricId msg) = about msg ∧ (Ric.withRicId ricId msg).ricId = ricId := by
  cases msg <;> exact ⟨rfl, rfl⟩

theorem about_of_answeredBy {ans : RicMsg} (answered : (request type req).answeredBy ans = true) :
    about ans = some type ∧ ans.ricId = req.ricId := by
  cases type <;> cases ans <;> simp_all [request, E42Msg.answeredBy, about, RicMsg.ricId]

theorem eq_indication_of_withRicId {msg : RicMsg} {other : RicGenId}
    (same : Ric.withRicId other msg = .indication ricId) :
    ∃ ricId', msg = .indication ricId' ∧ ricId = other := by
  cases msg with
  | indication ricId' =>
      cases same
      exact ⟨ricId', rfl, rfl⟩
  | subscriptionResponse | subscriptionDeleteResponse | controlAcknowledge => cases same

/-- An answer that the RIC sends an xApp is the named node's, about a request that a user of this
    xApp asked for. -/
theorem answer_traced (run : (machine inst).Run d h)
    (few : (Ric.assignments ((ricPart inst).history h)).length ≤ 2 ^ 16) {ans : RicMsg}
    (sent : .ric (.toXapp a (.ricMsg ans)) ∈ d.wire) (kind : about ans = some type) :
    ∃ n msg req, (∃ p ∈ d.wire, p.fromNode = some (n, msg)) ∧ ans = Ric.withRicId req.ricId msg ∧
      Handled inst h n type msg.ricId ∧ ForwardedAs inst h req msg.ricId ∧
      UserAsked inst h a type req ∧ eqGlobalE2NodeId (inst.node n) req.id := by
  obtain ⟨y, past, out⟩ := ric_sent run sent
  obtain ⟨later, earlier, cut⟩ := List.append_of_mem past
  have ric := ric_run run
  obtain ⟨msg, x, came, mine, rfl, address⟩ := Ric.answer_origin (cut ▸ ric) out
  have cut' : (ricPart inst).history h = (later ++ [y]) ++ earlier := by rw [cut]; simp
  have mine' : (msg.ricId.ricReqId.toUInt16, x) ∈ Ric.assignments ((ricPart inst).history h) := by
    rw [cut', Ric.assignments_append]
    exact List.mem_append_right _ mine
  have address' : (x.xappId, a) ∈ Ric.registrations ((ricPart inst).history h) := by
    rw [cut', Ric.registrations, List.flatMap_append]
    exact List.mem_append_right _ address
  obtain ⟨n, p, onWire, told⟩ := arrived_sent run cut' came
  have handled := answer_handled run onWire told ((about_withRicId x.ricId msg).1 ▸ kind)
  obtain ⟨q, onWire', told'⟩ := handled_heard run handled
  obtain ⟨req, src, user, -, registered, node, forwarded⟩ :=
    nodeRequest_traced run onWire' told'
  -- The id that the node got was handed out once, and the xApp's id was registered once.
  have same := Ric.assignments_functional ric few mine' forwarded.handedOut
  subst same
  cases Ric.registrations_functional ric address' registered
  exact ⟨n, msg, req, ⟨p, onWire, told⟩, rfl, handled, forwarded, user, node⟩

/-- Whatever request a node takes, a user of an xApp asked for it, of this node and for the RAN
    function that it is taken for; and whatever subscription it deletes, a user asked this node
    for one of the same RAN function. -/
theorem nodes_serve_users (run : (machine inst).Run d h) :
    (∀ type ricId, Handled inst h n type ricId →
      ∃ req src, UserAsked inst h src type req ∧ eqGlobalE2NodeId (inst.node n) req.id ∧
        ricId.ranFuncId = req.ricId.ranFuncId ∧ ricId.ricInstId = 0) ∧
    ∀ y ∈ (agentPart inst n).history h, ∀ ricId, y.event = .subscriptionDelete ricId →
      ∃ req src, UserAsked inst h src .subscription req ∧ eqGlobalE2NodeId (inst.node n) req.id ∧
        ricId.ranFuncId = req.ricId.ranFuncId ∧ ricId.ricInstId = 0 := by
  constructor
  · intro type ricId handled
    obtain ⟨p, mem, told⟩ := handled_heard run handled
    obtain ⟨req, src, user, zero, -, node, forwarded⟩ := nodeRequest_traced run mem told
    exact ⟨req, src, user, node, forwarded.func, forwarded.instId.trans zero⟩
  · intro y past ricId event
    have heard := agent_heard run past
    rw [event] at heard
    obtain ⟨p, mem, told⟩ := heard
    obtain ⟨req, src, user, zero, node, func, instId⟩ := delete_traced run mem told
    exact ⟨req, src, user, node, func, instId.trans zero⟩

theorem nodes_serve_users_lab : ∃ req src,
    UserAsked lab ((machine lab).replay subscribe).2 src .subscription req ∧
      eqGlobalE2NodeId Ric.gnb req.id ∧ req.ricId.ranFuncId = 2 := by
  have run := (machine lab).run_replay subscribe
  have taken : ∃ y ∈ (agentPart lab Ric.gnbAddr).history ((machine lab).replay subscribe).2,
      y.event = .subscriptionRequest 11 (E2Agent.reportRequest 1021 2) (.periodic 1000) := by
    decide +kernel
  obtain ⟨y, past, event⟩ := taken
  obtain ⟨req, src, user, node, func, -⟩ := (nodes_serve_users run).1 .subscription ⟨1021, 0, 2⟩
    ⟨y, past, _, _, _, event, rfl⟩
  exact ⟨req, src, user, node, func.symm⟩

/-- As long as the RIC's ids last, an xApp that takes an answer to a request has a user who asked
    for it under this id, and the node that the user named has taken it, under the id that the RIC
    had given to this very request. -/
theorem answers_confirm_requests (run : (machine inst).Run d (later ++ x :: earlier))
    (few : (Ric.assignments ((ricPart inst).history earlier)).length ≤ 2 ^ 16)
    (event : x.event = .xapp a (.xapp (.answer (request type req)))) :
    ∃ n ricId req', req'.ricId = req.ricId ∧ UserAsked inst earlier a type req' ∧
      eqGlobalE2NodeId (inst.node n) req'.id ∧ ForwardedAs inst earlier req' ricId ∧
      Handled inst earlier n type ricId := by
  obtain ⟨y, -, -, -, -, hears⟩ := xapp_entry run event
  obtain ⟨before, -, -⟩ := run.cut
  obtain ⟨p, mem, told⟩ := hears
  unfold answersFor at told
  split at told
  · rename_i info ans toXapp
    simp only [Bool.and_eq_true, decide_eq_true_eq] at told
    obtain ⟨rfl, answered⟩ := told
    obtain ⟨kind, same⟩ := about_of_answeredBy answered
    cases Packet.toXapp_eq_some toXapp
    obtain ⟨n, msg, req', -, rfl, handled, forwarded, user, node⟩ :=
      answer_traced before few mem kind
    exact ⟨n, msg.ricId, req', (about_withRicId _ _).2.symm.trans same, user, node, forwarded,
      handled⟩
  · cases told

theorem answers_confirm_requests_lab : ∃ x earlier n ricId req,
    ((machine lab).replay (subscribe ++ confirm)).2 = x :: earlier ∧
      Handled lab earlier n .subscription ricId ∧ ForwardedAs lab earlier req ricId ∧
      UserAsked lab earlier Ric.xappAddr .subscription req ∧ req.ricId = Ric.localId := by
  have run := (machine lab).run_replay (subscribe ++ confirm)
  have cut := (List.cons_head_tail (show ((machine lab).replay (subscribe ++ confirm)).2 ≠ [] by
    decide +kernel)).symm
  rw [cut, ← List.nil_append (_ :: _)] at run
  obtain ⟨n, ricId, req, same, user, -, forwarded, handled⟩ :=
    @answers_confirm_requests _ lab _ _ _ _ Ric.xappAddr .subscription labRequest run
      (by decide +kernel) (by decide +kernel)
  exact ⟨_, _, n, ricId, req, cut, handled, forwarded, user, same⟩

/-- As long as the RIC's ids last, what is dispatched to a callback is an indication that the node
    its user named sent, for the subscription of the procedure that the user started with this
    callback: the procedure is still live, and the node has taken its request under the id that
    the RIC had given to it. -/
theorem indications_reach_their_subscriber (run : (machine inst).Run d (later ++ x :: earlier))
    (few : (Ric.assignments ((ricPart inst).history earlier)).length ≤ 2 ^ 16) {e : ProcEvent}
    {out : List (ProcOutput π)} (event : x.event = .xapp a e) (output : x.output = .xapp out)
    {smCb : Option Nat} {rd : SmAgIfRdInd π} (dispatched : ProcOutput.dispatched smCb rd ∈ out) :
    ∃ ind cb req n ricId actionId, e = .indication ind ∧
      rd = inst.onIndication ind.ricId.ranFuncId ind.bytes ∧ smCb = some cb ∧
      ActiveProcedures.procedures ((xappPart inst a).history earlier) ind.ricId.ricReqId =
        some ⟨.ricSubscriptionProcedureActive, ind.ricId.ranFuncId, req.id, some cb⟩ ∧
      req.ricId = ind.ricId ∧ UserAsked inst earlier a .subscription req ∧
      eqGlobalE2NodeId (inst.node n) req.id ∧ ForwardedAs inst earlier req ricId ∧
      Handled inst earlier n .subscription ricId ∧
      .agent n (.indication ricId actionId) ∈ x.before.wire := by
  obtain ⟨y, seen, here, rfl, same, hears⟩ := xapp_entry run event
  cases output.symm.trans same
  obtain ⟨before, -, -⟩ := run.cut
  have upto := run.upto
  have mine : y ∈ (xappPart inst a).history ([] ++ x :: earlier) := Machine.Part.mem_history seen
  obtain ⟨xapp, there⟩ := (xapp_follows upto a).state_of_mem mine
  obtain ⟨xappId, alone⟩ := xapp_run upto there
  rw [Machine.Part.history_cons, seen] at alone
  have alone' : (ActiveProcedures.openMachine inst.onIndication inst.xappPlugin xappId).Run xapp
    ([] ++ y :: (xappPart inst a).history earlier) := alone
  obtain ⟨ind, reg, isInd, decoded, live, callback⟩ :=
    ActiveProcedures.dispatched_origin alone' dispatched
  rw [isInd] at hears
  obtain ⟨p, mem, told⟩ := hears
  cases Packet.toXapp_eq_some told
  obtain ⟨n, msg, req, ⟨q, onWire, fromNode⟩, answer, handled, forwarded, user, node⟩ :=
    answer_traced before few mem rfl
  obtain ⟨ricId, rfl, sameId⟩ := eq_indication_of_withRicId answer.symm
  obtain ⟨actionId, rfl⟩ := Packet.fromNode_indication fromNode
  -- The procedure that is found is the one that the request was sent for.
  have asked := user
  obtain ⟨cb, hasCallback, given⟩ := user
  obtain ⟨_, alone⟩ := xapp_run before here
  rw [sameId, ActiveProcedures.given_short alone given] at live
  cases ActiveProcedures.given_functional alone (ActiveProcedures.procedures_given live) given
  obtain ⟨cb, rfl⟩ := Option.isSome_iff_exists.mp (hasCallback rfl)
  refine ⟨ind, cb, req, n, ricId, actionId, isInd, decoded, callback.symm, ?_, sameId.symm, asked,
    node, forwarded, handled, onWire⟩
  rw [sameId]
  exact live

theorem indications_reach_their_subscriber_lab : ∃ x earlier req n ricId,
    ((machine lab).replay (subscribe ++ confirm ++ indicate)).2 = x :: earlier ∧
      x.output = .xapp [.recorded Ric.gnb ⟨.kpmStatsV3_0, ()⟩,
        .dispatched (some 5) ⟨.kpmStatsV3_0, ()⟩] ∧
      UserAsked lab earlier Ric.xappAddr .subscription req ∧ ForwardedAs lab earlier req ricId ∧
      Handled lab earlier n .subscription ricId := by
  have run := (machine lab).run_replay (subscribe ++ confirm ++ indicate)
  have cut := (List.cons_head_tail (show
    ((machine lab).replay (subscribe ++ confirm ++ indicate)).2 ≠ [] by decide +kernel)).symm
  rw [cut, ← List.nil_append (_ :: _)] at run
  obtain ⟨-, -, req, n, ricId, -, -, -, -, -, -, asked, -, forwarded, handled, -⟩ :=
    @indications_reach_their_subscriber _ lab _ _ _ _ Ric.xappAddr run (by decide +kernel)
      (.indication ⟨Ric.localId, []⟩)
      [.recorded Ric.gnb ⟨.kpmStatsV3_0, ()⟩, .dispatched (some 5) ⟨.kpmStatsV3_0, ()⟩]
      (by decide +kernel) (by decide +kernel) (some 5) ⟨.kpmStatsV3_0, ()⟩ (by simp)
  exact ⟨_, _, req, n, ricId, cut, by decide +kernel, asked, forwarded, handled⟩

end Deployment

end FlexRic
