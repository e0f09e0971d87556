import FlexRic.Ric.Routing

/-! # Where the messages of the RIC come from

A request that goes out to a node is an xApp's, and the node has set up under the address that it
goes to; an answer that goes out to an xApp is a node's, about a request of that xApp.
-/

namespace FlexRic

namespace Ric

variable {plugin : List UInt16} {s s' : Ric} {h later earlier : History} {e : RicEvent}
  {out : List Sent} {entry : Entry Ric RicEvent (List Sent)} {info : SctpInfo}

/-- The node set up from the address. -/
def SetUp (h : History) (id : GlobalE2NodeId) (info : SctpInfo) : Prop :=
  ∃ x ∈ h, ∃ req, x.event = .setupRequest req info ∧ req.id = id

theorem SetUp.append {id : GlobalE2NodeId} (setUp : SetUp earlier id info) :
    SetUp (later ++ earlier) id info := by
  obtain ⟨x, mem, known⟩ := setUp
  exact ⟨x, List.mem_append_right _ mem, known⟩

theorem SetUp.cons {id : GlobalE2NodeId} (setUp : SetUp h id info) :
    SetUp (entry :: h) id info := by
  rw [← List.singleton_append]
  exact setUp.append

/-- Addresses are those of setup requests. -/
structure Addressed (s : Ric) (h : History) : Prop where
  waiting : ∀ req info, Task.regSockAddr req info ∈ s.tasks → SetUp h req.id info
  kept : ∀ id info, (id, info) ∈ s.ric.e2Nodes.pairs → SetUp h id info

theorem addressed_init : Addressed (initRic plugin) [] where
  waiting := by simp [initRic]
  kept := by simp [initRic, initNearRic]

/-- What a step does to the addresses of the nodes. -/
theorem Step.e2Nodes_cases (step : Step s e s' out) {id : GlobalE2NodeId}
    (mem : (id, info) ∈ s'.ric.e2Nodes.pairs) :
    (id, info) ∈ s.ric.e2Nodes.pairs ∨
      ∃ req, Task.regSockAddr req info ∈ s.tasks ∧ req.id = id := by
  cases step with
  | regSockAddr task =>
      rcases List.mem_cons.mp ((BiMap.pairs_insert _ _ _).mem_iff.mp mem) with new | old
      · obtain ⟨rfl, rfl⟩ := Prod.mk.inj new
        exact .inr ⟨_, List.mem_of_getElem? task, rfl⟩
      · exact .inl old
  | nodeShutdown removed => exact .inl (BiMap.extractRight_subset removed mem)
  | handle task handled =>
      obtain ⟨pending, timers, rfl⟩ := e2apMsgHandleRic_frame handled
      exact .inl mem
  | disconnect leaving removed =>
      obtain ⟨-, rfl⟩ := disconnectE2Node_ok removed
      exact .inl mem
  | forwardDelete next forwarded =>
      rcases fwdRicSubscriptionRequestDelete_ok forwarded with ⟨rfl, -⟩ | ⟨rfl, -⟩
      · exact .inl mem
      · exact .inl mem
  | e42Subscription done => cases done; exact .inl mem
  | e42Control done => cases done; exact .inl mem
  | _ => exact .inl mem

theorem Addressed.step (inv : Addressed s h) (step : Step s e s' out) :
    Addressed s' (⟨s, e, out, s'⟩ :: h) where
  waiting req info mem := by
    rcases step.task_origin mem with old | new
    · exact (inv.waiting req info old).cons
    · exact ⟨_, List.mem_cons_self, req, new, rfl⟩
  kept id info mem := by
    rcases step.e2Nodes_cases mem with old | ⟨req, task, rfl⟩
    · exact (inv.kept id info old).cons
    · exact (inv.waiting req info task).cons

theorem addressed_run (run : (machine plugin).Run s h) : Addressed s h := by
  induction run with
  | start => exact addressed_init
  | next _ enabled moved ih => exact ih.step (step_cases enabled moved)

theorem mem_of_findMapE2NodeSad {m : MapE2NodeSad} {id : GlobalE2NodeId}
    (found : findMapE2NodeSad m id = .ok info) :
    ∃ id', (id', info) ∈ m.pairs ∧ eqGlobalE2NodeId id' id := by
  unfold findMapE2NodeSad at found
  split at found
  · cases found
  · rename_i id' info' hit
    cases found
    exact ⟨id', (AssocRbTree.findIf_some hit).1, (AssocRbTree.findIf_some hit).2⟩

theorem Requested.toNode_eq {type type' : RicReqType} {fd : Fd} {req : E42Request}
    {id : GlobalE2NodeId} {ricId : RicGenId} (done : Requested type' s fd req s' out)
    (sent : Sent.toNode id info (nodeRequest type ricId) ∈ out) :
    type = type' ∧ req.id = id ∧ ricId = s.sentId req ∧
      findMapE2NodeSad s.ric.e2Nodes id = .ok info := by
  cases done with
  | mk _ _ found _ =>
      obtain ⟨rfl, rfl, same⟩ := Sent.toNode.inj (List.mem_singleton.mp sent)
      cases type <;> cases type' <;> cases same
      · exact ⟨rfl, rfl, rfl, found⟩
      · exact ⟨rfl, rfl, rfl, found⟩

/-- A request that goes through hands an id out. -/
theorem Requested.assigned_eq {type : RicReqType} {fd : Fd} {req : E42Request}
    (done : Requested type s fd req s' out) :
    assigned ⟨s, requestArrives type fd req, out, s'⟩ =
      some (s.nextId, ⟨req.ricId, req.xappId⟩) := by
  have handedOut := assigned_requested done
  cases type <;> simp only [assigned, requestArrives, handedOut, Option.map_some]

theorem sentId_toUInt16 (s : Ric) (req : E42Request) :
    (s.sentId req).ricReqId.toUInt16 = s.nextId := storeLow16_toUInt16 _ _

theorem Step.toNode_cases (step : Step s e s' out) {type : RicReqType} {id : GlobalE2NodeId}
    {ricId : RicGenId} (sent : Sent.toNode id info (nodeRequest type ricId) ∈ out) :
    ∃ fd req, e = requestArrives type fd req ∧ Requested type s fd req s' out := by
  cases step with
  | e42Subscription done =>
      obtain ⟨rfl, -⟩ := done.toNode_eq sent
      exact ⟨_, _, rfl, done⟩
  | e42Control done =>
      obtain ⟨rfl, -⟩ := done.toNode_eq sent
      exact ⟨_, _, rfl, done⟩
  | forwardDelete next forwarded =>
      rcases fwdRicSubscriptionRequestDelete_ok forwarded with ⟨-, rfl, -⟩ | ⟨-, -, _, -, rfl⟩
      · cases sent
      · cases type <;> simp [nodeRequest] at sent
  | _ => simp at sent

/-- A request to a node is an xApp's, under the id handed out for it, and goes to an address that
    such a node set up from. -/
theorem request_origin (run : (machine plugin).Run s (later ++ entry :: earlier))
    {type : RicReqType} {id : GlobalE2NodeId} {ricId : RicGenId}
    (sent : Sent.toNode id info (nodeRequest type ricId) ∈ entry.output) :
    ∃ fd req, entry.event = requestArrives type fd req ∧ req.id = id ∧
      ricId.ranFuncId = req.ricId.ranFuncId ∧ ricId.ricInstId = req.ricId.ricInstId ∧
      (ricId.ricReqId.toUInt16, ⟨req.ricId, req.xappId⟩) ∈ assignments (later ++ entry :: earlier) ∧
      ∃ id', SetUp earlier id' info ∧ eqGlobalE2NodeId id' id := by
  obtain ⟨before, enabled, moved⟩ := run.cut
  obtain ⟨fd, req, event, done⟩ := (step_cases enabled moved).toNode_cases sent
  obtain ⟨-, node, rfl, found⟩ := done.toNode_eq sent
  obtain ⟨id', known, same⟩ := mem_of_findMapE2NodeSad found
  have handedOut := done.assigned_eq
  rw [← event, ← sentId_toUInt16 _ req] at handedOut
  refine ⟨fd, req, event, node, rfl, rfl, ?_, id', (addressed_run before).kept id' info known, same⟩
  exact List.mem_filterMap.mpr ⟨entry, by simp, handedOut⟩

/-- A subscription of this node went through, and goes by this id there. -/
def Subscribed (h : History) (id : GlobalE2NodeId) (ricId : RicGenId) : Prop :=
  ∃ y ∈ h, ∃ fd req n, y.event = .e42Subscription fd req ∧ req.id = id ∧
    assigned y = some (n, ⟨req.ricId, req.xappId⟩) ∧
    ricId = { req.ricId with ricReqId := n.toUInt32 }

theorem Subscribed.append {id : GlobalE2NodeId} {ricId : RicGenId}
    (subscribed : Subscribed earlier id ricId) : Subscribed (later ++ earlier) id ricId := by
  obtain ⟨y, mem, known⟩ := subscribed
  exact ⟨y, List.mem_append_right _ mem, known⟩

theorem Subscribed.cons {id : GlobalE2NodeId} {ricId : RicGenId}
    (subscribed : Subscribed h id ricId) : Subscribed (entry :: h) id ricId := by
  rw [← List.singleton_append]
  exact subscribed.append

/-- What is kept about a subscription, and what is to be deleted, went through. -/
structure Kept (s : Ric) (h : History) : Prop where
  mapped : ∀ n x, (n, x) ∈ s.iapp.mapRicId.pairs →
    n.ricId = { x.ricId with ricReqId := n.ricId.ricReqId } ∧
      (n.ricReqType = .subscription → Subscribed h n.e2NodeId n.ricId)
  deletes : ∀ d ∈ s.deletes, Subscribed h d.id d.ricId

theorem kept_init : Kept (initRic plugin) [] where
  mapped := by simp [initRic, initE42Iapp]
  deletes := by simp [initRic]

/-- An entry of the map is a request that went through. -/
theorem Step.mapped_cases (step : Step s e s' out) (consistent : s.iapp.mapRicId.Consistent)
    {n : E2NodeRicId} {x : XappRicId} (mem : (n, x) ∈ s'.iapp.mapRicId.pairs) :
    (n, x) ∈ s.iapp.mapRicId.pairs ∨
      ∃ type fd req, e = requestArrives type fd req ∧ Requested type s fd req s' out ∧
        n = s.mappedRequest type req ∧ x = ⟨req.ricId, req.xappId⟩ := by
  cases step with
  | @e42Subscription fd req _ _ done =>
      cases done with
      | mk validXapp validNode found added =>
          rcases (MapRicId.mem_add added).mp mem with new | old
          · obtain ⟨rfl, rfl⟩ := Prod.mk.inj new
            exact .inr ⟨.subscription, fd, req, rfl, .mk validXapp validNode found added, rfl, rfl⟩
          · exact .inl old
  | @e42Control fd req _ _ done =>
      cases done with
      | mk validXapp validNode found added =>
          rcases (MapRicId.mem_add added).mp mem with new | old
          · obtain ⟨rfl, rfl⟩ := Prod.mk.inj new
            exact .inr ⟨.control, fd, req, rfl, .mk validXapp validNode found added, rfl, rfl⟩
          · exact .inl old
  | remove task removed =>
      obtain ⟨_, perm, -⟩ := consistent.rm removed
      exact .inl (perm.mem_iff.mpr (List.mem_cons_of_mem _ mem))
  | _ => exact .inl mem

/-- A delete is for an entry of the map. -/
theorem Step.deletes_cases (step : Step s e s' out) (routed : Routed s h) (inv : Kept s h)
    {d : Delete} (mem : d ∈ s'.deletes) :
    d ∈ s.deletes ∨ ∃ n x, (n, x) ∈ s.iapp.mapRicId.pairs ∧ n.ricReqType = .subscription ∧
      d = ⟨n.e2NodeId, n.ricId⟩ := by
  cases step with
  | @e42Delete xappId ricId n found type =>
      obtain ⟨⟨_, other⟩, stored, rfl, -⟩ :=
        MapRicId.findRicReq_ok routed.consistent.inverse found
      cases List.mem_singleton.mp mem
      have same := (inv.mapped n _ stored).1
      exact .inr ⟨n, _, stored, type, congrArg (Delete.mk n.e2NodeId) same.symm⟩
  | xappShutdown found =>
      obtain ⟨n, among, rfl⟩ := List.mem_map.mp mem
      obtain ⟨x, stored, -, type⟩ := (MapRicId.mem_findAllSubs routed.consistent.inverse).mp among
      exact .inr ⟨n, x, stored, type, rfl⟩
  | forwardDelete next =>
      rw [next]
      exact .inl (List.mem_cons_of_mem _ mem)
  | e42Subscription done =>
      cases done
      exact .inl mem
  | e42Control done =>
      cases done
      exact .inl mem
  | _ => exact .inl mem

theorem Kept.step (inv : Kept s h) (routed : Routed s h) (step : Step s e s' out) :
    Kept s' (⟨s, e, out, s'⟩ :: h) where
  mapped n x mem := by
    rcases step.mapped_cases routed.consistent mem with old | ⟨type, fd, req, rfl, done, rfl, rfl⟩
    · obtain ⟨same, subscribed⟩ := inv.mapped n x old
      exact ⟨same, fun type => (subscribed type).cons⟩
    · refine ⟨rfl, fun kind => ?_⟩
      cases kind
      exact ⟨_, List.mem_cons_self, fd, req, s.nextId, rfl, rfl, done.assigned_eq, rfl⟩
  deletes d mem := by
    rcases step.deletes_cases routed inv mem with old | ⟨n, x, stored, type, rfl⟩
    · exact (inv.deletes d old).cons
    · exact ((inv.mapped n x stored).2 type).cons

theorem kept_run (run : (machine plugin).Run s h) : Kept s h := by
  induction run with
  | start => exact kept_init
  | next run enabled moved ih => exact ih.step (routed_run run) (step_cases enabled moved)

theorem Step.delete_cases (step : Step s e s' out) {id : GlobalE2NodeId} {ricId : RicGenId}
    (sent : Sent.toNode id info (.subscriptionDelete ricId) ∈ out) :
    (∃ d ∈ s.deletes, d = ⟨id, ricId⟩) ∧ findMapE2NodeSad s.ric.e2Nodes id = .ok info := by
  cases step with
  | forwardDelete next forwarded =>
      rcases fwdRicSubscriptionRequestDelete_ok forwarded with ⟨-, rfl, -⟩ | ⟨-, -, _, found, rfl⟩
      · cases sent
      · cases List.mem_singleton.mp sent
        exact ⟨⟨_, next ▸ List.mem_cons_self, rfl⟩, found⟩
  | e42Subscription done =>
      cases done
      cases List.mem_singleton.mp sent
  | e42Control done =>
      cases done
      cases List.mem_singleton.mp sent
  | _ => simp at sent

/-- A delete goes to an address that a node set up from whose subscription went through. -/
theorem delete_origin (run : (machine plugin).Run s (later ++ entry :: earlier))
    {id : GlobalE2NodeId} {ricId : RicGenId}
    (sent : Sent.toNode id info (.subscriptionDelete ricId) ∈ entry.output) :
    Subscribed earlier id ricId ∧ ∃ id', SetUp earlier id' info ∧ eqGlobalE2NodeId id' id := by
  obtain ⟨before, enabled, moved⟩ := run.cut
  obtain ⟨⟨d, among, rfl⟩, found⟩ := (step_cases enabled moved).delete_cases sent
  obtain ⟨id', known, same⟩ := mem_of_findMapE2NodeSad found
  exact ⟨(kept_run before).deletes _ among, id', (addressed_run before).kept id' info known, same⟩

/-- An answer to an xApp is a node's message, about the request that its id was handed out for,
    and goes to an address that the xApp of this request registered. -/
theorem answer_origin (run : (machine plugin).Run s (later ++ entry :: earlier)) {answer : RicMsg}
    (sent : Sent.toXapp info (.ricMsg answer) ∈ entry.output) :
    ∃ msg x, msg ∈ arrived earlier ∧ (msg.ricId.ricReqId.toUInt16, x) ∈ assignments earlier ∧
      answer = withRicId x.ricId msg ∧ (x.xappId, info) ∈ registrations earlier := by
  obtain ⟨before, enabled, moved⟩ := run.cut
  obtain ⟨i, msg, x, -, task, rfl, found⟩ := (step_cases enabled moved).toXapp_cases sent
  obtain ⟨came, mine, func, inst⟩ :=
    (routed_run before).inHand msg x (List.mem_of_getElem? task)
  exact ⟨msg, x, came, mine, ans_eq func inst,
    ((routed_run before).registered _).mpr (findMapXappsSad_ok found)⟩

/-- One xApp id stands for one address. -/
theorem registrations_functional (run : (machine plugin).Run s h) {xappId : UInt16}
    {info info' : SctpInfo} (mem : (xappId, info) ∈ registrations h)
    (mem' : (xappId, info') ∈ registrations h) : info = info' := by
  have inv := routed_run run
  have same := Comparator.eq_of_ties inv.addresses ((inv.registered _).mp mem)
    ((inv.registered _).mp mem') (Comparator.Ties.refl _ _)
  exact (Prod.mk.inj same).2

/-- One id stands for one request, as long as the ids last. -/
theorem assignments_functional (run : (machine plugin).Run s h)
    (few : (assignments h).length ≤ 2 ^ 16) {n : UInt16} {x y : XappRicId}
    (mem : (n, x) ∈ assignments h) (mem' : (n, y) ∈ assignments h) : x = y :=
  (Prod.mk.inj (List.inj_on_of_nodup_map (assignments_nodup run few) mem mem' rfl)).2

end Ric

end FlexRic
