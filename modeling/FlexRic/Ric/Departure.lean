import FlexRic.Ric.Outstanding

/-! # When an E2 node leaves

A shutdown notification takes the node out of the address map, the connected
list and the registry. It looks neither at the map of request ids nor at the
pending events, so what refers to the node before it refers to it afterwards,
and a later delete looks up an address that is gone.
-/

namespace FlexRic

open Assertion

namespace Ric

variable {plugin : List UInt16} {s s' : Ric} {h : History}

/-- An entry of the map of request ids, or a pending event, is about this node. -/
def RefersTo (s : Ric) (h : History) (id : GlobalE2NodeId) : Prop :=
  (∃ p ∈ s.iapp.mapRicId.pairs, eqGlobalE2NodeId p.1.e2NodeId id) ∨
    ∃ p ∈ s.ric.pending.pairs, (sentTo h p.1).any fun id' => eqGlobalE2NodeId id' id

/-- Every subscription and every control of the node has been closed, and every
    request that went to it has been answered. -/
def Finished (h : History) (id : GlobalE2NodeId) : Prop :=
  openRequests id h = [] ∧ awaited id h = []

instance (h : History) (id : GlobalE2NodeId) : Decidable (Finished h id) :=
  inferInstanceAs (Decidable (_ ∧ _))

/-- What refers to a node is what is not finished there. -/
theorem refersTo_iff (run : (machine plugin).Run s h) {id : GlobalE2NodeId} :
    ¬RefersTo s h id ↔ Finished h id := by
  have entries : (∃ p ∈ s.iapp.mapRicId.pairs, eqGlobalE2NodeId p.1.e2NodeId id) ↔
      ∃ n, n ∈ openRequests id h := by
    simp only [mem_openRequests_iff run]
    constructor
    · intro entry
      obtain ⟨⟨m, x⟩, mem, here⟩ := entry
      obtain ⟨n, key, -⟩ := (routed_run run).mapped m x mem
      exact ⟨n, (m, x), mem, here, key⟩
    · intro entry
      obtain ⟨_, p, mem, here, -⟩ := entry
      exact ⟨p, mem, here⟩
  have events : (∃ p ∈ s.ric.pending.pairs, (sentTo h p.1).any fun id' =>
      eqGlobalE2NodeId id' id) ↔ ∃ fd, fd ∈ awaited id h := by
    simp only [(mem_awaited_iff run).2, Waits, Option.any_eq_true]
    constructor
    · intro event
      obtain ⟨⟨fd, ev⟩, mem, there⟩ := event
      exact ⟨fd, ⟨ev, mem⟩, there⟩
    · intro event
      obtain ⟨fd, ⟨ev, mem⟩, there⟩ := event
      exact ⟨(fd, ev), mem, there⟩
  rw [RefersTo, entries, events, Finished, not_or, not_exists, not_exists,
    ← List.eq_nil_iff_forall_not_mem, ← List.eq_nil_iff_forall_not_mem]

/-- The iApp's loop holds a delete for this node. -/
def DeletesAt (s : Ric) (id : GlobalE2NodeId) : Prop :=
  ∃ d ∈ s.deletes, eqGlobalE2NodeId d.id id

instance (s : Ric) (id : GlobalE2NodeId) : Decidable (DeletesAt s id) :=
  inferInstanceAs (Decidable (∃ d ∈ _, _))

/-- The condition on the events of a run: when a node leaves, its requests are finished. -/
def QuietDeparture (h : History) (s : Ric) : RicEvent → Prop
  | .nodeShutdown info => ∀ p ∈ s.ric.e2Nodes.pairs, eqSctpInfo p.2 info →
      Finished h p.1 ∧ ¬DeletesAt s p.1
  | .resumeShutdown =>
      match s.leaving with
      | some (.unregister id) => Finished h id
      | _ => True
  | _ => True

instance (h : History) (s : Ric) : (e : RicEvent) → Decidable (QuietDeparture h s e)
  | .nodeShutdown _ => inferInstanceAs (Decidable (∀ p ∈ _, _ → _))
  | .resumeShutdown =>
      match leaving : s.leaving with
      | some (.unregister id) =>
          decidable_of_iff (Finished h id) (by simp [QuietDeparture, leaving])
      | some (.disconnect _) | none => .isTrue (by simp [QuietDeparture, leaving])
  | .setupRequest .. | .ricMsg .. | .runTask .. | .timerFires .. | .e42Setup ..
  | .e42Subscription .. | .e42Control .. | .e42Delete .. | .xappShutdown .. | .forwardDelete .. =>
      .isTrue trivial

/-- The address map finds the node. -/
def HasAddress (s : Ric) (id : GlobalE2NodeId) : Prop :=
  ∃ q ∈ s.ric.e2Nodes.pairs, eqGlobalE2NodeId q.1 id

theorem findMapE2NodeSad_ok {m : MapE2NodeSad} {id : GlobalE2NodeId} {info : SctpInfo}
    (found : findMapE2NodeSad m id = .ok info) : ∃ q ∈ m.pairs, eqGlobalE2NodeId q.1 id := by
  unfold findMapE2NodeSad at found
  split at found
  · cases found
  · rename_i id' _ hit
    exact ⟨_, (AssocRbTree.findIf_some hit).1, (AssocRbTree.findIf_some hit).2⟩

theorem findMapE2NodeSad_of_mem {m : MapE2NodeSad} {id : GlobalE2NodeId}
    (known : ∃ q ∈ m.pairs, eqGlobalE2NodeId q.1 id) :
    ∃ info, findMapE2NodeSad m id = .ok info := by
  obtain ⟨q, mem, same⟩ := known
  unfold findMapE2NodeSad
  split
  · rename_i missed
    exact absurd same (AssocRbTree.findIf_none.mp missed q mem)
  · exact ⟨_, rfl⟩

/-- Every node that an entry or a waiting delete names has an address. -/
structure NoDangling (s : Ric) : Prop where
  mapped : ∀ p ∈ s.iapp.mapRicId.pairs, HasAddress s p.1.e2NodeId
  deletes : ∀ d ∈ s.deletes, HasAddress s d.id

theorem NoDangling.nodeShutdown {info : SctpInfo} {id : GlobalE2NodeId} {e2Nodes : MapE2NodeSad}
    (inv : NoDangling s) (run : (machine plugin).Run s h)
    (quiet : QuietDeparture h s (.nodeShutdown info))
    (removed : rmMapSadE2Node s.ric.e2Nodes info = .ok (id, e2Nodes)) :
    NoDangling { s with
      ric := { s.ric with e2Nodes := e2Nodes }, leaving := some (.disconnect id) } := by
  obtain ⟨a, b, -, ties, perm⟩ := BiMap.extractRight_perm removed
  obtain ⟨finished, undeleted⟩ :=
    quiet (a, b) (perm.mem_iff.mpr List.mem_cons_self) (eqSctpInfo_iff.mpr ties.symm)
  have unreferred := (refersTo_iff run).mpr finished
  -- the address that goes is not the one that was found
  have stays {id' : GlobalE2NodeId} (known : HasAddress s id')
      (other : ¬eqGlobalE2NodeId a id') : ∃ q ∈ e2Nodes.pairs, eqGlobalE2NodeId q.1 id' := by
    obtain ⟨q, mem, same⟩ := known
    rcases List.mem_cons.mp (perm.mem_iff.mp mem) with rfl | mem
    · exact absurd same other
    · exact ⟨q, mem, same⟩
  exact ⟨fun p mem => stays (inv.mapped p mem) fun same =>
      unreferred (.inl ⟨p, mem, eqGlobalE2NodeId_symm same⟩),
    fun d mem => stays (inv.deletes d mem) fun same =>
      undeleted ⟨d, mem, eqGlobalE2NodeId_symm same⟩⟩

/-- A step that keeps every address only has to answer for what it adds. -/
theorem NoDangling.of_kept (inv : NoDangling s)
    (kept : ∀ q ∈ s.ric.e2Nodes.pairs, q ∈ s'.ric.e2Nodes.pairs)
    (mapped : ∀ p ∈ s'.iapp.mapRicId.pairs,
      p ∈ s.iapp.mapRicId.pairs ∨ HasAddress s p.1.e2NodeId)
    (deletes : ∀ d ∈ s'.deletes, d ∈ s.deletes ∨ HasAddress s d.id) : NoDangling s' := by
  have still {id : GlobalE2NodeId} (known : HasAddress s id) : HasAddress s' id := by
    obtain ⟨q, mem, same⟩ := known
    exact ⟨q, kept q mem, same⟩
  exact ⟨fun p mem => still ((mapped p mem).elim (inv.mapped p) id),
    fun d mem => still ((deletes d mem).elim (inv.deletes d) id)⟩

theorem NoDangling.requested {type : RicReqType} {fd : Fd} {req : E42Request} {out : List Sent}
    (inv : NoDangling s) (done : Requested type s fd req s' out) : NoDangling s' := by
  cases done with
  | mk _ _ found added =>
      refine inv.of_kept (fun _ mem => mem) (fun p mem => ?_) (fun _ mem => .inl mem)
      rcases (MapRicId.mem_add added).mp mem with rfl | old
      · exact .inr (findMapE2NodeSad_ok found)
      · exact .inl old

theorem noDangling_step {e : RicEvent} {out : List Sent} (inv : NoDangling s)
    (run : (machine plugin).Run s h) (quiet : QuietDeparture h s e)
    (step : Step s e s' out) : NoDangling s' := by
  have consistent := (routed_run run).consistent
  cases step with
  | nodeShutdown removed => exact inv.nodeShutdown run quiet removed
  | regSockAddr task =>
      refine inv.of_kept (fun q mem => ?_) (fun _ mem => .inl mem) (fun _ mem => .inl mem)
      exact (BiMap.pairs_insert _ _ _).mem_iff.mpr (List.mem_cons_of_mem _ mem)
  | handle task handled =>
      obtain ⟨_, _, rfl⟩ := e2apMsgHandleRic_frame handled
      exact ⟨inv.mapped, inv.deletes⟩
  | remove task removed =>
      obtain ⟨n, perm, -⟩ := consistent.rm removed
      exact inv.of_kept (fun _ mem => mem)
        (fun _ mem => .inl (perm.mem_iff.mpr (List.mem_cons_of_mem _ mem)))
        (fun _ mem => .inl mem)
  | disconnect leaving removed =>
      obtain ⟨-, rfl⟩ := disconnectE2Node_ok removed
      exact ⟨inv.mapped, inv.deletes⟩
  | e42Subscription done => exact inv.requested done
  | e42Control done => exact inv.requested done
  | e42Delete found type =>
      obtain ⟨y, stored, -⟩ := MapRicId.findRicReq_ok consistent.inverse found
      refine inv.of_kept (fun _ mem => mem) (fun _ mem => .inl mem) (fun d mem => ?_)
      cases List.mem_singleton.mp mem
      exact .inr (inv.mapped _ stored)
  | xappShutdown found =>
      refine inv.of_kept (fun _ mem => mem) (fun _ mem => .inl mem) (fun d mem => ?_)
      obtain ⟨n, listed, rfl⟩ := List.mem_map.mp mem
      obtain ⟨x, stored, -⟩ := (MapRicId.mem_findAllSubs consistent.inverse).mp listed
      exact .inr (inv.mapped _ stored)
  | forwardDelete next forwarded =>
      have rest : ∀ d ∈ _, d ∈ s.deletes := fun d mem => next ▸ List.mem_cons_of_mem _ mem
      rcases fwdRicSubscriptionRequestDelete_ok forwarded with ⟨rfl, -⟩ | ⟨rfl, -⟩
      · exact inv.of_kept (fun _ mem => mem) (fun _ mem => .inl mem)
          (fun d mem => .inl (rest d mem))
      · exact inv.of_kept (fun _ mem => mem) (fun _ mem => .inl mem)
          (fun d mem => .inl (rest d mem))
  | _ => exact ⟨inv.mapped, inv.deletes⟩

theorem noDangling_run (run : (machine plugin).Run s h)
    (quiet : Machine.MeetsAlong QuietDeparture h) : NoDangling s := by
  induction run with
  | start => exact ⟨by simp [machine, initRic, initE42Iapp], by simp [machine, initRic]⟩
  | next run enabled moved ih =>
      exact noDangling_step (ih quiet.2) run quiet.1 (step_cases enabled moved)

/-- The look-up is the only thing a delete can fail at, and it finds a known node. -/
theorem forwardDelete_ok (inv : NoDangling s) (fd : Fd) :
    ∃ s' out, s.step (.forwardDelete fd) = .ok (s', out) := by
  simp only [step]
  split
  · exact ⟨_, _, rfl⟩
  · rename_i d rest next
    obtain ⟨info, found⟩ := findMapE2NodeSad_of_mem
      (inv.deletes d (by rw [next]; exact List.mem_cons_self))
    simp only [fwdRicSubscriptionRequestDelete, e2apSendBytesRic]
    split
    · exact ⟨_, _, rfl⟩
    · rw [show findMapE2NodeSad (addPending s.ric fd _).e2Nodes d.id = .ok info from found]
      exact ⟨_, _, rfl⟩

/-- The last section of a shutdown changes nothing of what refers to the node. -/
theorem refersTo_unregister {x : Entry Ric RicEvent (List Sent)} {earlier : History}
    {id : GlobalE2NodeId} (run : (machine plugin).Run s (x :: earlier))
    (event : x.event = .resumeShutdown) (last : x.before.leaving = some (.unregister id)) :
    ¬RefersTo x.after (x :: earlier) id ↔ Finished earlier id := by
  obtain ⟨before, e, out, after⟩ := x
  simp only at event last
  subst event
  obtain ⟨earlierRun, enabled, moved⟩ := @Machine.Run.cut _ _ _ _ _ _ _ [] _ run
  have step : Step before .resumeShutdown after out := step_cases enabled moved
  rw [← refersTo_iff earlierRun]
  cases step with
  | disconnect leaving _ =>
      rw [last] at leaving
      cases leaving
  | unregister leaving removed => exact Iff.rfl

/-- Along every run: once a shutdown notification for a node has been handled, no
    entry of the map and no pending event refers to the node if and only if the
    requests of the node were finished before its last section. And along every run
    in which the requests of a node are finished when it leaves, every node that an
    entry names has an address, and no delete that an xApp's request or disconnect
    left to be forwarded fails. -/
theorem departure_clean_iff (run : (machine plugin).Run s h) :
    (∀ later x earlier id, h = later ++ x :: earlier → x.event = .resumeShutdown →
      x.before.leaving = some (.unregister id) →
      (¬RefersTo x.after (x :: earlier) id ↔ Finished earlier id)) ∧
    (Machine.MeetsAlong QuietDeparture h →
      (∀ p ∈ s.iapp.mapRicId.pairs, HasAddress s p.1.e2NodeId) ∧
      ∀ fd, ∃ s' out, s.step (.forwardDelete fd) = .ok (s', out)) := by
  refine ⟨fun later x earlier id cut event last => ?_, ?_⟩
  · exact refersTo_unregister (cut ▸ run).upto event last
  · intro quiet
    have inv := noDangling_run run quiet
    exact ⟨inv.mapped, forwardDelete_ok inv⟩

def shutdown (info : SctpInfo) : List RicEvent :=
  [.nodeShutdown info, .resumeShutdown, .resumeShutdown]

/-- A subscription that is answered and deleted and a control that is
    acknowledged, each up to the last section, before the node leaves. -/
def finished : List RicEvent :=
  subscribed ++ [.e42Control 22 ⟨7, gnb, ⟨2, 0, 2⟩⟩, .ricMsg (.controlAcknowledge ⟨1022, 0, 2⟩),
    .runTask 0, .runTask 0, .runTask 0, .runTask 0, .e42Delete 7 localId, .forwardDelete 21,
    .ricMsg (.subscriptionDeleteResponse ⟨1021, 0, 2⟩), .runTask 0, .runTask 0, .runTask 0,
    .runTask 0]

theorem departure_clean_iff_finished :
    ∃ x earlier, ((machine [2]).replay (finished ++ shutdown gnbAddr)).2 = x :: earlier ∧
      x.before.leaving = some (.unregister gnb) ∧ (assignments earlier).length = 2 ∧
      ¬RefersTo x.after (x :: earlier) gnb ∧
      ∀ fd, ∃ s' out, ((machine [2]).replay (finished ++ shutdown gnbAddr)).1.step
        (.forwardDelete fd) = .ok (s', out) := by
  have run := (machine [2]).run_replay (finished ++ shutdown gnbAddr)
  have cut := (List.cons_head_tail (show ((machine [2]).replay
    (finished ++ shutdown gnbAddr)).2 ≠ [] by decide +kernel)).symm
  obtain ⟨clean, addressed⟩ := departure_clean_iff run
  refine ⟨_, _, cut, by decide +kernel, by decide +kernel, ?_, ?_⟩
  · exact (clean [] _ _ _ cut (by decide +kernel) (by decide +kernel)).mpr (by decide +kernel)
  · exact (addressed (by decide +kernel)).2

/-- An xApp's subscription outlives its node, and the xApp then deletes it. -/
def leftBehind : List RicEvent := subscribed ++ shutdown gnbAddr ++ [.e42Delete 7 localId]

/-- The map still refers to the node that left, and the xApp's delete of its
    subscription stops the process. -/
theorem departure_not_clean :
    ¬∀ (plugin : List UInt16) (s : Ric) (h : History), (machine plugin).Run s h →
      (∀ p ∈ s.iapp.mapRicId.pairs, HasAddress s p.1.e2NodeId) ∧
      ∀ fd, s.Enabled (.forwardDelete fd) →
        s.step (.forwardDelete fd) ≠ .error e2NodeNotInTree := by
  intro clean
  have fails : (machine [2]).failure
      ((machine [2]).replay leftBehind).1 (.forwardDelete 21) = some e2NodeNotInTree := by
    decide +kernel
  exact (clean [2] _ _ ((machine [2]).run_replay leftBehind)).2 21 (by decide +kernel)
    (Machine.failure_eq_some.mp fails)

end Ric

end FlexRic
