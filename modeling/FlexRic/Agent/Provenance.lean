import FlexRic.Agent.Aperiodic

/-! # Where the messages of the agent come from

An indication is for a subscription that the agent has accepted, and a setup request names the
node of the agent. No order of requests is asked for: the trees of the two-way map may disagree,
but neither holds what was never subscribed.
-/

namespace FlexRic

namespace BiMap

variable {κ₁ κ₂ : Type} {l : Comparator κ₁} {r : Comparator κ₂}

/-- An extraction leaves no pair in the right tree that was not there. -/
theorem extractRight_right_subset {m m' : BiMap l r} {key2 : κ₂} {a : κ₁}
    (h : m.extractRight key2 = .ok (a, m')) {p : κ₂ × κ₁} (mem : p ∈ m'.right.toList) :
    p ∈ m.right.toList := by
  simp only [extractRight, bind_eq_ok, Prod.exists, check_eq_ok, pure_eq_ok, Prod.mk.injEq] at h
  obtain ⟨a, right, gotR, _, left, -, _, -, _, -, rfl, rfl⟩ := h
  obtain ⟨_, -, perm⟩ := AssocRbTree.extract_ok gotR
  exact perm.mem_iff.mpr (List.mem_cons_of_mem _ mem)

end BiMap

namespace E2Agent

variable {plugin : List UInt16} {ge2nid : GlobalE2NodeId} {compConfAdd : List NodeCompId}
  {ag ag' : E2Agent} {e : AgentEvent} {out : List AgentMsg} {h later earlier : History}
  {entry : Entry E2Agent AgentEvent (List AgentMsg)} {ricId : RicGenId} {actionId : UInt8}

/-- A subscription with this id and this action came in and was taken. -/
def Accepted (h : History) (ricId : RicGenId) (actionId : UInt8) : Prop :=
  ∃ x ∈ h, ∃ fd sr subs action, x.event = .subscriptionRequest fd sr subs ∧ sr.ricId = ricId ∧
    sr.action = [action] ∧ action.id = actionId

theorem Accepted.cons (accepted : Accepted h ricId actionId) :
    Accepted (entry :: h) ricId actionId := by
  obtain ⟨x, mem, known⟩ := accepted
  exact ⟨x, List.mem_cons_of_mem _ mem, known⟩

/-- The ids that the agent keeps, and those on their way through the channel, were accepted. -/
structure Backed (ag : E2Agent) (h : History) : Prop where
  left : ∀ p ∈ ag.indEvent.left.toList, Accepted h p.2.ricId p.2.actionId
  right : ∀ p ∈ ag.indEvent.right.toList, Accepted h p.1.ricId p.1.actionId
  producers : ∀ e, Producer.push e ∈ ag.chan.producers → Accepted h e.ricId e.actionId
  queue : ∀ e ∈ ag.chan.taken ++ ag.chan.aind, Accepted h e.ricId e.actionId

theorem backed_init : Backed (e2InitAgent plugin ge2nid compConfAdd) [] where
  left p mem := by cases mem
  right p mem := by cases mem
  producers e mem := by cases mem
  queue e mem := by cases mem

/-- What a step adds to the two trees is the subscription that it accepts. -/
theorem Step.indEvent_cases (step : Step ag e ag' out) :
    ((∀ p ∈ ag'.indEvent.left.toList, p ∈ ag.indEvent.left.toList) ∧
      ∀ p ∈ ag'.indEvent.right.toList, p ∈ ag.indEvent.right.toList) ∨
    ∃ fd fd' sr subs action type, e = .subscriptionRequest fd sr subs ∧ sr.action = [action] ∧
      ag'.indEvent = ag.indEvent.insert fd' (subscribed sr action type) := by
  cases step with
  | periodic supported long short => exact .inr ⟨_, _, _, _, _, _, rfl, supported.one, rfl⟩
  | aperiodic supported => exact .inr ⟨_, _, _, _, _, _, rfl, supported.one, rfl⟩
  | deletePeriodic removed timer watched =>
      exact .inl ⟨fun _ => BiMap.extractRight_subset removed,
        fun _ => BiMap.extractRight_right_subset removed⟩
  | deleteAperiodic removed =>
      exact .inl ⟨fun _ => BiMap.extractRight_subset removed,
        fun _ => BiMap.extractRight_right_subset removed⟩
  | _ => exact .inl ⟨fun _ mem => mem, fun _ mem => mem⟩

/-- A producer begins with an entry of the right tree. -/
theorem Step.producers_cases (step : Step ag e ag' out) {ev : AindEvent}
    (mem : Producer.push ev ∈ ag'.chan.producers) :
    Producer.push ev ∈ ag.chan.producers ∨
      ∃ p ∈ ag.indEvent.right.toList, ev.ricId = p.1.ricId ∧ ev.actionId = p.1.actionId := by
  cases step with
  | asyncEvent found =>
      rcases List.mem_append.mp mem with old | new
      · exact .inl old
      · cases List.mem_singleton.mp new
        exact .inr ⟨_, (AssocRbTree.findIf_some found).1, rfl, rfl⟩
  | produce i =>
      simp only [Channel.produce] at mem
      split at mem
      · exact .inl mem
      · rcases mem_advance mem with old | new
        · exact .inl old
        · cases new
      · rcases mem_advance mem with old | new
        · exact .inl old
        · cases new
  | _ => exact .inl mem

theorem mem_of_pushes {ev : AindEvent} (pushed : ag.pushes e = some ev) :
    Producer.push ev ∈ ag.chan.producers := by
  unfold pushes at pushed
  split at pushed
  · split at pushed
    · rename_i here
      cases pushed
      exact List.mem_of_getElem? here
    · cases pushed
  · cases pushed

theorem Backed.step (inv : Backed ag h) (enabled : ag.Enabled e) (step : Step ag e ag' out) :
    Backed ag' (⟨ag, e, out, ag'⟩ :: h) where
  left p mem := by
    rcases step.indEvent_cases with
      ⟨kept, -⟩ | ⟨fd, fd', sr, subs, action, type, rfl, one, inserted⟩
    · exact (inv.left p (kept p mem)).cons
    · rw [inserted] at mem
      rcases List.mem_cons.mp ((AssocRbTree.insert_perm _ _ _).mem_iff.mp mem) with rfl | old
      · exact ⟨_, List.mem_cons_self, fd, sr, subs, action, rfl, rfl, one, rfl⟩
      · exact (inv.left p old).cons
  right p mem := by
    rcases step.indEvent_cases with
      ⟨-, kept⟩ | ⟨fd, fd', sr, subs, action, type, rfl, one, inserted⟩
    · exact (inv.right p (kept p mem)).cons
    · rw [inserted] at mem
      rcases List.mem_cons.mp ((AssocRbTree.insert_perm _ _ _).mem_iff.mp mem) with rfl | old
      · exact ⟨_, List.mem_cons_self, fd, sr, subs, action, rfl, rfl, one, rfl⟩
      · exact (inv.right p old).cons
  producers ev mem := by
    rcases step.producers_cases mem with old | ⟨p, known, sameId, sameAction⟩
    · exact (inv.producers ev old).cons
    · rw [sameId, sameAction]
      exact (inv.right p known).cons
  queue ev mem := by
    have order := fifo_step enabled step
    rw [List.append_assoc] at order
    have among : ev ∈ ag.chan.taken ++ (ag.chan.aind ++ (ag.pushes e).toList) := by
      rw [order, List.append_assoc]
      exact List.mem_append_right _ mem
    rw [← List.append_assoc] at among
    rcases List.mem_append.mp among with old | pushed
    · exact (inv.queue ev old).cons
    · exact (inv.producers ev (mem_of_pushes (Option.mem_toList.mp pushed))).cons

theorem backed_run (run : (machine plugin ge2nid compConfAdd).Run ag h) : Backed ag h := by
  induction run with
  | start => exact backed_init
  | next _ enabled moved ih => exact ih.step enabled (step_cases enabled moved)

theorem Backed.indication (inv : Backed ag h) (step : Step ag e ag' out)
    (sent : AgentMsg.indication ricId actionId ∈ out) : Accepted h ricId actionId := by
  cases step with
  | indication found =>
      split at sent
      · obtain ⟨rfl, rfl⟩ := AgentMsg.indication.inj (List.mem_singleton.mp sent)
        obtain ⟨p, here, rfl⟩ := Option.map_eq_some_iff.mp found
        exact inv.left p (AssocRbTree.findIf_some here).1
      · cases sent
  | report at_ =>
      split at sent
      · obtain ⟨rfl, rfl⟩ := AgentMsg.indication.inj (List.mem_singleton.mp sent)
        apply inv.queue
        simp [Channel.taken, at_]
      · cases sent
  | _ => simp at sent

/-- An indication is for a subscription that was accepted. -/
theorem indication_origin
    (run : (machine plugin ge2nid compConfAdd).Run ag (later ++ entry :: earlier))
    (sent : AgentMsg.indication ricId actionId ∈ entry.output) :
    Accepted earlier ricId actionId := by
  obtain ⟨before, enabled, moved⟩ := run.cut
  exact (backed_run before).indication (step_cases enabled moved) sent

/-- The node of an agent stays what it is. -/
theorem globalE2NodeId_run (run : (machine plugin ge2nid compConfAdd).Run ag h) :
    ag.globalE2NodeId = ge2nid := by
  induction run with
  | start => rfl
  | next _ enabled moved ih =>
      cases step_cases enabled moved <;> exact ih

theorem Step.setupRequest_eq (step : Step ag e ag' out) {req : E2SetupRequest}
    (sent : AgentMsg.setupRequest req ∈ out) : req = ag.setupRequest := by
  cases step with
  | start loaded =>
      cases List.mem_singleton.mp sent
      rfl
  | resend none found loaded =>
      cases List.mem_singleton.mp sent
      rfl
  | indication | report =>
      split at sent <;> simp at sent
  | _ => simp at sent

/-- A setup request names the node of the agent. -/
theorem setupRequest_origin
    (run : (machine plugin ge2nid compConfAdd).Run ag (later ++ entry :: earlier))
    {req : E2SetupRequest}
    (sent : AgentMsg.setupRequest req ∈ entry.output) : req.id = ge2nid := by
  obtain ⟨before, enabled, moved⟩ := run.cut
  rw [(step_cases enabled moved).setupRequest_eq sent]
  exact globalE2NodeId_run before

theorem Step.subscriptionResponse_eq (step : Step ag e ag' out) {resp : RicSubscriptionResponse}
    (sent : AgentMsg.subscriptionResponse resp ∈ out) :
    ∃ fd sr subs, e = .subscriptionRequest fd sr subs ∧ resp.ricId = sr.ricId := by
  cases step with
  | periodic supported long short =>
      cases List.mem_singleton.mp sent
      exact ⟨_, _, _, rfl, rfl⟩
  | aperiodic supported =>
      cases List.mem_singleton.mp sent
      exact ⟨_, _, _, rfl, rfl⟩
  | indication | report =>
      split at sent <;> simp at sent
  | _ => simp at sent

/-- A subscription is answered when it is accepted. -/
theorem subscriptionResponse_origin
    (run : (machine plugin ge2nid compConfAdd).Run ag (later ++ entry :: earlier))
    {resp : RicSubscriptionResponse} (sent : AgentMsg.subscriptionResponse resp ∈ entry.output) :
    ∃ fd sr subs, entry.event = .subscriptionRequest fd sr subs ∧ resp.ricId = sr.ricId := by
  obtain ⟨-, enabled, moved⟩ := run.cut
  exact (step_cases enabled moved).subscriptionResponse_eq sent

end E2Agent

end FlexRic
