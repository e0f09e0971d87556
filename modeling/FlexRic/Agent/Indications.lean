import FlexRic.Agent.Timers

/-! # The subscriptions of the agent

A periodic subscription is entered under its timer, every aperiodic one under
descriptor zero. A delete finds its entry in the right tree by the request id
and then extracts from the left tree by the descriptor, which for an aperiodic
subscription takes out whichever of them the search meets first.
-/

namespace FlexRic

open Assertion

namespace E2Agent

variable {plugin : List UInt16} {ge2nid : GlobalE2NodeId} {compConfAdd : List NodeCompId}
  {ag ag' : E2Agent} {e : AgentEvent} {out : List AgentMsg} {h : History}

/-- The ids of the live subscriptions, in the order they came. -/
def live : History → List RicGenId
  | [] => []
  | x :: h =>
      match x.event with
      | .subscriptionRequest _ sr _ => sr.ricId :: live h
      | .subscriptionDelete ricId => (live h).erase ricId
      | _ => live h

/-- The ids in the map, each as often as it is there. -/
def ids (ag : E2Agent) : List RicGenId := ag.indEvent.pairs.map fun p => p.2.ricId

/-- The trees are inverse to each other, and no id is entered twice. -/
structure Tracked (ag : E2Agent) : Prop where
  inverse : ag.indEvent.Inverse
  apart : ag.indEvent.pairs.Pairwise (cmpIndEvent.Apart Prod.snd)

/-- A granularity that the agent accepts. -/
def Granular : SmAgIfAnsSubs → Prop
  | .periodic ms => -1 < ms ∧ ms < 10001
  | .aperiodic => True

instance : (subs : SmAgIfAnsSubs) → Decidable (Granular subs)
  | .periodic _ => inferInstanceAs (Decidable (_ ∧ _))
  | .aperiodic => .isTrue trivial

/-- A request for one report of a loaded service model. -/
def Acceptable (ag : E2Agent) (sr : RicSubscriptionRequest) (subs : SmAgIfAnsSubs) : Prop :=
  sr.action.map RicAction.type = [.report] ∧ 0 < sr.ricId.ranFuncId ∧
    sr.ricId.ranFuncId ∈ ag.plugin ∧ Granular subs

instance (ag : E2Agent) (sr : RicSubscriptionRequest) (subs : SmAgIfAnsSubs) :
    Decidable (Acceptable ag sr subs) :=
  inferInstanceAs (Decidable (_ ∧ _ ∧ _ ∧ _))

/-- A request that comes in is acceptable and new. -/
def NewRequest (ag : E2Agent) : AgentEvent → Prop
  | .subscriptionRequest _ sr subs => Acceptable ag sr subs ∧ sr.ricId ∉ ag.ids
  | _ => True

instance (ag : E2Agent) : (e : AgentEvent) → Decidable (NewRequest ag e)
  | .subscriptionRequest _ _ _ => inferInstanceAs (Decidable (_ ∧ _))
  | .start .. | .subscriptionDelete _ | .setupResponse | .ricShutdown .. | .timerFires ..
  | .asyncEvent .. | .produce .. | .wake | .report .. | .readPipe => .isTrue trivial

/-- The condition on the events of a run: requests are new, and an aperiodic
    subscription is deleted only when its entry is the one that the search for
    descriptor zero meets first. -/
def IndEventOrderly (ag : E2Agent) : AgentEvent → Prop
  | .subscriptionRequest _ sr subs => Acceptable ag sr subs ∧ sr.ricId ∉ ag.ids
  | .subscriptionDelete ricId => ∀ p ∈ ag.indEvent.pairs, p.2.ricId = ricId → p.1 = 0 →
      ag.indEvent.left.find 0 = some p.2
  | _ => True

instance (ag : E2Agent) : (e : AgentEvent) → Decidable (IndEventOrderly ag e)
  | .subscriptionRequest _ _ _ => inferInstanceAs (Decidable (_ ∧ _))
  | .subscriptionDelete _ => inferInstanceAs (Decidable (∀ p ∈ _, _ → _ → _))
  | .start .. | .setupResponse | .ricShutdown .. | .timerFires .. | .asyncEvent .. | .produce ..
  | .wake | .report .. | .readPipe => .isTrue trivial

/-- What the entries are for. An accepted request adds one of its own. A delete
    takes out the entry of its id and stops that entry's timer, and leaves every
    other entry and timer as it is. -/
def Keeps (ag ag' : E2Agent) : AgentEvent → Prop
  | .subscriptionRequest _ sr _ => sr.ricId ∉ ag.ids ∧
      ∃ p, p.2.ricId = sr.ricId ∧ ag'.indEvent.pairs.Perm (p :: ag.indEvent.pairs)
  | .subscriptionDelete ricId =>
      ag'.indEvent.pairs.Perm (ag.indEvent.pairs.filter fun p => p.2.ricId ≠ ricId) ∧
        ∀ fd, fd ∈ ag'.timers ↔
          fd ∈ ag.timers ∧ ∀ p ∈ ag.indEvent.pairs, p.2.ricId = ricId → p.1 ≠ fd
  | _ => True

theorem Tracked.insert {fd : Fd} {ev : IndEvent} (inv : Tracked ag)
    (entered : ag'.indEvent = ag.indEvent.insert fd ev) (fresh : ev.ricId ∉ ag.ids) :
    Tracked ag' where
  inverse := entered ▸ inv.inverse.insert fd ev
  apart := by
    rw [entered, (BiMap.pairs_insert _ _ _).pairwise_iff fun {_ _} => Comparator.Apart.symm,
      List.pairwise_cons]
    refine ⟨fun p mem ties => fresh ?_, inv.apart⟩
    exact List.mem_map.mpr ⟨p, mem, (cmpIndEvent_ties.mp ties).symm⟩

theorem Tracked.missing_iff (inv : Tracked ag) {ricId : RicGenId} :
    ag.indEvent.right.findIf (eqIndEvent ricId) = none ↔ ricId ∉ ag.ids := by
  rw [AssocRbTree.findIf_none]
  constructor
  · intro missing mem
    obtain ⟨p, stored, rfl⟩ := List.mem_map.mp mem
    exact missing (p.2, p.1) (inv.inverse.mem_right.mpr stored) (by simp [eqIndEvent])
  · intro missing q stored found
    exact missing (List.mem_map.mpr ⟨(q.2, q.1), inv.inverse.mem_right.mp stored,
      (eqRicGenId_iff.mp found).symm⟩)

/-- The entry that a delete takes out is the one of its id, and the search met it. -/
theorem Tracked.removed (inv : Tracked ag) {ricId : RicGenId} {fd : Fd}
    {indEvent : BiMap cmpFd cmpIndEvent}
    (removed : ag.indEvent.extractRight (sought ricId) = .ok (fd, indEvent)) :
    ∃ ev, ev.ricId = ricId ∧ ag.indEvent.left.find fd = some ev ∧
      ag.indEvent.pairs.Perm ((fd, ev) :: indEvent.pairs) ∧ indEvent.Inverse := by
  obtain ⟨a, b, ties, tied, perm⟩ := BiMap.extractRight_perm removed
  cases cmpFd_ties.mp ties
  have stored : (fd, b) ∈ ag.indEvent.pairs := perm.mem_iff.mpr List.mem_cons_self
  obtain ⟨-, found⟩ := BiMap.find_of_extractRight inv.inverse inv.apart stored tied removed
  obtain ⟨m', again, perm', inverse⟩ :=
    BiMap.extractRight_of_find inv.inverse inv.apart stored tied found
  cases again.symm.trans removed
  exact ⟨b, (cmpIndEvent_ties.mp tied).symm, found, perm', inverse⟩

theorem Tracked.extract (inv : Tracked ag) {ricId : RicGenId} {fd : Fd} {ev : IndEvent}
    {indEvent : BiMap cmpFd cmpIndEvent} (mine : ev.ricId = ricId)
    (perm : ag.indEvent.pairs.Perm ((fd, ev) :: indEvent.pairs)) :
    indEvent.pairs.Pairwise (cmpIndEvent.Apart Prod.snd) ∧
      indEvent.pairs.Perm (ag.indEvent.pairs.filter fun p => p.2.ricId ≠ ricId) := by
  have apart := (perm.pairwise_iff fun {_ _} => Comparator.Apart.symm).mp inv.apart
  obtain ⟨others, apart⟩ := List.pairwise_cons.mp apart
  refine ⟨apart, List.Perm.symm ((perm.filter _).trans ?_)⟩
  rw [List.filter_cons_of_neg (by simp [mine]), List.filter_eq_self.mpr]
  intro p mem
  have differs : ev.ricId ≠ p.2.ricId := fun same => others p mem (cmpIndEvent_ties.mpr same)
  simpa [← mine] using differs.symm

theorem Tracked.eq_of_id (inv : Tracked ag) {p q : Fd × IndEvent} (memP : p ∈ ag.indEvent.pairs)
    (memQ : q ∈ ag.indEvent.pairs) (same : p.2.ricId = q.2.ricId) : p = q :=
  Comparator.eq_of_ties inv.apart memP memQ (cmpIndEvent_ties.mpr same)

/-- The descriptors that a delete may not touch are all but that of its entry. -/
theorem Tracked.untouched_iff (inv : Tracked ag) {ricId : RicGenId} {fd fd' : Fd} {ev : IndEvent}
    (mem : (fd, ev) ∈ ag.indEvent.pairs) (mine : ev.ricId = ricId) :
    (∀ p ∈ ag.indEvent.pairs, p.2.ricId = ricId → p.1 ≠ fd') ↔ fd' ≠ fd := by
  constructor
  · exact fun others => (others _ mem mine).symm
  · intro other p stored same
    cases inv.eq_of_id stored mem (same.trans mine.symm)
    exact other.symm

theorem keeps_step (inv : Tracked ag) (watched : Watched ag) (orderly : IndEventOrderly ag e)
    (step : Step ag e ag' out) : Tracked ag' ∧ Keeps ag ag' e := by
  cases step with
  | @periodic fd sr ms action supported long short =>
      exact ⟨inv.insert rfl orderly.2, orderly.2, _, rfl,
        BiMap.pairs_insert _ _ _⟩
  | @aperiodic fd sr action supported =>
      exact ⟨inv.insert rfl orderly.2, orderly.2, _, rfl,
        BiMap.pairs_insert _ _ _⟩
  | @deleteUnknown ricId unknown =>
      have absent : ∀ p ∈ ag.indEvent.pairs, p.2.ricId ≠ ricId := fun p mem same =>
        inv.missing_iff.mp unknown (List.mem_map.mpr ⟨p, mem, same⟩)
      refine ⟨inv, List.Perm.of_eq (List.filter_eq_self.mpr ?_).symm, ?_⟩
      · exact fun p mem => by simpa using absent p mem
      · intro fd
        exact ⟨fun mem => ⟨mem, fun p stored same => absurd same (absent p stored)⟩, And.left⟩
  | @deletePeriodic ricId fd indEvent removed timer watching =>
      obtain ⟨ev, mine, -, perm, inverse⟩ := inv.removed removed
      obtain ⟨apart, rest⟩ := inv.extract mine perm
      refine ⟨⟨inverse, apart⟩, rest, ?_⟩
      intro fd'
      rw [inv.untouched_iff (perm.mem_iff.mpr List.mem_cons_self) mine,
        watched.nodup.mem_erase_iff]
      exact And.comm
  | @deleteAperiodic ricId indEvent removed =>
      obtain ⟨ev, mine, -, perm, inverse⟩ := inv.removed removed
      obtain ⟨apart, rest⟩ := inv.extract mine perm
      refine ⟨⟨inverse, apart⟩, rest, ?_⟩
      intro fd'
      rw [inv.untouched_iff (perm.mem_iff.mpr List.mem_cons_self) mine]
      exact ⟨fun mem => ⟨mem, fun zero => watched.positive (zero ▸ mem)⟩, And.left⟩
  | _ => exact ⟨⟨inv.inverse, inv.apart⟩, trivial⟩

theorem Tracked.ids_nodup (inv : Tracked ag) : ag.ids.Nodup :=
  List.pairwise_map.mpr (inv.apart.imp fun apart same => apart (cmpIndEvent_ties.mpr same))

/-- The ids in the map follow the requests. -/
theorem ids_step (inv : Tracked ag) (keeps : Keeps ag ag' e) (step : Step ag e ag' out)
    (tracked : ag.ids.Perm (live h)) : ag'.ids.Perm (live (⟨ag, e, out, ag'⟩ :: h)) := by
  cases e with
  | subscriptionRequest fd sr subs =>
      obtain ⟨-, p, mine, entered⟩ := keeps
      have added := entered.map fun p => p.2.ricId
      rw [List.map_cons, mine] at added
      exact added.trans (tracked.cons _)
  | subscriptionDelete ricId =>
      have left := keeps.1.map fun p => p.2.ricId
      have erased : (ag.indEvent.pairs.filter fun p => p.2.ricId ≠ ricId).map
          (fun p => p.2.ricId) = ag.ids.erase ricId := by
        rw [inv.ids_nodup.erase_eq_filter, ids, List.filter_map]
        congr 1
        exact List.filter_congr fun p _ => Bool.eq_iff_iff.mpr (by simp)
      rw [erased] at left
      exact left.trans (tracked.erase ricId)
  | _ =>
      have same : ag'.indEvent = ag.indEvent := by cases step <;> rfl
      simpa [ids, same, live] using tracked

theorem tracked_run (run : (machine plugin ge2nid compConfAdd).Run ag h)
    (orderly : Machine.Meets IndEventOrderly h) : Tracked ag ∧ ag.ids.Perm (live h) := by
  induction run with
  | start => exact ⟨⟨BiMap.inverse_init, List.Pairwise.nil⟩, .refl _⟩
  | next run enabled moved ih =>
      obtain ⟨here, earlier⟩ := Machine.meets_cons.mp orderly
      obtain ⟨inv, tracked⟩ := ih earlier
      have step := step_cases enabled moved
      obtain ⟨inv', keeps⟩ := keeps_step inv (watched_run run) here step
      exact ⟨inv', ids_step inv keeps step tracked⟩

theorem subscriptionRequest_ok {fd : Fd} {sr : RicSubscriptionRequest} {subs : SmAgIfAnsSubs}
    (acceptable : Acceptable ag sr subs) :
    ∃ ag' out, ag.step (.subscriptionRequest fd sr subs) = .ok (ag', out) := by
  obtain ⟨report, reserved, loaded, granular⟩ := acceptable
  obtain ⟨action, one, type⟩ := List.map_eq_singleton_iff.mp report
  simp only [step, e2apHandleSubscriptionRequestAgent, bind_eq_ok, smPluginAg_eq_ok,
    supportedRicSubscriptionRequest_eq_ok, pure_eq_ok, Prod.mk.injEq]
  cases subs with
  | periodic ms =>
      simp only [registerIndEvent, createTimerMsAsioAgent, bind_eq_ok, check_eq_ok, pure_eq_ok]
      exact ⟨_, _, action, ⟨one, type⟩, _, ⟨reserved, loaded, rfl⟩, _,
        ⟨(), granular.2, _, ⟨(), granular.1, rfl⟩, rfl⟩, rfl, rfl⟩
  | aperiodic =>
      exact ⟨_, _, action, ⟨one, type⟩, _, ⟨reserved, loaded, rfl⟩, _, rfl, rfl, rfl⟩

theorem acceptable_of_step {fd : Fd} {sr : RicSubscriptionRequest} {subs : SmAgIfAnsSubs}
    (step : Step ag (.subscriptionRequest fd sr subs) ag' out) : Acceptable ag sr subs := by
  cases step with
  | periodic supported long short =>
      exact ⟨by rw [supported.one]; simp [supported.report], supported.reserved, supported.loaded,
        long, short⟩
  | aperiodic supported =>
      exact ⟨by rw [supported.one]; simp [supported.report], supported.reserved, supported.loaded,
        trivial⟩

/-- A delete goes through where the search for its descriptor meets its entry. -/
theorem subscriptionDelete_ok (inv : Tracked ag) (watched : Watched ag) {ricId : RicGenId}
    (orderly : IndEventOrderly ag (.subscriptionDelete ricId)) :
    ∃ ag' out, ag.step (.subscriptionDelete ricId) = .ok (ag', out) := by
  simp only [step, e2apHandleSubscriptionDeleteRequestAgent, stopIndEvent]
  cases found : ag.indEvent.right.findIf (eqIndEvent ricId) with
  | none => exact ⟨_, _, rfl⟩
  | some q =>
      have known : ricId ∈ ag.ids := by
        by_contra unknown
        rw [inv.missing_iff.mpr unknown] at found
        cases found
      obtain ⟨⟨fd, ev⟩, mem, mine⟩ := List.mem_map.mp known
      have first : ag.indEvent.left.find fd = some ev := by
        by_cases zero : fd = 0
        · subst zero
          exact orderly _ mem mine rfl
        · exact watched.find_eq mem zero
      have ties : cmpIndEvent.Ties (sought ricId) ev := cmpIndEvent_ties.mpr mine.symm
      obtain ⟨m', removed, -, -⟩ :=
        BiMap.extractRight_of_find inv.inverse inv.apart mem ties first
      have stopped : ∃ ag', rmIndEventFd { ag with indEvent := m' } fd = .ok ag' := by
        unfold rmIndEventFd
        split
        · rename_i nonzero
          have watching := watched.mem_timers mem (by simpa [notAperiodicIndEvent] using nonzero)
          exact ⟨_, by rw [rmFdAsioAgent, check_pass _ watching]; rfl⟩
        · exact ⟨_, rfl⟩
      obtain ⟨ag', stopped⟩ := stopped
      refine ⟨ag', [.subscriptionDeleteResponse ricId], ?_⟩
      rw [show ag.indEvent.extractRight ⟨ricId, 0, 0, .periodic⟩ = .ok (fd, m') from removed]
      simp only [ok_bind, stopped]
      rfl

theorem find_of_delete (inv : Tracked ag) {ricId : RicGenId}
    (step : Step ag (.subscriptionDelete ricId) ag' out) :
    IndEventOrderly ag (.subscriptionDelete ricId) := by
  intro p mem mine zero
  cases step with
  | deleteUnknown unknown =>
      exact absurd (List.mem_map.mpr ⟨p, mem, mine⟩) (inv.missing_iff.mp unknown)
  | deletePeriodic removed timer _ =>
      obtain ⟨ev, same, -, perm, -⟩ := inv.removed removed
      cases inv.eq_of_id mem (perm.mem_iff.mpr List.mem_cons_self) (mine.trans same.symm)
      exact absurd zero timer
  | deleteAperiodic removed =>
      obtain ⟨ev, same, found, perm, -⟩ := inv.removed removed
      cases inv.eq_of_id mem (perm.mem_iff.mpr List.mem_cons_self) (mine.trans same.symm)
      exact found

def IndEventRequest : AgentEvent → Prop
  | .subscriptionRequest _ _ _ | .subscriptionDelete _ => True
  | _ => False

theorem request_iff (inv : Tracked ag) (watched : Watched ag) (enabled : ag.Enabled e)
    (request : IndEventRequest e) :
    (∃ ag' out, ag.step e = .ok (ag', out) ∧ Keeps ag ag' e) ↔ IndEventOrderly ag e := by
  have keeps {ag' : E2Agent} {out : List AgentMsg} (orderly : IndEventOrderly ag e)
      (moved : ag.step e = .ok (ag', out)) : Keeps ag ag' e :=
    (keeps_step inv watched orderly (step_cases enabled moved)).2
  cases e with
  | subscriptionRequest fd sr subs =>
      constructor
      · intro goes
        obtain ⟨ag', out, moved, kept⟩ := goes
        exact ⟨acceptable_of_step (step_cases enabled moved), kept.1⟩
      · intro orderly
        obtain ⟨ag', out, moved⟩ := subscriptionRequest_ok orderly.1
        exact ⟨ag', out, moved, keeps orderly moved⟩
  | subscriptionDelete ricId =>
      constructor
      · rintro ⟨ag', out, moved, -⟩
        exact find_of_delete inv (step_cases enabled moved)
      · intro orderly
        obtain ⟨ag', out, moved⟩ := subscriptionDelete_ok inv watched orderly
        exact ⟨ag', out, moved, keeps orderly moved⟩
  | _ => exact request.elim

/-- A periodic and an aperiodic subscription. -/
def oneOfEach : List AgentEvent :=
  [.start 5, .subscriptionRequest 6 (reportRequest 1021 2) (.periodic 10),
    .subscriptionRequest 7 (reportRequest 1022 3) .aperiodic]

/-- Two aperiodic subscriptions. -/
def twoAperiodic : List AgentEvent :=
  [.start 5, .subscriptionRequest 6 (reportRequest 1021 3) .aperiodic,
    .subscriptionRequest 6 (reportRequest 1022 3) .aperiodic]

end E2Agent

end FlexRic
