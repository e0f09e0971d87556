import FlexRic.Ric.Routing

/-! # Whose subscription a delete names

A delete request is resolved by a scan whose equality ignores the xApp, in a
tree that lists the requests by their xApps. So it finds the requester's own
entry exactly when no xApp with a smaller id has one with the same local id.
-/

namespace FlexRic

namespace Ric

variable {plugin : List UInt16} {s : Ric} {h : History}

/-- The scan for an xApp's request can only end at an entry of its own. An entry stands for the
    subscription or control that the RIC asked the node for in its place, so the xApp's own
    subscription is the one whose entry has the xApp's id and its local id. -/
def ResolvesToOwn (s : Ric) (x : XappRicId) : Prop :=
  ∀ n, findRicReqMapRicId s.iapp.mapRicId x = .ok n → (n, x) ∈ s.iapp.mapRicId.pairs

/-- No entry has the local id, or the xApp has one and no xApp before it does. -/
def FirstToUse (s : Ric) (x : XappRicId) : Prop :=
  (∀ p ∈ s.iapp.mapRicId.pairs, p.2.ricId ≠ x.ricId) ∨
    (∃ n, (n, x) ∈ s.iapp.mapRicId.pairs) ∧
      ∀ p ∈ s.iapp.mapRicId.pairs, p.2.ricId = x.ricId → x.xappId ≤ p.2.xappId

theorem resolvesToOwn_iff (run : (machine plugin).Run s h) (x : XappRicId) :
    ResolvesToOwn s x ↔ FirstToUse s x := by
  have consistent := (routed_run run).consistent
  constructor
  · intro own
    cases found : findRicReqMapRicId s.iapp.mapRicId x with
    | error e => exact .inl ((MapRicId.findRicReq_error consistent.inverse).mp found).2
    | ok n =>
        obtain ⟨y, mem, alike, least⟩ := MapRicId.findRicReq_ok consistent.inverse found
        have mine := own n found
        obtain ⟨-, rfl⟩ := consistent.eq_of_id mine mem rfl
        exact .inr ⟨⟨n, mine⟩, least⟩
  · rintro (unused | ⟨⟨m, mine⟩, first⟩) n found
    · obtain ⟨y, mem, alike, -⟩ := MapRicId.findRicReq_ok consistent.inverse found
      exact absurd alike (unused _ mem)
    · obtain ⟨y, mem, alike, least⟩ := MapRicId.findRicReq_ok consistent.inverse found
      have sameXapp : y.xappId = x.xappId :=
        UInt16.le_antisymm (least _ mine rfl) (first _ mem alike)
      have same : y = x := by
        cases y
        cases x
        simp_all
      rwa [← same]

/-- In every reachable state and for every xApp request: a delete resolves to
    the requester's own entry if and only if no xApp with a smaller id has an
    entry with that local id (or nobody has). And along every run, each delete
    that went through names the id and the node of one subscription in the map,
    which is the requester's if and only if that condition held. -/
theorem delete_isolated_iff (run : (machine plugin).Run s h) :
    (∀ x, ResolvesToOwn s x ↔ FirstToUse s x) ∧
    ∀ entry ∈ h, ∀ xappId ricId, entry.event = .e42Delete xappId ricId →
      ∃ n y, (n, y) ∈ entry.before.iapp.mapRicId.pairs ∧ n.ricReqType = .subscription ∧
        entry.after.deletes = [⟨n.e2NodeId, { ricId with ricReqId := n.ricId.ricReqId }⟩] ∧
        (y = ⟨ricId, xappId⟩ ↔ FirstToUse entry.before ⟨ricId, xappId⟩) := by
  refine ⟨resolvesToOwn_iff run, ?_⟩
  intro entry mem xappId ricId event
  obtain ⟨later, earlier, rfl⟩ := List.append_of_mem mem
  obtain ⟨before, -, moved⟩ := run.cut
  rw [event] at moved
  simp only [machine, step, e2apHandleE42RicSubscriptionDeleteRequestIapp, bind_eq_ok,
    check_eq_ok, pure_eq_ok, Prod.mk.injEq] at moved
  obtain ⟨_, ⟨n, found, _, type, rfl⟩, after, -⟩ := moved
  have consistent := (routed_run before).consistent
  obtain ⟨y, stored, -, -⟩ := MapRicId.findRicReq_ok consistent.inverse found
  refine ⟨n, y, stored, type, by rw [← after], ?_⟩
  rw [← resolvesToOwn_iff before]
  constructor
  · rintro rfl m found'
    cases found.symm.trans found'
    exact stored
  · intro own
    exact (consistent.eq_of_id stored (own n found) rfl).2

/-- Two xApps subscribe, each with its first local id. -/
def bothSubscribed : List RicEvent :=
  setup gnb gnbAddr ++ [.e42Setup 1 xappAddr, .e42Setup 1 otherXappAddr,
    .e42Subscription 20 ⟨7, gnb, localId⟩, .e42Subscription 21 ⟨8, gnb, localId⟩]

theorem delete_isolated_iff_first :
    ResolvesToOwn ((machine [2]).replay bothSubscribed).1 ⟨localId, 7⟩ :=
  ((delete_isolated_iff ((machine [2]).run_replay bothSubscribed)).1 ⟨localId, 7⟩).mpr
    (.inr ⟨⟨⟨⟨1021, 0, 2⟩, gnb, .subscription⟩, by decide +kernel⟩, by decide +kernel⟩)

/-- The second xApp's delete resolves to the first one's subscription. -/
theorem delete_not_isolated :
    ¬∀ (plugin : List UInt16) (s : Ric) (h : History), (machine plugin).Run s h →
      ∀ x : XappRicId, (∃ n, (n, x) ∈ s.iapp.mapRicId.pairs ∧ n.ricReqType = .subscription) →
        ResolvesToOwn s x := by
  intro isolated
  have own := isolated [2] _ _ ((machine [2]).run_replay bothSubscribed) ⟨localId, 8⟩
    ⟨⟨⟨1022, 0, 2⟩, gnb, .subscription⟩, by decide +kernel, rfl⟩
  exact absurd (own ⟨⟨1021, 0, 2⟩, gnb, .subscription⟩ (by decide +kernel)) (by decide +kernel)

end Ric

end FlexRic
