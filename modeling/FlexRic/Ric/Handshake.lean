import FlexRic.Ric.Books

/-! # Setup and shutdown

Where the books balance, the next event of a setup or a shutdown goes through
exactly when the node is not on the books yet, or not on them any more. Between
the sections of a task the books differ; at rest they agree.
-/

namespace FlexRic

open Assertion

namespace Ric

variable {plugin : List UInt16} {s s' : Ric} {h : List (Entry Ric RicEvent (List Sent))}
  {req : E2SetupRequest} {info : SctpInfo} {i : Nat} {id : GlobalE2NodeId}

def Task.setsUp : Task → Bool
  | .regSockAddr _ _ | .addE2Node _ _ | .connectE2Node _ _ => true
  | _ => false

/-- The events of setups and shutdowns. -/
def Handshake (s : Ric) : RicEvent → Prop
  | .setupRequest _ _ | .nodeShutdown _ | .resumeShutdown => True
  | .runTask i => ∃ t ∈ s.tasks[i]?, Task.setsUp t
  | _ => False

theorem step_runTask {t : Task} (found : s.tasks[i]? = some t) :
    (∃ s' out, s.step (.runTask i) = .ok (s', out) ∧ EndpointOnce s') ↔
      ∃ ric iapp rest out, runTask s.ric s.iapp t = .ok (ric, iapp, rest, out) ∧
        EndpointOnce { s with ric := ric, iapp := iapp, tasks := advance s.tasks i rest } := by
  simp only [step, found, bind_eq_ok, Prod.exists, pure_eq_ok, Prod.mk.injEq]
  constructor
  · rintro ⟨_, _, ⟨ric, iapp, rest, out, ran, rfl, rfl⟩, once⟩
    exact ⟨ric, iapp, rest, out, ran, once⟩
  · intro goes
    obtain ⟨ric, iapp, rest, out, ran, once⟩ := goes
    exact ⟨_, _, ⟨ric, iapp, rest, out, ran, rfl, rfl⟩, once⟩

/-- The condition for an event to go through at all: a node or an address that the endpoint
    has is entered again without a check. -/
def GoesThrough (s : Ric) (e : RicEvent) : Prop :=
  (∃ i, e = .runTask i ∧ ∃ req info, s.tasks[i]? = some (.regSockAddr req info)) ∨ Orderly s e

/-- A setup task's section completes and keeps the endpoint's entries apart if
    and only if the condition holds. -/
theorem setsUp_iff {t : Task} (inv : Balanced s) (setsUp : Task.setsUp t) :
    (∃ ric iapp rest out, runTask s.ric s.iapp t = .ok (ric, iapp, rest, out) ∧
      EndpointOnce { s with ric := ric, iapp := iapp, tasks := advance s.tasks i rest }) ↔
    TaskOrderly s t := by
  cases t with
  | regSockAddr req info =>
      rw [← once_regSockAddr inv.once (advance s.tasks i (some (.addE2Node req info)))]
      simp only [runTask, pure_eq_ok, Prod.mk.injEq]
      constructor
      · rintro ⟨_, _, _, _, ⟨rfl, rfl, rfl, rfl⟩, once⟩
        exact once
      · exact fun once => ⟨_, _, _, _, ⟨rfl, rfl, rfl, rfl⟩, once⟩
  | addE2Node req info =>
      simp only [runTask, addE2NodeIapp, bind_eq_ok, pure_eq_ok, Prod.mk.injEq]
      constructor
      · rintro ⟨_, _, _, _, ⟨_, ⟨reg, added, rfl⟩, rfl, rfl, rfl, rfl⟩, -⟩
        exact addRegE2Node_iff.mp ⟨reg, added⟩
      · intro orderly
        obtain ⟨reg, added⟩ := addRegE2Node_iff.mpr orderly
        exact ⟨_, _, _, _, ⟨_, ⟨reg, added, rfl⟩, rfl, rfl, rfl, rfl⟩, inv.once⟩
  | connectE2Node req info =>
      simp only [runTask, FlexRic.connectE2Node, generateSetupResponse, acceptRanFunc, bind_eq_ok,
        check_eq_ok, mapM_checked cpE2apNodeCompId_eq_ok, pure_eq_ok, Prod.exists, Prod.mk.injEq]
      constructor
      · rintro ⟨_, _, _, _, ⟨_, _, ⟨_, ⟨_, ⟨_, known, rfl⟩, _, range, _, ⟨copied, rfl⟩, rfl⟩, rfl,
          rfl⟩, _⟩, -⟩
        exact ⟨known, range, copied⟩
      · intro orderly
        obtain ⟨known, range, copied⟩ := orderly
        exact ⟨_, _, _, _, ⟨_, _, ⟨_, ⟨_, ⟨(), known, rfl⟩, (), range, _, ⟨copied, rfl⟩, rfl⟩, rfl,
          rfl⟩, rfl, rfl, rfl, rfl⟩, inv.once⟩
  | handle | lookUp | forward | remove => cases setsUp

/-- A node goes through its next section of a shutdown if and only if it is still
    in the list; the registry has it by then. -/
theorem runLeaving_iff {l : Leaving} (inv : Balanced s) (leaving : s.leaving = some l) :
    (∃ ric iapp rest, runLeaving s.ric s.iapp l = .ok (ric, iapp, rest) ∧
      EndpointOnce { s with ric := ric, iapp := iapp, leaving := rest }) ↔ LeavingOrderly s l := by
  cases l with
  | disconnect id =>
      simp only [runLeaving, bind_eq_ok, pure_eq_ok, Prod.mk.injEq]
      constructor
      · rintro ⟨_, _, _, ⟨_, removed, -⟩, -⟩
        exact (disconnectE2Node_ok removed).1
      · intro known
        obtain ⟨n, mem, same⟩ := known
        have found : s.ric.connE2Nodes.find? (fun n => eqGlobalE2NodeId n.id id) ≠ none := by
          rw [Ne, List.find?_eq_none]
          exact fun none => none n mem same
        have removed : disconnectE2Node s.ric id = .ok { s.ric with
            connE2Nodes := s.ric.connE2Nodes.eraseP fun n => eqGlobalE2NodeId n.id id } := by
          rw [disconnectE2Node, check_pass _ found]
          rfl
        exact ⟨_, _, _, ⟨_, removed, rfl, rfl, rfl⟩, inv.once⟩
  | unregister id =>
      refine iff_of_true ?_ trivial
      have counted := inv.registered id
      have here : s.unregistering id = 1 := by simp [unregistering, leaving]
      have known : 0 < s.inRegistry id := by omega
      obtain ⟨p, mem, same⟩ := List.countP_pos_iff.mp known
      cases freed : s.iapp.e2Nodes.freeIf fun id' => eqGlobalE2NodeId id' id with
      | none => exact absurd same (AssocRbTree.freeIf_none.mp freed p mem)
      | some reg =>
          have removed : rmE2NodeIapp s.iapp id = .ok { s.iapp with e2Nodes := reg } := by
            simp only [rmE2NodeIapp, rmRegE2Node, freed, ok_bind]
            rfl
          refine ⟨s.ric, { s.iapp with e2Nodes := reg }, none, ?_, inv.once⟩
          rw [runLeaving, removed]
          rfl

theorem rmMapSadE2Node_iff (inv : Balanced s) :
    (∃ id e2Nodes, rmMapSadE2Node s.ric.e2Nodes info = .ok (id, e2Nodes)) ↔
      Orderly s (.nodeShutdown info) := by
  constructor
  · intro goes
    obtain ⟨id, e2Nodes, removed⟩ := goes
    obtain ⟨a, b, -, ties, perm⟩ := BiMap.extractRight_perm removed
    exact ⟨(a, b), perm.mem_iff.mpr List.mem_cons_self, eqSctpInfo_iff.mpr ties⟩
  · intro known
    obtain ⟨p, mem, same⟩ := known
    obtain ⟨e2Nodes, removed, -⟩ := inv.bijective.extractRight mem (eqSctpInfo_iff.mp same)
    exact ⟨p.1, e2Nodes, removed⟩

theorem handshake_iff {e : RicEvent} (inv : Balanced s) (enabled : s.Enabled e)
    (handshake : Handshake s e) :
    (∃ s' out, s.step e = .ok (s', out) ∧ EndpointOnce s') ↔ Orderly s e := by
  cases e with
  | setupRequest req info => exact iff_of_true ⟨_, _, rfl, inv.once⟩ trivial
  | runTask i =>
      obtain ⟨t, found, setsUp⟩ := handshake
      rw [step_runTask found, setsUp_iff inv setsUp]
      constructor
      · intro orderly t' found'
        cases Option.mem_unique found found'
        exact orderly
      · exact fun orderly => orderly t found
  | nodeShutdown info =>
      rw [← rmMapSadE2Node_iff inv]
      simp only [step, e2apRmSockAddrRic, bind_eq_ok, pure_eq_ok, Prod.exists, Prod.mk.injEq]
      constructor
      · rintro ⟨_, _, ⟨id, _, ⟨_, e2Nodes, removed, -⟩, -⟩, -⟩
        exact ⟨_, _, removed⟩
      · intro goes
        obtain ⟨id, e2Nodes, removed⟩ := goes
        exact ⟨_, _, ⟨id, _, ⟨id, e2Nodes, removed, rfl, rfl⟩, rfl, rfl⟩,
          (inv.nodeShutdown enabled removed).once⟩
  | resumeShutdown =>
      obtain ⟨l, leaving⟩ := Option.ne_none_iff_exists'.mp enabled
      have orderly : Orderly s .resumeShutdown ↔ LeavingOrderly s l := by
        simp only [Orderly, leaving, Option.mem_some_iff, forall_eq']
      rw [orderly, ← runLeaving_iff inv leaving]
      simp only [step, leaving, bind_eq_ok, pure_eq_ok, Prod.exists, Prod.mk.injEq]
      constructor
      · rintro ⟨_, _, ⟨ric, iapp, rest, ran, rfl, -⟩, once⟩
        exact ⟨ric, iapp, rest, ran, once⟩
      · intro goes
        obtain ⟨ric, iapp, rest, ran, once⟩ := goes
        exact ⟨_, _, ⟨ric, iapp, rest, ran, rfl, rfl⟩, once⟩
  | _ => exact handshake.elim

/-- Only the section that enters a node's address touches the endpoint's entries
    unchecked. -/
theorem once_of_step {e : RicEvent} {out : List Sent} (inv : Balanced s) (enabled : s.Enabled e)
    (handshake : Handshake s e)
    (enters : ¬∃ i, e = .runTask i ∧ ∃ req info, s.tasks[i]? = some (.regSockAddr req info))
    (moved : s.step e = .ok (s', out)) : EndpointOnce s' := by
  cases step_cases enabled moved with
  | setupRequest => exact inv.once
  | regSockAddr task => exact absurd ⟨_, rfl, _, _, task⟩ enters
  | addE2Node => exact inv.once
  | connectE2Node => exact inv.once
  | nodeShutdown removed => exact (inv.nodeShutdown enabled removed).once
  | disconnect _ removed =>
      obtain ⟨-, rfl⟩ := disconnectE2Node_ok removed
      exact inv.once
  | unregister => exact inv.once
  | handle task | lookUp task | forward task | remove task =>
      obtain ⟨t, found, setsUp⟩ := handshake
      cases Option.mem_unique task found
      cases setsUp
  | _ => exact handshake.elim

/-- Only the section that enters the address needs no condition. -/
theorem goesThrough_iff {e : RicEvent} (inv : Balanced s) (enabled : s.Enabled e)
    (handshake : Handshake s e) : (∃ s' out, s.step e = .ok (s', out)) ↔ GoesThrough s e := by
  by_cases enters : ∃ i, e = .runTask i ∧ ∃ req info, s.tasks[i]? = some (.regSockAddr req info)
  · obtain ⟨i, rfl, req, info, found⟩ := enters
    refine iff_of_true ?_ (.inl ⟨i, rfl, req, info, found⟩)
    simp [step, found, runTask]
  · rw [GoesThrough, or_iff_right enters, ← handshake_iff inv enabled handshake]
    refine exists₂_congr fun s' out => (and_iff_left_of_imp ?_).symm
    intro moved
    exact once_of_step inv enabled handshake enters moved

/-- No setup and no shutdown of the node is under way. -/
def AtRest (s : Ric) (id : GlobalE2NodeId) : Prop :=
  s.registering id = 0 ∧ s.connecting id = 0 ∧ s.disconnecting id = 0 ∧ s.unregistering id = 0

instance (s : Ric) (id : GlobalE2NodeId) : Decidable (AtRest s id) :=
  inferInstanceAs (Decidable (_ ∧ _ ∧ _ ∧ _))

theorem Balanced.books_agree (inv : Balanced s) (rest : AtRest s id) :
    (0 < s.inConnected id ↔ s.inRegistry id = 1) ∧
      (0 < s.inConnected id ↔ 0 < s.inEndpoint id) := by
  obtain ⟨_, _, _, _⟩ := rest
  have := inv.entered id
  have := inv.registered id
  have := inv.registryOnce id
  omega

/-- Along every run whose events meet the condition: a node at rest is in the
    list of connected nodes if and only if it is once in the registry and if and
    only if the endpoint has its address; the next event of a handshake goes through
    if and only if it meets the condition or only enters an address; and it enters no
    node and no address twice besides if and only if it meets the condition. -/
theorem handshake_consistent_iff (run : (machine plugin).Run s h)
    (orderly : Machine.Meets Orderly h) :
    (∀ id, AtRest s id → (0 < s.inConnected id ↔ s.inRegistry id = 1) ∧
      (0 < s.inConnected id ↔ 0 < s.inEndpoint id)) ∧
    ∀ e, s.Enabled e → Handshake s e →
      ((∃ s' out, s.step e = .ok (s', out)) ↔ GoesThrough s e) ∧
      ((∃ s' out, s.step e = .ok (s', out) ∧ EndpointOnce s') ↔ Orderly s e) := by
  have inv := balanced_run run orderly
  refine ⟨fun id rest => inv.books_agree rest, fun e enabled handshake => ?_⟩
  exact ⟨goesThrough_iff inv enabled handshake, handshake_iff inv enabled handshake⟩

/-- The node sets up, its association shuts down, and it sets up again. -/
def comesAgain : List RicEvent :=
  setup gnb gnbAddr ++ [.nodeShutdown gnbAddr, .resumeShutdown, .resumeShutdown] ++
    setup gnb gnbAddr

theorem handshake_consistent_iff_again :
    let s := ((machine [2]).replay comesAgain).1
    ((0 < s.inConnected gnb ↔ s.inRegistry gnb = 1) ∧
      (0 < s.inConnected gnb ↔ 0 < s.inEndpoint gnb)) ∧
    ((∃ s' out, s.step (.nodeShutdown gnbAddr) = .ok (s', out)) ↔
      GoesThrough s (.nodeShutdown gnbAddr)) := by
  obtain ⟨books, next⟩ :=
    handshake_consistent_iff ((machine [2]).run_replay comesAgain) (by decide +kernel)
  exact ⟨books gnb (by decide +kernel),
    (next (.nodeShutdown gnbAddr) (by decide +kernel) trivial).1⟩

/-- The request of a setup that is acceptable in itself. -/
def Acceptable (plugin : List UInt16) : RicEvent → Prop
  | .setupRequest req _ => 0 < req.ranFuncItem.length ∧ req.ranFuncItem ⊆ plugin ∧
      (0 < req.compConfAdd.length ∧ req.compConfAdd.length < 1025) ∧
      ∀ c ∈ req.compConfAdd, c.Copied
  | _ => True

instance (plugin : List UInt16) : (e : RicEvent) → Decidable (Acceptable plugin e)
  | .setupRequest _ _ => inferInstanceAs (Decidable (_ ∧ _ ∧ _ ∧ ∀ c ∈ _, _))
  | .ricMsg .. | .runTask .. | .nodeShutdown .. | .resumeShutdown | .timerFires .. | .e42Setup ..
  | .e42Subscription .. | .e42Control .. | .e42Delete .. | .xappShutdown .. | .forwardDelete .. =>
      .isTrue trivial

/-- The agent's timer fires before the response is there, and the request that
    it sends again sets up a node that the registry has. -/
def retransmitted : List RicEvent :=
  setup gnb gnbAddr ++ [.setupRequest ⟨1, gnb, [2], [.f1 5]⟩ gnbAddr, .runTask 0]

theorem handshake_not_consistent :
    ¬∀ (plugin : List UInt16) (s : Ric) (h : List (Entry Ric RicEvent (List Sent))),
      (machine plugin).Run s h → (∀ x ∈ h, Acceptable plugin x.event) →
      ∀ e, s.Enabled e → Handshake s e → ∃ s' out, s.step e = .ok (s', out) := by
  intro consistent
  have fails : (machine [2]).failure ((machine [2]).replay retransmitted).1 (.runTask 0) =
      some e2NodeExists := by decide +kernel
  obtain ⟨_, _, goes⟩ := consistent [2] _ _ ((machine [2]).run_replay retransmitted)
    (by decide +kernel) (.runTask 0) (by decide +kernel) ⟨_, rfl, by decide +kernel⟩
  cases goes.symm.trans (Machine.failure_eq_some.mp fails)

end Ric

end FlexRic
