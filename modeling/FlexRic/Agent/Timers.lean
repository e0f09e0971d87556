import FlexRic.Agent.Steps
import Mathlib.Data.List.Nodup

/-! # The timers of the agent

Whatever comes, the watched timers are those of the periodic subscriptions and
of the pending setup requests, each once.
-/

namespace FlexRic

namespace E2Agent

variable {plugin : List UInt16} {ge2nid : GlobalE2NodeId} {compConfAdd : List NodeCompId}
  {ag ag' : E2Agent} {e : AgentEvent} {out : List AgentMsg}

/-- The descriptors that stand for timers of their own. -/
def timerFds (ag : E2Agent) : List Fd := ag.indEvent.firsts.filter (· ≠ 0) ++ ag.pending.firsts

/-- Only a descriptor that is not zero counts among the subscriptions' timers. -/
theorem filter_cons {fd : Fd} {fds rest : List Fd} (perm : fds.Perm (fd :: rest))
    (nonzero : fd ≠ 0) : (fds.filter (· ≠ 0)).Perm (fd :: rest.filter (· ≠ 0)) := by
  have filtered := perm.filter (fun fd => decide (fd ≠ 0))
  rwa [List.filter_cons_of_pos (by simpa using nonzero)] at filtered

theorem filter_zero {fds rest : List Fd} (perm : fds.Perm (0 :: rest)) :
    (fds.filter (· ≠ 0)).Perm (rest.filter (· ≠ 0)) :=
  perm.filter (fun fd => decide (fd ≠ 0))

structure Watched (ag : E2Agent) : Prop where
  covered : ag.timers.Perm ag.timerFds
  nodup : ag.timers.Nodup
  positive : 0 ∉ ag.timers
  setups : ∀ p ∈ ag.pending.pairs, p.2 = .setupRequest
  loaded : ag.started = true → 0 < ag.plugin.length
  unstarted : ag.started = false → ag.pending.pairs = []

namespace Watched

/-- A fresh descriptor that is entered into either map joins the timers. -/
theorem opened {fd : Fd} {held : List Fd} (inv : Watched ag) (fresh : ag.FreshFd fd)
    (entered : held.Perm (fd :: ag.timerFds)) :
    (fd :: ag.timers).Perm held ∧ (fd :: ag.timers).Nodup ∧ 0 ∉ fd :: ag.timers := by
  refine ⟨(inv.covered.cons fd).trans entered.symm, List.nodup_cons.mpr ⟨fresh.2, inv.nodup⟩, ?_⟩
  rw [List.mem_cons, not_or]
  exact ⟨Nat.ne_of_lt fresh.1, inv.positive⟩

/-- A descriptor that is taken out of either map leaves them. -/
theorem closed {fd : Fd} {held : List Fd} (inv : Watched ag)
    (taken : ag.timerFds.Perm (fd :: held)) :
    (ag.timers.erase fd).Perm held ∧ (ag.timers.erase fd).Nodup ∧ 0 ∉ ag.timers.erase fd := by
  have left := (inv.covered.trans taken).erase fd
  rw [List.erase_cons_head] at left
  exact ⟨left, inv.nodup.erase fd, fun mem => inv.positive (List.mem_of_mem_erase mem)⟩

theorem pend {fd : Fd} (inv : Watched ag) (fresh : ag.FreshFd fd)
    (timers : ag'.timers = fd :: ag.timers) (indEvent : ag'.indEvent = ag.indEvent)
    (pending : ag'.pending = ag.pending.insert fd .setupRequest)
    (loaded : ag'.started = true → 0 < ag'.plugin.length) (started : ag'.started = true) :
    Watched ag' := by
  have entered : ag'.timerFds.Perm (fd :: ag.timerFds) := by
    rw [timerFds, timerFds, indEvent, pending]
    exact ((BiMap.firsts_insert _ _ _).append_left _).trans List.perm_middle
  obtain ⟨covered, nodup, positive⟩ := inv.opened fresh entered
  rw [← timers] at covered nodup positive
  refine ⟨covered, nodup, positive, ?_, loaded, ?_⟩
  · intro p mem
    rw [pending, (BiMap.pairs_insert _ _ _).mem_iff] at mem
    rcases List.mem_cons.mp mem with rfl | mem
    · rfl
    · exact inv.setups p mem
  · intro not
    rw [started] at not
    cases not

end Watched

theorem watched_init : Watched (e2InitAgent plugin ge2nid compConfAdd) where
  covered := .refl _
  nodup := List.nodup_nil
  positive := nofun
  setups := nofun
  loaded := nofun
  unstarted _ := rfl

theorem watched_step (inv : Watched ag) (enabled : ag.Enabled e) (step : Step ag e ag' out) :
    Watched ag' := by
  cases step with
  | start loaded => exact inv.pend enabled.2 rfl rfl rfl (fun _ => loaded) rfl
  | ricShutdown => exact inv.pend enabled.2 rfl rfl rfl inv.loaded enabled.1.1
  | @periodic fd sr ms action supported long short =>
      have entered := (filter_cons
        (BiMap.firsts_insert ag.indEvent fd (subscribed sr action .periodic))
        (Nat.ne_of_gt enabled.2.1)).append_right ag.pending.firsts
      obtain ⟨covered, nodup, positive⟩ := inv.opened enabled.2 entered
      exact ⟨covered, nodup, positive, inv.setups, inv.loaded, inv.unstarted⟩
  | @aperiodic fd sr action supported =>
      have entered := (filter_zero
        (BiMap.firsts_insert ag.indEvent 0 (subscribed sr action .aperiodic))).append_right
        ag.pending.firsts
      exact ⟨inv.covered.trans entered.symm, inv.nodup, inv.positive, inv.setups, inv.loaded,
        inv.unstarted⟩
  | @deletePeriodic ricId fd indEvent removed timer watched =>
      have taken := (filter_cons (BiMap.firsts_extractRight (fun _ _ => cmpFd_ties.mp) removed)
        timer).append_right ag.pending.firsts
      obtain ⟨covered, nodup, positive⟩ := inv.closed taken
      exact ⟨covered, nodup, positive, inv.setups, inv.loaded, inv.unstarted⟩
  | @deleteAperiodic ricId indEvent removed =>
      have taken := (filter_zero
        (BiMap.firsts_extractRight (fun _ _ => cmpFd_ties.mp) removed)).append_right
        ag.pending.firsts
      exact ⟨inv.covered.trans taken, inv.nodup, inv.positive, inv.setups, inv.loaded,
        inv.unstarted⟩
  | @setupResponse fd pending removed pos watched sent =>
      have taken :
          ag.timerFds.Perm (fd :: (ag.indEvent.firsts.filter (· ≠ 0) ++ pending.firsts)) :=
        ((BiMap.firsts_extractRight (fun _ _ => cmpFd_ties.mp) removed).append_left _).trans
          List.perm_middle
      obtain ⟨covered, nodup, positive⟩ := inv.closed taken
      refine ⟨covered, nodup, positive, ?_, inv.loaded, ?_⟩
      · intro p mem
        exact inv.setups p (BiMap.extractRight_subset removed mem)
      · intro not
        rw [enabled.1] at not
        cases not
  | deleteUnknown | indication => exact inv
  | _ =>
      exact ⟨inv.covered, inv.nodup, inv.positive, inv.setups, inv.loaded, inv.unstarted⟩

theorem watched_run {h : History} (run : (machine plugin ge2nid compConfAdd).Run ag h) :
    Watched ag :=
  run.invariant (I := Watched) watched_init
    fun inv enabled moved => watched_step inv enabled (step_cases enabled moved)

/-- A descriptor that is not zero belongs to one subscription. -/
theorem Watched.eq_of_fd (inv : Watched ag) {p q : Fd × IndEvent} (memP : p ∈ ag.indEvent.pairs)
    (memQ : q ∈ ag.indEvent.pairs) (same : p.1 = q.1) (nonzero : p.1 ≠ 0) : p = q := by
  have nodup := (List.nodup_append.mp (inv.covered.nodup_iff.mp inv.nodup)).1
  rw [BiMap.firsts, List.filter_map] at nodup
  refine List.inj_on_of_nodup_map nodup ?_ ?_ same
  · exact List.mem_filter.mpr ⟨memP, by simpa using nonzero⟩
  · exact List.mem_filter.mpr ⟨memQ, by simpa [← same] using nonzero⟩

theorem Watched.find_eq (inv : Watched ag) {fd : Fd} {ev : IndEvent}
    (mem : (fd, ev) ∈ ag.indEvent.pairs) (nonzero : fd ≠ 0) :
    ag.indEvent.left.find fd = some ev := by
  obtain ⟨t, got, -⟩ := AssocRbTree.extract_unique (o := cmpFd) mem (cmpFd_ties.mpr rfl)
    fun q stored tied => (inv.eq_of_fd mem stored (cmpFd_ties.mp tied) nonzero).symm
  exact AssocRbTree.find_of_extract got

theorem Watched.mem_timers (inv : Watched ag) {fd : Fd} {ev : IndEvent}
    (mem : (fd, ev) ∈ ag.indEvent.pairs) (nonzero : fd ≠ 0) : fd ∈ ag.timers := by
  refine inv.covered.mem_iff.mpr (List.mem_append_left _ (List.mem_filter.mpr ⟨?_, ?_⟩))
  · exact List.mem_map.mpr ⟨_, mem, rfl⟩
  · simpa using nonzero

end E2Agent

end FlexRic
