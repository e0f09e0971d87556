import FlexRic.Library.Machine
import FlexRic.XApp.E42Xapp

/-! # Waking up a synchronous call

A call of the interface sends its request and then waits on the condition
variable of `sync_ui_t`; the event loop handles the answer and signals it.
`cond_wait_sync_ui` clears both flags when it is entered, so it matters on which
side of that the signal comes.

Here one thread makes call after call. The mutex makes a section of each stretch
up to the wait, from the wait on, and of `signal_sync_ui`.
-/

namespace FlexRic

open Assertion

/-- `cond_wait_sync_ui`, up to the wait. -/
def condWaitSyncUi (s : SyncUi) : SyncUi := { s with flagSync := false, msgAck := false }

/-- Where the calling thread is. -/
inductive CallerStage where
  | idle
  /-- The request is out, and the mutex not taken yet. -/
  | sent
  /-- In `pthread_cond_timedwait`, which has released the mutex. -/
  | waiting
  /-- The wait is over with 0, and the mutex to be taken again. -/
  | woken
  /-- The wait is over with `ETIMEDOUT`, and the mutex to be taken again. -/
  | timedOut
  /-- The mutex is released, and `msg_ack` to be checked. -/
  | unlocked
  deriving DecidableEq, Repr

structure SyncCaller where
  sync : SyncUi
  stage : CallerStage
  /-- The calls that were made, and so the number of the last one. -/
  calls : Nat
  /-- The calls whose request was sent and not answered. -/
  inFlight : List Nat
  deriving DecidableEq

inductive SyncEvent where
  /-- The request of the next call is sent. -/
  | call
  | enterWait
  /-- `pthread_cond_timedwait` returns without a signal, as it may. -/
  | wakeUp
  | timeOut
  /-- The mutex is taken again after the wait. -/
  | relock
  | checkAck
  /-- The event loop handles the answer of call `n`. -/
  | answer (n : Nat)
  deriving DecidableEq

namespace SyncCaller

def Enabled (c : SyncCaller) : SyncEvent → Prop
  | .call => c.stage = .idle
  | .enterWait => c.stage = .sent
  | .wakeUp | .timeOut => c.stage = .waiting
  | .relock => c.stage = .woken ∨ c.stage = .timedOut
  | .checkAck => c.stage = .unlocked
  | .answer n => n ∈ c.inFlight

instance (c : SyncCaller) : (e : SyncEvent) → Decidable (c.Enabled e)
  | .call | .enterWait | .wakeUp | .timeOut | .checkAck => inferInstanceAs (Decidable (_ = _))
  | .relock => inferInstanceAs (Decidable (_ ∨ _))
  | .answer _ => inferInstanceAs (Decidable (_ ∈ _))

/-- The wait has released the mutex and returned, and this tests the condition of
    the loop. A timeout ends the loop whatever the flag is. -/
def afterWait (c : SyncCaller) : Checked SyncCaller := do
  check (c.stage ≠ .timedOut) answerTimeout
  pure { c with stage := if c.sync.flagSync then .unlocked else .waiting }

/-- `pthread_cond_signal` wakes the thread if it waits, and is lost if not. -/
def signalled : CallerStage → CallerStage
  | .waiting => .woken
  | stage => stage

/-- An event, with the number of the call that it lets return. -/
def step (c : SyncCaller) : SyncEvent → Checked (SyncCaller × Option Nat)
  | .call =>
      pure ({ c with stage := .sent, calls := c.calls + 1,
                     inFlight := c.inFlight ++ [c.calls + 1] }, none)
  | .enterWait => pure ({ c with sync := condWaitSyncUi c.sync, stage := .waiting }, none)
  | .wakeUp => pure ({ c with stage := .woken }, none)
  | .timeOut => pure ({ c with stage := .timedOut }, none)
  | .relock => do
      let c ← c.afterWait
      pure (c, none)
  | .checkAck => do
      check (c.sync.msgAck = true) noMsgAck
      pure ({ c with stage := .idle }, some c.calls)
  | .answer n =>
      pure ({ c with sync := signalSyncUi c.sync, stage := signalled c.stage,
                     inFlight := c.inFlight.erase n }, none)

abbrev History := List (Entry SyncCaller SyncEvent (Option Nat))

def machine : Machine SyncCaller SyncEvent Assertion (Option Nat) where
  init := { sync := initSyncUi, stage := .idle, calls := 0, inFlight := [] }
  enabled := Enabled
  step := step

instance (c : SyncCaller) (e : SyncEvent) : Decidable (machine.enabled c e) :=
  inferInstanceAs (Decidable (c.Enabled e))

/-- Call `n` returns, whatever happens next and in whatever order: something can
    happen, nothing that can happen fails, and it goes on like this for a bounded
    number of events until the call is back. -/
inductive Returns (n : Nat) : SyncCaller → Prop where
  | soon {c : SyncCaller} (live : ∃ e, c.Enabled e)
      (safe : ∀ e, c.Enabled e → ∃ r, c.step e = .ok r)
      (on : ∀ e c' out, c.Enabled e → c.step e = .ok (c', out) → out ≠ some n → Returns n c') :
      Returns n c

/-- The call whose answer was handled last. -/
def lastAnswered : History → Option Nat
  | [] => none
  | x :: h =>
      match x.event with
      | .answer n => some n
      | _ => lastAnswered h

structure WakeUpsKept (h : History) : Prop where
  /-- An answer before the timeout brings its call back. -/
  returns : ∀ x ∈ h, ∀ n, x.event = .answer n → x.before.stage ≠ .timedOut → Returns n x.after
  /-- The answer that completes a call is its own. -/
  own : ∀ later x earlier n, h = later ++ x :: earlier → x.output = some n →
    lastAnswered earlier = some n

/-- The condition on the events of a run: the event loop comes to signal only
    once the caller is in its wait. -/
def AnswersInWait (c : SyncCaller) : SyncEvent → Prop
  | .answer _ => c.stage ≠ .sent
  | _ => True

instance (c : SyncCaller) : (e : SyncEvent) → Decidable (AnswersInWait c e)
  | .answer _ => inferInstanceAs (Decidable (_ ≠ _))
  | .call | .enterWait | .wakeUp | .timeOut | .relock | .checkAck => .isTrue trivial

/-- How far the call on its way has come. -/
inductive Progress (h : History) (c : SyncCaller) : Prop where
  | resting (stage : c.stage = .idle) (quiet : c.inFlight = [])
  | asked (open_ : c.stage ≠ .idle ∧ c.stage ≠ .unlocked) (out : c.inFlight = [c.calls])
      (unset : c.stage ≠ .sent → c.sync.flagSync = false)
  | answered (open_ : c.stage ≠ .idle) (quiet : c.inFlight = [])
      (last : lastAnswered h = some c.calls)

variable {c c' : SyncCaller} {e : SyncEvent} {out : Option Nat} {h : History} {n : Nat}

theorem afterWait_ok (tested : c.afterWait = .ok c') :
    c.stage ≠ .timedOut ∧
      c' = { c with stage := if c.sync.flagSync then .unlocked else .waiting } := by
  simp only [afterWait, bind_eq_ok, check_eq_ok, pure_eq_ok] at tested
  obtain ⟨_, intime, rfl⟩ := tested
  exact ⟨intime, rfl⟩

/-- Only the call whose request is out can be answered. -/
theorem Progress.answering (progress : Progress h c) (mem : n ∈ c.inFlight) :
    n = c.calls ∧ c.stage ≠ .idle ∧ c.stage ≠ .unlocked ∧ c.inFlight = [c.calls] := by
  cases progress with
  | resting _ quiet | answered _ quiet _ =>
      rw [quiet] at mem
      cases mem
  | asked open_ out _ =>
      rw [out] at mem
      exact ⟨List.mem_singleton.mp mem, open_.1, open_.2, out⟩

theorem signalled_ne_idle {stage : CallerStage} (busy : stage ≠ .idle) :
    signalled stage ≠ .idle := by
  cases stage <;> simp_all [signalled]

theorem progress_step (progress : Progress h c) (enabled : c.Enabled e)
    (moved : c.step e = .ok (c', out)) : Progress (⟨c, e, out, c'⟩ :: h) c' := by
  cases e with
  | call =>
      cases moved
      cases progress with
      | resting _ quiet => exact .asked (by simp) (by simp [quiet]) (by simp)
      | asked open_ | answered open_ => simp_all [Enabled]
  | enterWait =>
      cases moved
      cases progress with
      | resting stage => cases stage.symm.trans enabled
      | asked open_ out _ => exact .asked (by simp) out (fun _ => rfl)
      | answered _ quiet last => exact .answered (by simp) quiet last
  | wakeUp | timeOut =>
      cases moved
      cases progress with
      | resting stage => cases stage.symm.trans enabled
      | asked _ out unset =>
          have early : c.stage ≠ .sent := by
            rw [show c.stage = _ from enabled]
            decide
          exact .asked (by simp) out (fun _ => unset early)
      | answered _ quiet last => exact .answered (by simp) quiet last
  | relock =>
      simp only [step, bind_eq_ok, pure_eq_ok, Prod.mk.injEq] at moved
      obtain ⟨_, tested, rfl, rfl⟩ := moved
      obtain ⟨intime, rfl⟩ := afterWait_ok tested
      have woken : c.stage = .woken := enabled.resolve_right intime
      cases progress with
      | resting stage => cases stage.symm.trans woken
      | asked _ out unset =>
          have unset := unset (by rw [woken]; decide)
          exact .asked (by simp [unset]) out (fun _ => unset)
      | answered _ quiet last =>
          exact .answered (by dsimp only; split <;> decide) quiet last
  | checkAck =>
      simp only [step, bind_eq_ok, check_eq_ok, pure_eq_ok, Prod.mk.injEq] at moved
      obtain ⟨_, _, rfl, rfl⟩ := moved
      cases progress with
      | resting stage => cases stage.symm.trans enabled
      | asked open_ => exact absurd enabled open_.2
      | answered _ quiet _ => exact .resting rfl quiet
  | answer n =>
      cases moved
      obtain ⟨rfl, busy, -, out⟩ := progress.answering enabled
      exact .answered (signalled_ne_idle busy) (by simp [out]) rfl

theorem progress_run (run : machine.Run c h) : Progress h c := by
  induction run with
  | start => exact .resting rfl rfl
  | next _ enabled moved ih => exact progress_step ih enabled moved

/-- A call that returns was completed by its own answer. -/
theorem Progress.own (progress : Progress h c) (enabled : c.Enabled e)
    (moved : c.step e = .ok (c', some n)) : lastAnswered h = some n := by
  cases e with
  | checkAck =>
      simp only [step, bind_eq_ok, check_eq_ok, pure_eq_ok, Prod.mk.injEq,
        Option.some.injEq] at moved
      obtain ⟨_, _, -, rfl⟩ := moved
      cases progress with
      | resting stage => cases stage.symm.trans enabled
      | asked open_ => exact absurd enabled open_.2
      | answered _ _ last => exact last
  | relock =>
      simp only [step, bind_eq_ok, pure_eq_ok, Prod.mk.injEq] at moved
      obtain ⟨_, _, -, none⟩ := moved
      cases none
  | _ => cases moved

/-- With the flags set and no request out, nothing but the caller can run. -/
theorem returns_of_unlocked (stage : c.stage = .unlocked) (ack : c.sync.msgAck = true)
    (quiet : c.inFlight = []) : Returns c.calls c := by
  have only {e : SyncEvent} (enabled : c.Enabled e) : e = .checkAck := by
    cases e <;> simp_all [Enabled]
  have goes : c.step .checkAck = .ok ({ c with stage := .idle }, some c.calls) := by
    rw [step, check_pass noMsgAck ack]
    rfl
  apply Returns.soon ⟨.checkAck, stage⟩
  · intro e enabled
    exact only enabled ▸ ⟨_, goes⟩
  · intro e c' out enabled moved other
    rw [only enabled, goes] at moved
    cases moved
    exact absurd rfl other

theorem returns_of_woken (stage : c.stage = .woken) (set : c.sync = ⟨true, true⟩)
    (quiet : c.inFlight = []) : Returns c.calls c := by
  have only {e : SyncEvent} (enabled : c.Enabled e) : e = .relock := by
    cases e <;> simp_all [Enabled]
  have goes : c.step .relock = .ok ({ c with stage := .unlocked }, none) := by
    have intime : c.stage ≠ .timedOut := by simp [stage]
    rw [step, afterWait, check_pass answerTimeout intime, set]
    rfl
  apply Returns.soon ⟨.relock, .inl stage⟩
  · intro e enabled
    exact only enabled ▸ ⟨_, goes⟩
  · intro e c' out enabled moved _
    rw [only enabled, goes] at moved
    cases moved
    exact returns_of_unlocked (c := { c with stage := .unlocked }) rfl (by simp [set]) quiet

/-- Before the wait, the signal wakes nobody, and entering the wait clears the
    flags; from there a timeout is possible, and fails. -/
theorem not_returns_of_sent (stage : c.stage = .sent) : ¬Returns n c := by
  intro back
  obtain ⟨_, _, on⟩ := back
  obtain ⟨_, _, on⟩ := on .enterWait _ _ stage rfl (by simp)
  obtain ⟨_, safe, _⟩ := on .timeOut _ _ rfl rfl (by simp)
  obtain ⟨r, goes⟩ := safe .relock (.inr rfl)
  cases goes

theorem returns_iff (progress : Progress h c) (enabled : c.Enabled (.answer n))
    (intime : c.stage ≠ .timedOut) (moved : c.step (.answer n) = .ok (c', out)) :
    Returns n c' ↔ c.stage ≠ .sent := by
  obtain ⟨rfl, busy, locked, out⟩ := progress.answering enabled
  cases moved
  constructor
  · intro back stage
    exact not_returns_of_sent (by simp [stage, signalled]) back
  · intro inWait
    have woken : signalled c.stage = .woken := by
      cases stage : c.stage <;> simp_all [signalled]
    exact returns_of_woken (c := { c with sync := _, stage := _, inFlight := _ }) woken rfl
      (by simp [out])

/-- In a run, every answer that comes before the timeout brings its call back,
    and no call returns on another's answer, if and only if the event loop never
    signals a caller that has not entered its wait. -/
theorem wake_ups_kept_iff (run : machine.Run c h) :
    WakeUpsKept h ↔ Machine.Meets AnswersInWait h := by
  have met {x : Entry SyncCaller SyncEvent (Option Nat)} (mem : x ∈ h) :
      ∃ g, Progress g x.before ∧ x.before.Enabled x.event ∧
        x.before.step x.event = .ok (x.after, x.output) := by
    obtain ⟨later, earlier, rfl⟩ := List.append_of_mem mem
    obtain ⟨before, enabled, moved⟩ := run.cut
    exact ⟨earlier, progress_run before, enabled, moved⟩
  constructor
  · intro kept x mem
    obtain ⟨g, progress, enabled, moved⟩ := met mem
    cases event : x.event with
    | answer n =>
        rw [event] at enabled moved
        intro stage
        have back := kept.returns x mem n event (by simp [stage])
        exact (returns_iff progress enabled (by simp [stage]) moved).mp back stage
    | _ => trivial
  · intro orderly
    constructor
    · intro x mem n event intime
      obtain ⟨g, progress, enabled, moved⟩ := met mem
      have inWait := orderly x mem
      rw [event] at enabled moved inWait
      exact (returns_iff progress enabled intime moved).mpr inWait
    · intro later x earlier n cut returned
      subst cut
      obtain ⟨before, enabled, moved⟩ := run.cut
      rw [returned] at moved
      exact (progress_run before).own enabled moved

/-- The caller is in its wait when the answer comes, and goes on to a second call. -/
def waited : List SyncEvent :=
  [.call, .enterWait, .wakeUp, .answer 1, .relock, .checkAck, .call]

theorem wake_ups_kept_iff_waited : WakeUpsKept (machine.replay waited).2 :=
  (wake_ups_kept_iff (machine.run_replay waited)).mpr (by decide +kernel)

/-- The answer comes before the caller has started to wait. -/
def answeredEarly : List SyncEvent := [.call, .answer 1]

theorem wake_up_lost :
    ¬∀ (c : SyncCaller) (h : History), machine.Run c h → WakeUpsKept h := by
  intro kept
  have lost : ∀ x ∈ (machine.replay answeredEarly).2.head?, x.event = .answer 1 ∧
      x.before.stage ≠ .timedOut ∧ x.after.stage = .sent := by decide +kernel
  cases last : (machine.replay answeredEarly).2.head? with
  | none => exact absurd last (by decide +kernel)
  | some x =>
      obtain ⟨event, intime, stage⟩ := lost x last
      have back := (kept _ _ (machine.run_replay answeredEarly)).returns x
        (List.mem_of_head? last) 1 event intime
      exact not_returns_of_sent stage back

end SyncCaller

end FlexRic
