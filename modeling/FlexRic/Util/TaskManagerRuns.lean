import FlexRic.Library.Machine
import FlexRic.Library.Pool
import FlexRic.Util.TaskManagerSteps
import Mathlib.Tactic.Abel

/-! # Runs of the task manager

Any number of callers hand in tasks, the workers take them in batches, steal and
wait, and in the end the manager is freed. Tasks are counted: each that was handed
in has been executed once or is still somewhere on its way. Steps of the threads
use up a bounded amount of work, so that a run comes to rest.
-/

namespace FlexRic

/-- What a worker has yet to run of its batch. -/
def Worker.batch : Worker → List TaskT
  | .running rest => rest
  | .looking _ | .popping | .left => []

namespace Worker

@[simp] theorem batch_looking (i : Nat) : (looking i).batch = [] := rfl

@[simp] theorem batch_popping : popping.batch = [] := rfl

@[simp] theorem batch_running (rest : List TaskT) : (running rest).batch = rest := rfl

@[simp] theorem batch_left : left.batch = [] := rfl

end Worker

namespace TaskManager

open NotQ (Queued queued)

abbrev History (n : Nat) := List (Entry (TaskManager n) (TaskEvent n) (TaskOutput n))

variable {n : Nat}

/-- The tasks that callers handed in. -/
def submitted (h : History n) : List TaskT :=
  h.filterMap fun x =>
    match x.event with
    | .async task => some task
    | _ => none

/-- The tasks that workers have run, each with its worker. -/
def executed (h : History n) : List (Fin n × TaskT) :=
  h.filterMap fun x =>
    match x.output with
    | .ran worker task => some (worker, task)
    | _ => none

/-- The tasks that were thrown away with their queues. -/
def dropped (h : History n) : List TaskT :=
  h.flatMap fun x =>
    match x.output with
    | .cleaned tasks => tasks
    | _ => []

/-- The tasks on their way: in a call, in a queue, or in a batch. -/
def pending (s : TaskManager n) : Multiset TaskT :=
  (s.calls.map AsyncCall.task : Multiset TaskT) + (∑ i, (queued (s.queues i) : Multiset TaskT)) +
    ∑ w, ((s.workers w).batch : Multiset TaskT)

/-- The steps that a task in a queue can still bring about. -/
def taskWork (n : Nat) : Nat := 6 * n + 3

def callWork (n : Nat) (call : AsyncCall) : Nat := taskWork n + (n - call.tries) + 1

def workerWork (w : Fin n) : Worker → Nat
  | .looking i => numIt w - i + 1
  | .popping => 1
  | .running rest => rest.length + numIt w + 2
  | .left => 0

def phaseWork : Phase n → Nat
  | .marking i => 3 * n - i
  | .joining i => 2 * n - i
  | .cleaning i => n - i
  | .notFreed | .freed => 0

/-- No more steps than this follow, unless a caller comes or the manager is freed. -/
def work (s : TaskManager n) : Nat :=
  (s.calls.map (callWork n)).sum + (∑ i, taskWork n * (s.queues i).queued.length) +
    (∑ w, workerWork w (s.workers w)) + phaseWork s.phase

/-- What an event hands in. -/
def handedIn : TaskEvent n → Multiset TaskT
  | .async task => {task}
  | _ => 0

/-- What an output says was run. -/
def ranNow : TaskOutput n → Multiset TaskT
  | .ran _ task => {task}
  | _ => 0

variable {h : History n}

theorem submitted_cons (x : Entry (TaskManager n) (TaskEvent n) (TaskOutput n)) :
    (submitted (x :: h) : Multiset TaskT) = handedIn x.event + submitted h := by
  rw [submitted, List.filterMap_cons]
  cases x.event <;> rfl

theorem executed_cons (x : Entry (TaskManager n) (TaskEvent n) (TaskOutput n)) :
    ((executed (x :: h)).map Prod.snd : Multiset TaskT) =
      ranNow x.output + (executed h).map Prod.snd := by
  rw [executed, List.filterMap_cons]
  cases x.output <;> rfl

theorem goOn_batch (w : Fin n) (rest : List TaskT) : (goOn w rest).batch = rest := by
  cases rest <;> rfl

theorem lookOn_batch (w : Fin n) (i : Nat) : (lookOn w i).batch = [] := by
  rcases lookOn_cases w i with ⟨again, -⟩ | waits
  · rw [again]
    rfl
  · rw [waits]
    rfl

/-- The tasks in queues, when one of them changes. -/
theorem queued_set (s : TaskManager n) (i : Fin n) (q : NotQ) :
    (∑ j, (queued (Function.update s.queues i q j) : Multiset TaskT)) +
        (queued (s.queues i) : Multiset TaskT) =
      (∑ j, (queued (s.queues j) : Multiset TaskT)) + (queued q : Multiset TaskT) :=
  sum_update (fun _ q => (queued q : Multiset TaskT)) s.queues i q

/-- The tasks in batches, when one worker goes on. -/
theorem batches_set (s : TaskManager n) (w : Fin n) (worker : Worker) :
    (∑ v, ((Function.update s.workers w worker v).batch : Multiset TaskT)) +
        ((s.workers w).batch : Multiset TaskT) =
      (∑ v, ((s.workers v).batch : Multiset TaskT)) + (worker.batch : Multiset TaskT) :=
  sum_update (fun _ worker => (worker.batch : Multiset TaskT)) s.workers w worker

variable {s : TaskManager n}

theorem pending_eq_zero (calls : s.calls = []) (queues : ∀ i, (s.queues i).queued = [])
    (batches : ∀ w, (s.workers w).batch = []) : s.pending = 0 := by
  simp only [pending, calls, queues, batches]
  simp

/-- Once all workers have left, nothing is on its way. -/
theorem Sound.pending_of_left (sound : s.Sound) (calls : s.calls = [])
    (left : ∀ w, s.workers w = .left) : s.pending = 0 := by
  refine pending_eq_zero calls (fun w => (sound.leaving w (left w)).2) fun w => ?_
  rw [left w, Worker.batch_left]

theorem freed_pending (sound : s.Sound) (staged : s.Staged) (freed : s.phase = .freed) :
    s.pending = 0 := by
  simp only [Staged, freed] at staged
  exact sound.pending_of_left staged.1 staged.2.2

/-- When no thread has a step left, each worker waits at an empty queue or has left. -/
theorem at_rest (sound : s.Sound) (staged : s.Staged)
    (still : ∀ e : TaskEvent n, e.Internal → ¬s.Enabled e) :
    s.pending = 0 ∧ (s.phase = .notFreed ∨ s.phase = .freed) := by
  have calls : s.calls = [] := by
    cases here : s.calls with
    | nil => rfl
    | cons call others =>
        have first : s.calls[0]? = some call := by rw [here]; rfl
        by_cases more : call.tries < n
        · exact absurd ⟨call, first, more⟩ (still (.tryPush 0 false) trivial)
        · exact absurd ⟨call, first, more⟩ (still (.push 0) trivial)
  have waits : ∀ w, s.workers w = .left ∨ s.workers w = .popping ∧
      (s.queues w).ring.size = 0 ∧ (s.queues w).done = false := by
    intro w
    cases here : s.workers w with
    | looking i => exact absurd ⟨i, here⟩ (still (.tryPop w false) trivial)
    | popping =>
        have stuck : ¬((s.queues w).ring.size ≠ 0 ∨ (s.queues w).done = true) :=
          fun ready => still (.pop w) trivial ⟨here, ready⟩
        rw [not_or, not_not, Bool.not_eq_true] at stuck
        exact .inr ⟨rfl, stuck⟩
    | running rest =>
        cases rest with
        | nil => exact absurd here (sound.running w)
        | cons t rest => exact absurd ⟨t, rest, here⟩ (still (.run w) trivial)
    | left => exact .inl rfl
  constructor
  · refine pending_eq_zero calls (fun w => ?_) fun w => ?_
    · rcases waits w with left | ⟨-, empty, -⟩
      · exact (sound.leaving w left).2
      · rw [← List.length_eq_zero_iff, ← (sound.queues w).holds.size_eq]
        exact empty
    · rcases waits w with left | ⟨here, -, -⟩
      · rw [left, Worker.batch_left]
      · rw [here, Worker.batch_popping]
  · cases here : s.phase with
    | notFreed => exact .inl rfl
    | marking i => exact absurd ⟨i, here⟩ (still .markDone trivial)
    | joining i =>
        simp only [Staged, here] at staged
        rcases waits i with left | ⟨-, -, open_⟩
        · exact absurd ⟨i, here, left⟩ (still .join trivial)
        · rw [staged.2.1 i] at open_
          cases open_
    | cleaning i => exact absurd ⟨i, here⟩ (still .clean trivial)
    | freed => exact .inr rfl

theorem sound_init : (init : TaskManager n).Sound where
  queues _ := by
    have queue := NotQ.Queued.init
    rw [← queue.queued_eq] at queue
    exact queue
  args := nofun
  looking w i here := by
    cases here
    have below := w.isLt
    rw [numIt]
    omega
  running := nofun
  leaving := nofun

/-- What a run keeps whose steps all fit. -/
structure Kept (s : TaskManager n) (h : History n) : Prop where
  sound : s.Sound
  staged : s.Staged
  balance : (submitted h : Multiset TaskT) = (executed h).map Prod.snd + s.pending
  kept : dropped h = []

theorem kept_init : Kept (init : TaskManager n) [] where
  sound := sound_init
  staged _ := rfl
  balance := by
    have none_ : (init : TaskManager n).pending = 0 :=
      pending_eq_zero rfl (fun _ => NotQ.Queued.init.queued_eq) fun _ => rfl
    rw [none_]
    rfl
  kept := rfl

theorem numIt_le (w : Fin n) : numIt w + 3 ≤ 6 * n := by
  have below := w.isLt
  rw [numIt]
  omega

/-- The steps left to queued tasks, when one queue changes. -/
theorem queueWork_set (s : TaskManager n) (i : Fin n) (q : NotQ) :
    (∑ j, taskWork n * (Function.update s.queues i q j).queued.length) +
        taskWork n * (s.queues i).queued.length =
      (∑ j, taskWork n * (s.queues j).queued.length) + taskWork n * q.queued.length :=
  sum_update (fun _ q => taskWork n * (queued q).length) s.queues i q

/-- The steps left to workers, when one of them goes on. -/
theorem workerWork_set (s : TaskManager n) (w : Fin n) (worker : Worker) :
    (∑ v, workerWork v (Function.update s.workers w worker v)) + workerWork w (s.workers w) =
      (∑ v, workerWork v (s.workers v)) + workerWork w worker :=
  sum_update workerWork s.workers w worker

theorem workerWork_goOn (w : Fin n) (t : TaskT) (rest : List TaskT) :
    workerWork w (goOn w rest) < workerWork w (.running (t :: rest)) := by
  cases rest with
  | nil =>
      simp only [goOn, workerWork, List.length_cons]
      omega
  | cons t rest =>
      simp only [goOn, workerWork, List.length_cons]
      omega

theorem workerWork_lookOn {w : Fin n} {i : Nat} (inside : i < numIt w) :
    workerWork w (lookOn w i) < workerWork w (.looking i) := by
  rcases lookOn_cases w i with ⟨again, more⟩ | waits
  · rw [again]
    simp only [workerWork]
    omega
  · rw [waits]
    simp only [workerWork]
    omega

variable [NeZero n] {s' : TaskManager n} {e : TaskEvent n} {out : TaskOutput n}

/-- A step hands tasks on, and takes one off only by running it. -/
theorem Moves.balance (moves : s.Moves e s' out) :
    handedIn e + s.pending = ranNow out + s'.pending := by
  cases moves with
  | async args here =>
      rename_i task
      have calls : (((s.async task).calls.map AsyncCall.task : List TaskT) : Multiset TaskT) =
          (s.calls.map AsyncCall.task : List TaskT) + {task} := by
        rw [TaskManager.async, List.map_append, ← Multiset.coe_add]
        rfl
      simp only [handedIn, ranNow, pending, calls]
      simp only [TaskManager.async]
      abel
  | pushed internal here added done =>
      rename_i c call i q
      obtain ⟨others, before, after⟩ := advance_perm here
      have calls : (s.calls.map AsyncCall.task : Multiset TaskT) =
          {call.task} + others.map AsyncCall.task :=
        Multiset.coe_eq_coe.mpr (before.map AsyncCall.task)
      have calls' : ((advance s.calls c none).map AsyncCall.task : Multiset TaskT) =
          others.map AsyncCall.task :=
        Multiset.coe_eq_coe.mpr ((after none).map AsyncCall.task)
      have queues := queued_set s i q
      rw [added.queued_eq, ← Multiset.coe_add, Multiset.coe_singleton] at queues
      have event : handedIn e = 0 := by
        cases e <;> first | rfl | exact internal.elim
      have grown : (∑ j, ((Function.update s.queues i q j).queued : Multiset TaskT)) =
          (∑ j, ((s.queues j).queued : Multiset TaskT)) + {call.task} := by
        apply add_right_cancel (b := ((s.queues i).queued : Multiset TaskT))
        rw [queues]
        abel
      simp only [event, ranNow, pending, setCall, setQueue, calls', calls, grown]
      abel
  | retried here more =>
      rename_i c call busy
      obtain ⟨others, before, after⟩ := advance_perm here
      have again : ((advance s.calls c (some { call with tries := call.tries + 1 })).map
          AsyncCall.task).Perm ((call :: others).map AsyncCall.task) :=
        (after (some { call with tries := call.tries + 1 })).map AsyncCall.task
      have calls : (s.calls.map AsyncCall.task : Multiset TaskT) =
          ((advance s.calls c (some { call with tries := call.tries + 1 })).map
            AsyncCall.task : List TaskT) :=
        Multiset.coe_eq_coe.mpr ((before.map AsyncCall.task).trans again.symm)
      simp only [handedIn, ranNow, pending, setCall, calls]
  | popped internal idle was left done =>
      rename_i w i q t batch rest
      have queues := queued_set s i q
      rw [left.queued_eq, was, ← Multiset.coe_add] at queues
      have batches := batches_set s w (.running (t :: batch))
      have none_ : (s.workers w).batch = [] := by
        rcases idle with waits | ⟨j, looks⟩
        · rw [waits, Worker.batch_popping]
        · rw [looks, Worker.batch_looking]
      rw [none_, Multiset.coe_nil, add_zero, Worker.batch_running] at batches
      have event : handedIn e = 0 := by
        cases e <;> first | rfl | exact internal.elim
      have shrunk : (∑ j, ((Function.update s.queues i q j).queued : Multiset TaskT)) +
          (t :: batch : List TaskT) = ∑ j, ((s.queues j).queued : Multiset TaskT) := by
        apply add_right_cancel (b := (rest : Multiset TaskT))
        rw [← queues]
        abel
      simp only [event, ranNow, pending, setWorker, setQueue, batches, ← shrunk]
      abel
  | looked here =>
      rename_i w i busy
      have batches := batches_set s w (lookOn w i)
      rw [here, lookOn_batch, Worker.batch_looking, Multiset.coe_nil, add_zero, add_zero]
        at batches
      simp only [handedIn, ranNow, pending, setWorker, batches]
  | leaves here done empty =>
      rename_i w
      have batches := batches_set s w .left
      rw [here, Worker.batch_popping, Worker.batch_left, Multiset.coe_nil, add_zero, add_zero]
        at batches
      simp only [handedIn, ranNow, pending, setWorker, batches]
  | ran here =>
      rename_i w t rest
      have batches := batches_set s w (goOn w rest)
      rw [here, goOn_batch, Worker.batch_running, ← Multiset.cons_coe, ← Multiset.singleton_add]
        at batches
      have shrunk : (∑ v, ((Function.update s.workers w (goOn w rest) v).batch :
          Multiset TaskT)) + {t} = ∑ v, ((s.workers v).batch : Multiset TaskT) := by
        apply add_right_cancel (b := (rest : Multiset TaskT))
        rw [← batches]
        abel
      simp only [handedIn, ranNow, pending, setWorker, ← shrunk]
      abel
  | free here idle => rfl
  | marked here =>
      rename_i i
      have queues := queued_set s i (s.queues i).markDone
      have same : (s.queues i).markDone.queued = (s.queues i).queued := rfl
      rw [same] at queues
      have queues' := add_right_cancel queues
      simp only [handedIn, ranNow, pending, TaskManager.markDone, setQueue, queues']
  | joined here left => rfl
  | cleaned here => rfl

/-- Every step of the threads themselves uses up some work. -/
theorem Moves.work_lt (moves : s.Moves e s' out) (sound : s.Sound) (internal : e.Internal) :
    s'.work < s.work := by
  cases moves with
  | async args here => exact internal.elim
  | pushed inner here added done =>
      rename_i c call i q
      obtain ⟨others, before, after⟩ := advance_perm here
      have calls := (before.map (callWork n)).sum_eq
      have calls' := ((after none).map (callWork n)).sum_eq
      have queues := queueWork_set s i q
      rw [added.queued_eq, List.length_append, List.length_singleton, Nat.mul_add, Nat.mul_one]
        at queues
      rw [List.map_cons, List.sum_cons, callWork] at calls
      rw [Option.toList_none, List.nil_append] at calls'
      simp only [work, setCall, setQueue, calls, calls']
      omega
  | retried here more =>
      rename_i c call busy
      obtain ⟨others, before, after⟩ := advance_perm here
      have calls := (before.map (callWork n)).sum_eq
      have calls' := ((after (some { call with tries := call.tries + 1 })).map (callWork n)).sum_eq
      rw [List.map_cons, List.sum_cons, callWork] at calls
      rw [Option.toList_some, List.singleton_append, List.map_cons, List.sum_cons, callWork]
        at calls'
      simp only [work, setCall, calls, calls']
      omega
  | popped inner idle was left done =>
      rename_i w i q t batch rest
      have queues := queueWork_set s i q
      have workers := workerWork_set s w (.running (t :: batch))
      have worth : taskWork n * (s.queues i).queued.length =
          taskWork n * batch.length + taskWork n + taskWork n * rest.length := by
        rw [was, List.length_append, List.length_cons, Nat.mul_add, Nat.mul_add, Nat.mul_one]
      have enough : batch.length ≤ taskWork n * batch.length :=
        Nat.le_mul_of_pos_left _ (by rw [taskWork]; omega)
      have awake : 1 ≤ workerWork w (s.workers w) := by
        rcases idle with waits | ⟨j, looks⟩
        · rw [waits, workerWork]
        · rw [looks, workerWork]
          omega
      have few := numIt_le w
      rw [left.queued_eq, worth] at queues
      rw [workerWork, List.length_cons] at workers
      have rate : taskWork n = 6 * n + 3 := rfl
      simp only [work, setWorker, setQueue]
      omega
  | looked here =>
      rename_i w i busy
      have workers := workerWork_set s w (lookOn w i)
      have less := workerWork_lookOn (sound.looking w i here)
      rw [here] at workers
      simp only [work, setWorker]
      omega
  | leaves here done empty =>
      rename_i w
      have workers := workerWork_set s w .left
      rw [here, workerWork, workerWork] at workers
      simp only [work, setWorker]
      omega
  | ran here =>
      rename_i w t rest
      have workers := workerWork_set s w (goOn w rest)
      have less := workerWork_goOn w t rest
      rw [here] at workers
      simp only [work, setWorker]
      omega
  | free here idle => exact internal.elim
  | marked here =>
      rename_i i
      have queues := queueWork_set s i (s.queues i).markDone
      have same : (s.queues i).markDone.queued = (s.queues i).queued := rfl
      have below := i.isLt
      rw [same] at queues
      have phase : phaseWork (nextOr i .marking (.joining (Fin.ofNat n 0))) <
          phaseWork (.marking i) := by
        rcases nextOr_cases i .marking (.joining (Fin.ofNat n 0)) with ⟨more, next⟩ | ⟨-, next⟩
        · rw [next]
          simp only [phaseWork]
          omega
        · rw [next]
          simp only [phaseWork, Fin.val_ofNat, Nat.zero_mod]
          omega
      simp only [work, TaskManager.markDone, setQueue, here]
      omega
  | joined here left =>
      rename_i i
      have below := i.isLt
      have phase : phaseWork (nextOr i .joining (.cleaning (Fin.ofNat n 0))) <
          phaseWork (.joining i) := by
        rcases nextOr_cases i .joining (.cleaning (Fin.ofNat n 0)) with ⟨more, next⟩ | ⟨-, next⟩
        · rw [next]
          simp only [phaseWork]
          omega
        · rw [next]
          simp only [phaseWork, Fin.val_ofNat, Nat.zero_mod]
          omega
      simp only [work, TaskManager.join, here]
      omega
  | cleaned here =>
      rename_i i
      have below := i.isLt
      have phase : phaseWork (nextOr i .cleaning .freed) < phaseWork (.cleaning i) := by
        rcases nextOr_cases i .cleaning .freed with ⟨more, next⟩ | ⟨-, next⟩
        · rw [next]
          simp only [phaseWork]
          omega
        · rw [next]
          simp only [phaseWork]
          omega
      simp only [work, here]
      omega

/-- A manager with as many threads. -/
def machine (n : Nat) [NeZero n] :
    Machine (TaskManager n) (TaskEvent n) TaskFailure (TaskOutput n) where
  init := .init
  enabled := Enabled
  step := step

/-- Each task that was handed in was executed once or is on its way, and no task is
    thrown away. What is on its way arrives: the steps of the threads go through and
    are bounded, and when there is none left every task has been executed and a
    manager that is to be freed has been. -/
structure Delivers (s : TaskManager n) (h : History n) : Prop where
  balance : (submitted h : Multiset TaskT) = (executed h).map Prod.snd + s.pending
  kept : dropped h = []
  goes : ∀ e, s.Enabled e → s.Fits e → ∃ s' out, s.step e = .ok (s', out) ∧
    (e.Internal → s'.work < s.work)
  rests : (∀ e : TaskEvent n, e.Internal → ¬s.Enabled e) →
    s.pending = 0 ∧ (s.phase = .notFreed ∨ s.phase = .freed)
  freed : s.phase = .freed → s.pending = 0

theorem Moves.dropped (moves : s.Moves e s' out) {h : History n} (kept : dropped h = []) :
    TaskManager.dropped (⟨s, e, out, s'⟩ :: h) = [] := by
  rw [TaskManager.dropped, List.flatMap_cons, ← TaskManager.dropped, kept, List.append_nil]
  cases moves <;> rfl

theorem kept_run {h : History n} (run : (machine n).Run s h)
    (meets : Machine.Meets Fits h) : Kept s h := by
  induction run with
  | start => exact kept_init
  | next _ enabled moved ih =>
      obtain ⟨here, earlier⟩ := Machine.meets_cons.mp meets
      have kept := ih earlier
      obtain ⟨_, _, goes, moves⟩ := step_moves kept.sound kept.staged enabled here
      cases goes.symm.trans moved
      refine ⟨moves.sound kept.sound kept.staged, moves.staged kept.staged, ?_,
        moves.dropped kept.kept⟩
      have account := moves.balance
      rw [submitted_cons, executed_cons, kept.balance]
      grind

/-- Along every run whose steps all fit, every task that was handed in is executed
    once, by one worker. -/
theorem tasks_delivered {h : History n} (run : (machine n).Run s h)
    (meets : Machine.Meets Fits h) : s.Delivers h := by
  have kept := kept_run run meets
  refine ⟨kept.balance, kept.kept, fun e enabled fits => ?_,
    fun still => at_rest kept.sound kept.staged still,
    fun freed => freed_pending kept.sound kept.staged freed⟩
  obtain ⟨s', out, goes, moves⟩ := step_moves kept.sound kept.staged enabled fits
  exact ⟨s', out, goes, fun internal => moves.work_lt kept.sound internal⟩

theorem extend {h : History n} (run : (machine n).Run s h)
    (moved : s.step e = .ok (s', out)) (enabled : s.Enabled e) :
    (machine n).Run s' (⟨s, e, out, s'⟩ :: h) :=
  run.next enabled moved

def oneTask : TaskT := ⟨7, some 11⟩

def otherTask : TaskT := ⟨8, some 12⟩

theorem room_init : NotQ.init.ring.Room := fun all => absurd all (by decide)

/-- The first push to a queue. -/
theorem push_init (t : TaskT) :
    ∃ q, NotQ.init.push t = .ok q ∧ q.Queued [t] ∧ q.done = false :=
  NotQ.Queued.init.push room_init t

theorem tryPush_init {q : NotQ} {t : TaskT} (args : t.args.isSome)
    (pushed : NotQ.init.push t = .ok q) : NotQ.init.tryPush false t = .ok (some q) := by
  rw [NotQ.tryPush, check_pass _ args, pushed]
  rfl

/-- The only task of a queue, and what is found after it. -/
theorem tryPop_single {q : NotQ} {t : TaskT} (queue : q.Queued [t]) :
    ∃ q', q.tryPop false = .ok (some ([t], q')) ∧ q'.tryPop false = .ok none := by
  obtain ⟨q', taken, empty, -⟩ := queue.takeBatch false
  have filled : ¬q.ring.size = 0 := by
    rw [queue.holds.size_eq]
    exact Nat.one_ne_zero
  have emptied : q'.ring.size = 0 := empty.holds.size_eq
  refine ⟨q', ?_, ?_⟩
  · rw [NotQ.tryPop, if_neg Bool.false_ne_true, if_neg filled, taken]
    rfl
  · rw [NotQ.tryPop, if_neg Bool.false_ne_true, if_pos emptied]
    rfl

/-- Two tasks go to the queues of two workers. The second worker takes its own, and then steals
    the other's. -/
theorem tasks_delivered_two : ∃ (s : TaskManager 2) (h : History 2), (machine 2).Run s h ∧
    submitted h = [otherTask, oneTask] ∧ executed h = [(1, oneTask), (1, otherTask)] ∧
    s.Delivers h := by
  obtain ⟨q₀, pushed₀, queue₀, -⟩ := push_init oneTask
  obtain ⟨q₁, pushed₁, queue₁, -⟩ := push_init otherTask
  have tried₀ := tryPush_init rfl pushed₀
  have tried₁ := tryPush_init rfl pushed₁
  obtain ⟨left₀, popped₀, -⟩ := tryPop_single queue₀
  obtain ⟨left₁, popped₁, empty₁⟩ := tryPop_single queue₁
  let called : TaskManager 2 := (init.async oneTask).async otherTask
  let first : TaskManager 2 := (called.setQueue 0 q₀).setCall 0 none
  let second : TaskManager 2 := (first.setQueue 1 q₁).setCall 0 none
  let own : TaskManager 2 := (second.setQueue 1 left₁).setWorker 1 (.running [otherTask])
  let around : TaskManager 2 := (own.setWorker 1 (.looking 1)).setWorker 1 (.looking 2)
  let stolen : TaskManager 2 := (around.setQueue 0 left₀).setWorker 1 (.running [oneTask])
  have called₁ : (init : TaskManager 2).step (.async oneTask) =
      .ok (init.async oneTask, .nothing) := rfl
  have called₂ : (init.async oneTask : TaskManager 2).step (.async otherTask) =
      .ok (called, .nothing) := rfl
  have moved₁ : called.step (.tryPush 0 false) = .ok (first, .nothing) :=
    bind_eq_ok.mpr ⟨_, bind_eq_ok.mpr ⟨some q₀, tried₀, rfl⟩, rfl⟩
  have moved₂ : first.step (.tryPush 0 false) = .ok (second, .nothing) :=
    bind_eq_ok.mpr ⟨_, bind_eq_ok.mpr ⟨some q₁, tried₁, rfl⟩, rfl⟩
  have moved₃ : second.step (.tryPop 1 false) = .ok (own, .nothing) :=
    bind_eq_ok.mpr ⟨_, bind_eq_ok.mpr ⟨_, popped₁, rfl⟩, rfl⟩
  have moved₄ : own.step (.run 1) = .ok (own.setWorker 1 (.looking 1), .ran 1 otherTask) := rfl
  have moved₅ : (own.setWorker 1 (.looking 1)).step (.tryPop 1 false) = .ok (around, .nothing) :=
    bind_eq_ok.mpr ⟨_, bind_eq_ok.mpr ⟨none, empty₁, rfl⟩, rfl⟩
  have moved₆ : around.step (.tryPop 1 false) = .ok (stolen, .nothing) :=
    bind_eq_ok.mpr ⟨_, bind_eq_ok.mpr ⟨_, popped₀, rfl⟩, rfl⟩
  have moved₇ : stolen.step (.run 1) = .ok (stolen.setWorker 1 (.looking 1), .ran 1 oneTask) :=
    rfl
  have run₂ := extend (extend (extend (extend .start called₁ rfl) called₂ rfl)
    moved₁ ⟨_, rfl, by decide⟩) moved₂ ⟨_, rfl, by decide⟩
  have run₅ := extend (extend (extend run₂ moved₃ ⟨_, rfl⟩) moved₄ ⟨_, _, rfl⟩) moved₅ ⟨_, rfl⟩
  have run₇ := extend (extend run₅ moved₆ ⟨_, rfl⟩) moved₇ ⟨_, _, rfl⟩
  have room₁ : Fits called (.tryPush 0 false) := by
    intro call here
    cases here
    exact room_init
  have room₂ : Fits first (.tryPush 0 false) := by
    intro call here
    cases here
    exact room_init
  refine ⟨_, _, run₇, rfl, rfl, tasks_delivered run₇ ?_⟩
  intro x mem
  simp only [List.mem_cons, List.not_mem_nil, or_false] at mem
  rcases mem with rfl | rfl | rfl | rfl | rfl | rfl | rfl | rfl | rfl
  · trivial
  · trivial
  · trivial
  · trivial
  · trivial
  · exact room₂
  · exact room₁
  · rfl
  · rfl

/-- A worker that has tried its queue for the third time. -/
def waiting : TaskManager 1 :=
  ((init.setWorker 0 (.looking 1)).setWorker 0 (.looking 2)).setWorker 0 .popping

theorem waiting_run : ∃ h, (machine 1).Run waiting h ∧ submitted h = [] ∧ executed h = [] ∧
    dropped h = [] := by
  have moved₁ : (init : TaskManager 1).step (.tryPop 0 false) =
      .ok (init.setWorker 0 (.looking 1), .nothing) := rfl
  have moved₂ : (init.setWorker 0 (.looking 1) : TaskManager 1).step (.tryPop 0 false) =
      .ok ((init.setWorker 0 (.looking 1)).setWorker 0 (.looking 2), .nothing) := rfl
  have moved₃ : ((init.setWorker 0 (.looking 1)).setWorker 0 (.looking 2) : TaskManager 1).step
      (.tryPop 0 false) = .ok (waiting, .nothing) := rfl
  exact ⟨_, extend (extend (extend .start moved₁ ⟨_, rfl⟩) moved₂ ⟨_, rfl⟩) moved₃ ⟨_, rfl⟩, rfl,
    rfl, rfl⟩

/-- The task is in the queue and the manager is being freed. -/
def closing (q : NotQ) : TaskManager 1 :=
  { ((waiting.async oneTask).setQueue 0 q).setCall 0 none with phase := .marking 0 }

/-- A worker that has looked around before the task came finds its queue done, and
    leaves the task in it. -/
theorem task_dropped : ∃ (s : TaskManager 1) (h : History 1), (machine 1).Run s h ∧
    s.phase = .freed ∧ submitted h = [oneTask] ∧ executed h = [] ∧ dropped h = [oneTask] := by
  obtain ⟨q, pushed, queue, -⟩ := push_init oneTask
  have tried := tryPush_init rfl pushed
  have freed : q.markDone.free = .ok [oneTask] := queue.markDone.free rfl
  obtain ⟨h, run, submitted_, executed_, dropped_⟩ := waiting_run
  have moved₁ : waiting.step (.async oneTask) = .ok (waiting.async oneTask, .nothing) := rfl
  have moved₂ : (waiting.async oneTask).step (.tryPush 0 false) =
      .ok (((waiting.async oneTask).setQueue 0 q).setCall 0 none, .nothing) :=
    bind_eq_ok.mpr ⟨_, bind_eq_ok.mpr ⟨some q, tried, rfl⟩, rfl⟩
  have moved₃ : (((waiting.async oneTask).setQueue 0 q).setCall 0 none).step .free =
      .ok (closing q, .nothing) := rfl
  have moved₄ : (closing q).step .markDone = .ok ((closing q).markDone 0, .nothing) := rfl
  have moved₅ : ((closing q).markDone 0).step (.pop 0) =
      .ok (((closing q).markDone 0).setWorker 0 .left, .nothing) := rfl
  have moved₆ : (((closing q).markDone 0).setWorker 0 .left).step .join =
      .ok ((((closing q).markDone 0).setWorker 0 .left).join 0, .nothing) := rfl
  have moved₇ : ((((closing q).markDone 0).setWorker 0 .left).join 0).step .clean =
      .ok ({ (((closing q).markDone 0).setWorker 0 .left).join 0 with phase := .freed },
        .cleaned [oneTask]) :=
    bind_eq_ok.mpr ⟨_, bind_eq_ok.mpr ⟨_, freed, rfl⟩, rfl⟩
  have run₂ := extend (extend run moved₁ rfl) moved₂ ⟨_, rfl, by decide⟩
  have run₄ := extend (extend run₂ moved₃ ⟨rfl, rfl⟩) moved₄ ⟨_, rfl⟩
  have run₆ := extend (extend run₄ moved₅ ⟨rfl, .inr rfl⟩) moved₆ ⟨_, rfl, rfl⟩
  refine ⟨_, _, extend run₆ moved₇ ⟨_, rfl⟩, rfl, ?_, ?_, ?_⟩
  · exact congrArg (oneTask :: ·) submitted_
  · exact executed_
  · exact congrArg (oneTask :: ·) dropped_

end TaskManager

end FlexRic
