import FlexRic.Library.Threads
import FlexRic.Util.SeqRing
import Mathlib.Data.Fin.Basic
import Mathlib.Logic.Function.Basic

/-! # The task manager

Callers spread tasks over the queues of the worker threads, and a worker that has
nothing to do looks through all queues before it waits at its own. Each operation
on a queue runs under the queue's mutex and is one step here; whether a mutex is
taken when a thread only tries it is up to the run.
-/

namespace FlexRic

/-- `task_t`. The function is never null. -/
structure TaskT where
  func : Nat
  args : Option Nat
  deriving DecidableEq, Repr, Inhabited

inductive TaskFailure where
  /-- `t.args != NULL` -/
  | nullArgs
  /-- `sz == ret.len + seq_ring_size(&q->r)` -/
  | sizes
  /-- `it != seq_ring_end(&q->r)` -/
  | atEnd
  /-- `q->done == 1` -/
  | notDone
  | ring (failure : SeqRingFailure)
  deriving DecidableEq, Repr

/-- `not_q_t`. -/
structure NotQ where
  ring : SeqRing TaskT
  done : Bool

namespace NotQ

def defaultElm : Nat := 32768

/-- `sizeof(task_t)`. -/
def sizeofTask : Nat := 16

def init : NotQ where
  ring := .init defaultElm sizeofTask
  done := false

def push (q : NotQ) (t : TaskT) : Except TaskFailure NotQ := do
  let ring ← (q.ring.pushBack t).mapError .ring
  pure { q with ring := ring }

/-- Returns nothing when the mutex is taken. -/
def tryPush (q : NotQ) (busy : Bool) (t : TaskT) : Except TaskFailure (Option NotQ) := do
  check t.args.isSome .nullArgs
  if busy then pure none
  else do
    let q ← q.push t
    pure (some q)

/-- The loop that copies `len` tasks from position `i` on. Only `pop` compares with the end. -/
def copyTasks (r : SeqRing TaskT) (guarded : Bool) : (i len : Nat) → Except TaskFailure (List TaskT)
  | _, 0 => .ok []
  | i, len + 1 => do
      check (guarded = true → r.position i ≠ r.stop) .atEnd
      let t ← (r.deref (r.position i)).mapError .ring
      let rest ← copyTasks r guarded (i + 1) len
      pure (t :: rest)

/-- Copy and erase what is at the front, up to 4096 tasks. -/
def takeBatch (q : NotQ) (guarded : Bool) : Except TaskFailure (List TaskT × NotQ) := do
  let len := if q.ring.size < 4096 then q.ring.size else 4096
  let batch ← copyTasks q.ring guarded 0 len
  let ring ← (q.ring.erase q.ring.front (q.ring.position len)).mapError .ring
  check (guarded = true ∨ q.ring.size = len + ring.size) .sizes
  pure (batch, { q with ring := ring })

/-- Returns nothing when the mutex is taken or the queue is empty. -/
def tryPop (q : NotQ) (busy : Bool) : Except TaskFailure (Option (List TaskT × NotQ)) :=
  if busy then pure none
  else if q.ring.size = 0 then pure none
  else do
    let popped ← q.takeBatch false
    pure (some popped)

/-- Returns nothing when the queue is done, whatever is in it. The wait for one of
    the two is in the steps of the workers. -/
def pop (q : NotQ) : Except TaskFailure (Option (List TaskT × NotQ)) :=
  if q.done then pure none
  else do
    let popped ← q.takeBatch true
    pure (some popped)

def markDone (q : NotQ) : NotQ := { q with done := true }

/-- `free_not_q`: the tasks that it hands to `clean`. -/
def free (q : NotQ) : Except TaskFailure (List TaskT) := do
  check (q.done = true) .notDone
  q.ring.walk.mapError .ring

end NotQ

/-- A call of `async_task_manager` in progress, with the tries it has made. -/
structure AsyncCall where
  task : TaskT
  index : UInt64
  tries : Nat

inductive Worker where
  /-- About to try the queue with this number, counted on past the last queue. -/
  | looking (i : Nat)
  | popping
  | running (rest : List TaskT)
  | left
  deriving DecidableEq

/-- Where `free_task_manager` is. -/
inductive Phase (n : Nat) where
  | notFreed
  | marking (i : Fin n)
  | joining (i : Fin n)
  | cleaning (i : Fin n)
  | freed
  deriving DecidableEq

structure TaskManager (n : Nat) where
  queues : Fin n → NotQ
  /-- Callers take turns with `man->index++`. -/
  index : UInt64
  calls : List AsyncCall
  workers : Fin n → Worker
  phase : Phase n

/-- What a step shows to the outside. -/
inductive TaskOutput (n : Nat) where
  | nothing
  | ran (worker : Fin n) (task : TaskT)
  | cleaned (tasks : List TaskT)

inductive TaskEvent (n : Nat) where
  | async (task : TaskT)
  | tryPush (call : Nat) (busy : Bool)
  | push (call : Nat)
  | tryPop (worker : Fin n) (busy : Bool)
  | pop (worker : Fin n)
  | run (worker : Fin n)
  | free
  | markDone
  | join
  | clean

namespace TaskManager

variable {n : Nat} [NeZero n]

def init : TaskManager n where
  queues _ := .init
  index := 0
  calls := []
  workers w := .looking w
  phase := .notFreed

/-- `(i+index) % man->len_thr`. -/
def target (call : AsyncCall) (i : Nat) : Fin n :=
  Fin.ofNat n (UInt64.ofNat i + call.index).toNat

/-- The first number that a worker does not look at. -/
def numIt (w : Fin n) : Nat := 3 * (n + w)

/-- After the tasks of a batch, a worker looks again from its own queue on. -/
def goOn (w : Fin n) : List TaskT → Worker
  | [] => .looking w
  | t :: rest => .running (t :: rest)

/-- After a try in vain. -/
def lookOn (w : Fin n) (i : Nat) : Worker :=
  if i + 1 < numIt w then .looking (i + 1) else .popping

variable (s : TaskManager n)

def setQueue (i : Fin n) (q : NotQ) : TaskManager n :=
  { s with queues := Function.update s.queues i q }

def setWorker (w : Fin n) (worker : Worker) : TaskManager n :=
  { s with workers := Function.update s.workers w worker }

def setCall (c : Nat) (call : Option AsyncCall) : TaskManager n :=
  { s with calls := advance s.calls c call }

def async (task : TaskT) : TaskManager n :=
  { s with index := s.index + 1, calls := s.calls ++ [⟨task, s.index, 0⟩] }

def tryPush (c : Nat) (call : AsyncCall) (busy : Bool) : Except TaskFailure (TaskManager n) := do
  let i := target call call.tries
  let pushed ← (s.queues i).tryPush busy call.task
  match pushed with
  | some q => pure ((s.setQueue i q).setCall c none)
  | none => pure (s.setCall c (some { call with tries := call.tries + 1 }))

def push (c : Nat) (call : AsyncCall) : Except TaskFailure (TaskManager n) := do
  let i := target call 0
  let q ← (s.queues i).push call.task
  pure ((s.setQueue i q).setCall c none)

def tryPop (w : Fin n) (i : Nat) (busy : Bool) : Except TaskFailure (TaskManager n) := do
  let popped ← (s.queues (Fin.ofNat n i)).tryPop busy
  match popped with
  | some (batch, q) => pure ((s.setQueue (Fin.ofNat n i) q).setWorker w (goOn w batch))
  | none => pure (s.setWorker w (lookOn w i))

def pop (w : Fin n) : Except TaskFailure (TaskManager n) := do
  let popped ← (s.queues w).pop
  match popped with
  | some (batch, q) => pure ((s.setQueue w q).setWorker w (goOn w batch))
  | none => pure (s.setWorker w .left)

/-- The next round of a loop over all queues or threads. -/
def nextOr (i : Fin n) (round : Fin n → Phase n) (after : Phase n) : Phase n :=
  if more : i.val + 1 < n then round ⟨i + 1, more⟩ else after

def markDone (i : Fin n) : TaskManager n :=
  { s.setQueue i (s.queues i).markDone with
    phase := nextOr i .marking (.joining (Fin.ofNat n 0)) }

def join (i : Fin n) : TaskManager n :=
  { s with phase := nextOr i .joining (.cleaning (Fin.ofNat n 0)) }

def clean (i : Fin n) : Except TaskFailure (TaskManager n × List TaskT) := do
  let tasks ← (s.queues i).free
  pure ({ s with phase := nextOr i .cleaning .freed }, tasks)

/-- A worker waits at its own queue; `free_task_manager` comes last and waits for
    each worker. -/
def Enabled : TaskEvent n → Prop
  | .async _ => s.phase = .notFreed
  | .tryPush c _ => ∃ call, s.calls[c]? = some call ∧ call.tries < n
  | .push c => ∃ call, s.calls[c]? = some call ∧ ¬call.tries < n
  | .tryPop w _ => ∃ i, s.workers w = .looking i
  | .pop w => s.workers w = .popping ∧ ((s.queues w).ring.size ≠ 0 ∨ (s.queues w).done = true)
  | .run w => ∃ t rest, s.workers w = .running (t :: rest)
  | .free => s.phase = .notFreed ∧ s.calls = []
  | .markDone => ∃ i, s.phase = .marking i
  | .join => ∃ i, s.phase = .joining i ∧ s.workers i = .left
  | .clean => ∃ i, s.phase = .cleaning i

/-- A step of one of the threads. -/
def step : TaskEvent n → Except TaskFailure (TaskManager n × TaskOutput n)
  | .async task => pure (s.async task, .nothing)
  | .tryPush c busy =>
      match s.calls[c]? with
      | some call => do
          let s ← s.tryPush c call busy
          pure (s, .nothing)
      | none => pure (s, .nothing)
  | .push c =>
      match s.calls[c]? with
      | some call => do
          let s ← s.push c call
          pure (s, .nothing)
      | none => pure (s, .nothing)
  | .tryPop w busy =>
      match s.workers w with
      | .looking i => do
          let s ← s.tryPop w i busy
          pure (s, .nothing)
      | _ => pure (s, .nothing)
  | .pop w => do
      let s ← s.pop w
      pure (s, .nothing)
  | .run w =>
      match s.workers w with
      | .running (t :: rest) => pure (s.setWorker w (goOn w rest), .ran w t)
      | _ => pure (s, .nothing)
  | .free => pure ({ s with phase := .marking (Fin.ofNat n 0) }, .nothing)
  | .markDone =>
      match s.phase with
      | .marking i => pure (s.markDone i, .nothing)
      | _ => pure (s, .nothing)
  | .join =>
      match s.phase with
      | .joining i => pure (s.join i, .nothing)
      | _ => pure (s, .nothing)
  | .clean =>
      match s.phase with
      | .cleaning i => do
          let (s, tasks) ← s.clean i
          pure (s, .cleaned tasks)
      | _ => pure (s, .nothing)

end TaskManager

end FlexRic
