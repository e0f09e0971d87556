import FlexRic.Library.Machine
import FlexRic.Util.TsnQueue

/-! # The database of an xApp

Every indication that an xApp gets goes through a queue to one worker, which
writes it to the database. The worker looks how many wait, and takes one, ten or
a hundred of them at a time to static arrays; what it has written it releases.
Closing the database stops the worker and releases what still waits.
-/

namespace FlexRic

/-- `sm_ag_if_rd_t`, with an indication of type `R`. -/
inductive SmAgIfRd (R : Type) where
  | indicationMsg (ind : R)
  | e2Setup
  | ricServUpdate
  deriving DecidableEq

/-- The type of cleared memory is the first. -/
instance {R : Type} [Inhabited R] : Inhabited (SmAgIfRd R) := ⟨.indicationMsg default⟩

/-- `INDICATION_MSG_AGENT_IF_ANS_V0`. -/
def SmAgIfRd.IsIndication {R : Type} : SmAgIfRd R → Prop
  | .indicationMsg _ => True
  | .e2Setup | .ricServUpdate => False

instance {R : Type} : (rd : SmAgIfRd R) → Decidable rd.IsIndication
  | .indicationMsg _ => .isTrue trivial
  | .e2Setup | .ricServUpdate => .isFalse id

structure E2NodeAgIf (I R : Type) where
  id : I
  rd : SmAgIfRd R
  deriving DecidableEq, Inhabited

/-- What ends the copy of an element to a static array. -/
inductive CreateValFailure where
  /-- `val_10 < 11`, `val_100 < 101` -/
  | counter
  | outOfBounds
  deriving DecidableEq, Repr

inductive DbFailure where
  | queue (failure : TsnqFailure CreateValFailure)
  /-- `type == INDICATION_MSG_AGENT_IF_ANS_V0` -/
  | type
  | outOfBounds
  deriving DecidableEq, Repr

/-- How many elements the worker takes at once. -/
inductive DbBatch where
  | one
  | ten
  | hundred
  deriving DecidableEq

def DbBatch.sz : DbBatch → Nat
  | .one => 1
  | .ten => 10
  | .hundred => 100

/-- Where `worker_thread` is. -/
inductive DbWorker where
  | sizing
  | popping (batch : DbBatch)
  | writing (batch : DbBatch) (i : Nat)
  | breaking
  | returned
  deriving DecidableEq

/-- Where `close_db_xapp` is. -/
inductive DbCloser where
  | notCalled
  | stopping
  | joining
  | closed
  deriving DecidableEq

/-- The database with the static variables of its file. -/
structure DbXapp (M : Type) where
  q : Tsnq M
  static : M
  static10 : List M
  val10 : Nat
  static100 : List M
  val100 : Nat
  worker : DbWorker
  closer : DbCloser

/-- What a step shows to the outside. -/
structure DbOutput (M : Type) where
  written : List M
  released : List M

inductive DbEvent (M : Type) where
  /-- `write_db_xapp` -/
  | write (d : M)
  | worker
  /-- `close_db_xapp` is called. -/
  | stop
  | free
  | join

section CreateVal

variable {M : Type}

def createVal (_ it : M) : Except CreateValFailure M := pure it

/-- `create_val_10` and `create_val_100`, with the bound that they assert. -/
def createValBelow (bound : Nat) (static : List M × Nat) (it : M) :
    Except CreateValFailure (List M × Nat) := do
  let vals ← Buffer.writeAt .outOfBounds static.1 static.2 [it]
  check (static.2 + 1 < bound) .counter
  pure (vals, static.2 + 1)

def createVal10 (static : List M × Nat) (it : M) : Except CreateValFailure (List M × Nat) :=
  createValBelow 11 static it

def createVal100 (static : List M × Nat) (it : M) : Except CreateValFailure (List M × Nat) :=
  createValBelow 101 static it

end CreateVal

namespace DbXapp

variable {M I R : Type}

def init [Inhabited M] (elmSz : Nat) : DbXapp M where
  q := .init elmSz
  static := default
  static10 := List.replicate 10 default
  val10 := 0
  static100 := List.replicate 100 default
  val100 := 0
  worker := .sizing
  closer := .notCalled

/-- `data`, by the batch that was taken. -/
def data (db : DbXapp M) : DbBatch → List M
  | .one => [db.static]
  | .ten => db.static10
  | .hundred => db.static100

/-- The worker knows how many elements wait. -/
def choose (db : DbXapp M) (sz : Nat) : DbXapp M :=
  if sz > 100 then { db with val100 := 0, worker := .popping .hundred }
  else if sz > 10 then { db with val10 := 0, worker := .popping .ten }
  else { db with worker := .popping .one }

def pop [Inhabited M] (db : DbXapp M) :
    DbBatch → Except (TsnqFailure CreateValFailure) (DbXapp M)
  | .one => do
      let (q, data) ← db.q.waitAndPop createVal db.static
      match data with
      | none => pure { db with q := q, worker := .breaking }
      | some static => pure { db with q := q, static := static, worker := .writing .one 0 }
  | .ten => do
      let (q, data) ← db.q.pop10 createVal10 (db.static10, db.val10)
      match data with
      | none => pure { db with q := q, worker := .breaking }
      | some static =>
          pure { db with
            q := q
            static10 := static.1
            val10 := static.2
            worker := .writing .ten 0 }
  | .hundred => do
      let (q, data) ← db.q.pop100 createVal100 (db.static100, db.val100)
      match data with
      | none => pure { db with q := q, worker := .breaking }
      | some static =>
          pure { db with
            q := q
            static100 := static.1
            val100 := static.2
            worker := .writing .hundred 0 }

/-- The next round of the worker's loop over a batch. -/
def goOn (db : DbXapp M) (batch : DbBatch) (i : Nat) : DbXapp M :=
  { db with worker := if i + 1 < batch.sz then .writing batch (i + 1) else .sizing }

/-- `write_db_gen` with an element of the batch, and its release. -/
def writeDbGen (db : DbXapp (E2NodeAgIf I R)) (batch : DbBatch) (i : Nat) :
    Except DbFailure (E2NodeAgIf I R) :=
  match (db.data batch)[i]? with
  | none => .error .outOfBounds
  | some d => do
      check d.rd.IsIndication .type
      pure d

variable [Inhabited I] [Inhabited R]

/-- A step of `worker_thread`. -/
def work (db : DbXapp (E2NodeAgIf I R)) :
    Except DbFailure (DbXapp (E2NodeAgIf I R) × DbOutput (E2NodeAgIf I R)) :=
  match db.worker with
  | .sizing => do
      let sz ← db.q.size.mapError .queue
      pure (db.choose sz, ⟨[], []⟩)
  | .popping batch => do
      let db ← (db.pop batch).mapError .queue
      pure (db, ⟨[], []⟩)
  | .writing batch i => do
      let d ← db.writeDbGen batch i
      pure (db.goOn batch i, ⟨[d], [d]⟩)
  | .breaking => pure ({ db with q := db.q.stop, worker := .returned }, ⟨[], []⟩)
  | .returned => pure (db, ⟨[], []⟩)

/-- `write_db_xapp`. -/
def write (db : DbXapp (E2NodeAgIf I R)) (d : E2NodeAgIf I R) :
    Except DbFailure (DbXapp (E2NodeAgIf I R)) := do
  check d.rd.IsIndication .type
  let q ← (db.q.push d).mapError .queue
  pure { db with q := q }

/-- `seq_free` with `free_e2_node_ag_if_wrapper`. -/
def free (db : DbXapp (E2NodeAgIf I R)) :
    Except DbFailure (DbXapp (E2NodeAgIf I R) × List (E2NodeAgIf I R)) := do
  let freed ← db.q.free.mapError .queue
  check (∀ d ∈ freed.2, d.rd.IsIndication) .type
  pure ({ db with q := freed.1, closer := .joining }, freed.2)

/-- Callers write before they close. The worker waits for an element when it wants a
    single one, and the closer for the worker. -/
def Enabled (db : DbXapp (E2NodeAgIf I R)) : DbEvent (E2NodeAgIf I R) → Prop
  | .write d => db.closer = .notCalled ∧ d.rd.IsIndication
  | .worker => db.worker ≠ .returned ∧
      (db.worker = .popping .one → db.q.ring.size ≠ 0 ∨ db.q.stopToken = true)
  | .stop => db.closer = .notCalled
  | .free => db.closer = .stopping ∧ db.q.stopped = true
  | .join => db.closer = .joining ∧ db.worker = .returned

instance (db : DbXapp (E2NodeAgIf I R)) :
    (e : DbEvent (E2NodeAgIf I R)) → Decidable (db.Enabled e)
  | .write _ => inferInstanceAs (Decidable (_ ∧ _))
  | .worker => inferInstanceAs (Decidable (_ ∧ (_ → _)))
  | .stop => inferInstanceAs (Decidable (_ = _))
  | .free => inferInstanceAs (Decidable (_ ∧ _))
  | .join => inferInstanceAs (Decidable (_ ∧ _))

def step (db : DbXapp (E2NodeAgIf I R)) : DbEvent (E2NodeAgIf I R) →
    Except DbFailure (DbXapp (E2NodeAgIf I R) × DbOutput (E2NodeAgIf I R))
  | .write d => do
      let db ← db.write d
      pure (db, ⟨[], []⟩)
  | .worker => db.work
  | .stop => pure ({ db with q := db.q.requestStop, closer := .stopping }, ⟨[], []⟩)
  | .free => do
      let (db, rest) ← db.free
      pure (db, ⟨[], rest⟩)
  | .join => pure ({ db with closer := .closed }, ⟨[], []⟩)

/-- The database of an xApp, with elements of this size in its queue. -/
def machine (I R : Type) [Inhabited I] [Inhabited R] (elmSz : Nat) :
    Machine (DbXapp (E2NodeAgIf I R)) (DbEvent (E2NodeAgIf I R)) DbFailure
      (DbOutput (E2NodeAgIf I R)) where
  init := .init elmSz
  enabled := Enabled
  step := step

instance (elmSz : Nat) (db : DbXapp (E2NodeAgIf I R)) (e : DbEvent (E2NodeAgIf I R)) :
    Decidable ((machine I R elmSz).enabled db e) :=
  inferInstanceAs (Decidable (db.Enabled e))

end DbXapp

end FlexRic
