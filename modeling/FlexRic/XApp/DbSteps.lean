import FlexRic.XApp.Db

/-! # Steps of the database queue

What the worker and the closer find in every state of a run, and what each step
does to the elements on their way.
-/

namespace FlexRic

/-- The worker and the closer take these steps by themselves. -/
def DbEvent.Internal {M : Type} : DbEvent M → Prop
  | .write _ | .stop => False
  | .worker | .free | .join => True

/-- What a step hands in. -/
def DbEvent.handedIn {M : Type} : DbEvent M → List M
  | .write d => [d]
  | .worker | .stop | .free | .join => []

/-- The worker does not look at the queue any more. -/
def DbWorker.Done : DbWorker → Prop
  | .breaking | .returned => True
  | .sizing | .popping _ | .writing .. => False

/-- The steps that a worker takes before it needs another element. -/
def DbWorker.left : DbWorker → Nat
  | .sizing => 4
  | .popping _ => 3
  | .writing batch i => batch.sz - i + 4
  | .breaking => 1
  | .returned => 0

def DbCloser.left : DbCloser → Nat
  | .notCalled | .stopping => 2
  | .joining => 1
  | .closed => 0

namespace DbXapp

variable {M I R : Type}

/-- What the worker has taken and not yet written. -/
def inHand (db : DbXapp M) : List M :=
  match db.worker with
  | .writing batch i => (db.data batch).drop i
  | .sizing | .popping _ | .breaking | .returned => []

/-- A bound on the steps that the worker and the closer take without others. -/
def workLeft (db : DbXapp M) : Nat :=
  3 * db.q.queued.length + db.worker.left + db.closer.left

/-- A chosen batch is there to be taken, and one in hand is not written to its end. -/
def WorkerFits (db : DbXapp M) : Prop :=
  match db.worker with
  | .popping .ten => db.val10 = 0 ∧ 10 ≤ db.q.queued.length
  | .popping .hundred => db.val100 = 0 ∧ 100 ≤ db.q.queued.length
  | .writing batch i => i < batch.sz
  | .sizing | .popping .one | .breaking | .returned => True

/-- How far the database is closed. -/
def Staged (db : DbXapp M) : Prop :=
  match db.closer with
  | .notCalled => db.q.stopToken = false ∧ db.q.freed = false
  | .stopping => db.q.stopToken = true ∧ db.q.freed = false
  | .joining => db.q.stopToken = true ∧ db.q.freed = true
  | .closed => db.q.stopToken = true ∧ db.q.freed = true ∧ db.worker = .returned

/-- What the worker and the closer find wherever they look. -/
structure Sound (db : DbXapp (E2NodeAgIf I R)) : Prop where
  queue : db.q.freed = false → db.q.Queued db.q.queued
  indications : ∀ d ∈ db.inHand ++ db.q.queued, d.rd.IsIndication
  slots10 : db.static10.length = 10
  slots100 : db.static100.length = 100
  counted10 : db.val10 ≤ 10
  counted100 : db.val100 ≤ 100
  worker : db.WorkerFits
  stopped : db.q.stopped = true ↔ db.worker.Done
  asked : db.worker.Done → db.q.stopToken = true
  freed : db.q.freed = true → db.worker.Done
  stage : db.Staged

theorem inHand_writing {db : DbXapp M} {batch : DbBatch} {i : Nat}
    (here : db.worker = .writing batch i) : db.inHand = (db.data batch).drop i := by
  rw [inHand, here]

theorem inHand_popping {db : DbXapp M} {batch : DbBatch} (here : db.worker = .popping batch) :
    db.inHand = [] := by
  rw [inHand, here]

theorem inHand_done {db : DbXapp M} (done : db.worker.Done) : db.inHand = [] := by
  cases here : db.worker with
  | breaking => rw [inHand, here]
  | returned => rw [inHand, here]
  | sizing | popping _ | writing _ _ =>
      rw [here] at done
      exact done.elim

theorem goOn_cases (db : DbXapp M) (batch : DbBatch) (i : Nat) :
    i + 1 < batch.sz ∧ (db.goOn batch i).worker = .writing batch (i + 1) ∨
      batch.sz ≤ i + 1 ∧ (db.goOn batch i).worker = .sizing := by
  by_cases more : i + 1 < batch.sz
  · exact .inl ⟨more, if_pos more⟩
  · exact .inr ⟨Nat.le_of_not_lt more, if_neg more⟩

theorem Staged.of_same {db db' : DbXapp M} (stage : db.Staged) (closer : db'.closer = db.closer)
    (token : db'.q.stopToken = db.q.stopToken) (freed : db'.q.freed = db.q.freed)
    (returned : db.worker = .returned → db'.worker = .returned) : db'.Staged := by
  unfold Staged at stage ⊢
  rw [closer, token, freed]
  split at stage
  · exact stage
  · exact stage
  · exact stage
  · exact ⟨stage.1, stage.2.1, returned stage.2.2⟩

/-- Elements are copied one behind the other while there is room. -/
theorem createVals {bound n : Nat} {vals its : List M} (below : n + its.length < bound)
    (slots : bound ≤ vals.length + 1) :
    ∃ vals', its.foldlM (createValBelow bound) (vals, n) = .ok (vals', n + its.length) ∧
      vals'.length = vals.length ∧ vals'.take (n + its.length) = vals.take n ++ its := by
  induction its generalizing vals n with
  | nil => exact ⟨vals, rfl, rfl, (List.append_nil _).symm⟩
  | cons it its ih =>
      rw [List.length_cons] at below ⊢
      have inside : n + [it].length ≤ vals.length := by
        rw [List.length_singleton]
        omega
      obtain ⟨copied, written, length, front⟩ :=
        Buffer.writeAt_ok CreateValFailure.outOfBounds inside
      have below' : n + 1 + its.length < bound := by omega
      have slots' : bound ≤ copied.length + 1 := by omega
      obtain ⟨vals', others, length', front'⟩ := ih below' slots'
      have first : createValBelow bound (vals, n) it = .ok (copied, n + 1) := by
        rw [createValBelow, written, ok_bind, check_pass _ (show n + 1 < bound by omega)]
        rfl
      have place : n + 1 + its.length = n + (its.length + 1) := by omega
      rw [place] at others front'
      refine ⟨vals', ?_, length'.trans length, ?_⟩
      · rw [List.foldlM_cons, first, ok_bind, others]
      · rw [List.length_singleton] at front
        rw [front', front, List.append_assoc, List.singleton_append]

/-- A full batch fills its static array. -/
theorem createVals_full {n : Nat} {vals its : List M} (slots : vals.length = n)
    (many : its.length = n) :
    its.foldlM (createValBelow (n + 1)) (vals, 0) = .ok (its, n) := by
  have below : 0 + its.length < n + 1 := by omega
  have room : n + 1 ≤ vals.length + 1 := by omega
  obtain ⟨vals', copied, length, front⟩ := createVals below room
  rw [Nat.zero_add, many] at copied front
  rw [List.take_zero, List.nil_append, List.take_of_length_le (by omega)] at front
  rw [copied, front]

namespace Sound

variable {db : DbXapp (E2NodeAgIf I R)}

theorem data_length (sound : db.Sound) (batch : DbBatch) :
    (db.data batch).length = batch.sz := by
  cases batch with
  | one => rfl
  | ten => exact sound.slots10
  | hundred => exact sound.slots100

theorem working (sound : db.Sound) (busy : ¬db.worker.Done) : db.q.freed = false := by
  by_contra gone
  exact busy (sound.freed (Bool.of_not_eq_false gone))

theorem queued (sound : db.Sound) (busy : ¬db.worker.Done) : db.q.Queued db.q.queued :=
  sound.queue (sound.working busy)

variable [Inhabited I] [Inhabited R]

theorem init {elmSz : Nat} (sized : 0 < elmSz) :
    (DbXapp.init elmSz : DbXapp (E2NodeAgIf I R)).Sound := by
  have queue : (Tsnq.init elmSz : Tsnq (E2NodeAgIf I R)).Queued [] := .init sized
  have none_ : (Tsnq.init elmSz : Tsnq (E2NodeAgIf I R)).queued = [] := queue.queued_eq
  constructor
  case queue =>
    intro _
    change (Tsnq.init elmSz : Tsnq (E2NodeAgIf I R)).Queued (Tsnq.init elmSz).queued
    rw [none_]
    exact queue
  case indications =>
    intro d mem
    change d ∈ [] ++ (Tsnq.init elmSz).queued at mem
    rw [none_] at mem
    cases mem
  case slots10 => exact List.length_replicate
  case slots100 => exact List.length_replicate
  case counted10 => exact Nat.zero_le _
  case counted100 => exact Nat.zero_le _
  case worker => trivial
  case stopped => exact ⟨nofun, nofun⟩
  case asked => nofun
  case freed => nofun
  case stage => exact ⟨rfl, rfl⟩

end Sound

variable [Inhabited I] [Inhabited R] {db : DbXapp (E2NodeAgIf I R)}

/-- A step goes through. It hands elements on in their order, and releases what it writes;
    once the queue is freed it does neither. -/
structure Goes (db : DbXapp (E2NodeAgIf I R)) (e : DbEvent (E2NodeAgIf I R))
    (db' : DbXapp (E2NodeAgIf I R)) (out : DbOutput (E2NodeAgIf I R)) : Prop where
  moved : db.step e = .ok (db', out)
  sound : db'.Sound
  balance : out.released ++ (db'.inHand ++ db'.q.queued) =
    db.inHand ++ db.q.queued ++ e.handedIn
  written : out.written = out.released ∨ out.written = [] ∧ db'.q.freed = true
  quiet : db.q.freed = true → db'.q.freed = true ∧ out = ⟨[], []⟩
  less : e.Internal → db'.workLeft < db.workLeft

/-- The worker finds the token. -/
theorem Sound.breaks (sound : db.Sound) {batch : DbBatch} (here : db.worker = .popping batch)
    (asked : db.q.stopToken = true)
    (moved : db.step .worker = .ok ({ db with q := db.q.stop, worker := .breaking }, ⟨[], []⟩)) :
    db.Goes .worker { db with q := db.q.stop, worker := .breaking } ⟨[], []⟩ := by
  have busy : ¬db.worker.Done := by
    rw [here]
    exact id
  have idle := inHand_popping here
  have queue := sound.queued busy
  have queue' : db.q.stop.Queued db.q.queued := ⟨queue.holds, queue.sized, queue.kept⟩
  have same : db.q.stop.queued = db.q.queued := queue'.queued_eq
  constructor
  case moved => exact moved
  case sound => exact
    { sound with
      queue := fun _ => same.symm ▸ queue'
      indications := fun d mem => sound.indications d (by
        rw [idle]
        exact same ▸ mem)
      worker := trivial
      stopped := ⟨fun _ => trivial, fun _ => rfl⟩
      asked := fun _ => asked
      freed := fun _ => trivial
      stage := sound.stage.of_same rfl rfl rfl fun left => absurd (here.symm.trans left) nofun }
  case balance =>
    change [] ++ ([] ++ db.q.stop.queued) = _
    rw [same, idle, DbEvent.handedIn, List.append_nil, List.nil_append]
  case written => exact .inl rfl
  case quiet => exact fun gone => ⟨gone, rfl⟩
  case less =>
    intro _
    change 3 * db.q.stop.queued.length + 1 + db.closer.left <
      3 * db.q.queued.length + db.worker.left + db.closer.left
    rw [same, here, DbWorker.left]
    omega

/-- The worker takes a batch. -/
theorem Sound.takes (sound : db.Sound) {batch : DbBatch} (here : db.worker = .popping batch)
    {db' : DbXapp (E2NodeAgIf I R)} (moved : db.step .worker = .ok (db', ⟨[], []⟩))
    (queue' : db'.q.Queued (db.q.queued.drop batch.sz))
    (enough : batch.sz ≤ db.q.queued.length) (at_ : db'.worker = .writing batch 0)
    (data : db'.data batch = db.q.queued.take batch.sz)
    (token : db'.q.stopToken = db.q.stopToken) (stopped : db'.q.stopped = db.q.stopped)
    (closer : db'.closer = db.closer)
    (statics : db'.static10.length = 10 ∧ db'.static100.length = 100 ∧ db'.val10 ≤ 10 ∧
      db'.val100 ≤ 100) :
    db.Goes .worker db' ⟨[], []⟩ := by
  have busy : ¬db.worker.Done := by
    rw [here]
    exact id
  have positive : 0 < batch.sz := by cases batch <;> exact Nat.succ_pos _
  have idle := inHand_popping here
  have taken : db'.inHand = db.q.queued.take batch.sz := by
    rw [inHand_writing at_, data, List.drop_zero]
  have rest := queue'.queued_eq
  have live := sound.working busy
  have balance : db'.inHand ++ db'.q.queued = db.q.queued := by
    rw [taken, rest, List.take_append_drop]
  constructor
  case moved => exact moved
  case sound =>
    constructor
    case queue => exact fun _ => rest.symm ▸ queue'
    case indications =>
      rw [balance]
      exact fun d mem => sound.indications d (List.mem_append_right _ mem)
    case slots10 => exact statics.1
    case slots100 => exact statics.2.1
    case counted10 => exact statics.2.2.1
    case counted100 => exact statics.2.2.2
    case worker =>
      rw [WorkerFits, at_]
      exact positive
    case stopped =>
      rw [stopped, at_]
      exact ⟨fun was => absurd (sound.stopped.mp was) busy, nofun⟩
    case asked =>
      rw [at_]
      nofun
    case freed =>
      intro gone
      exact absurd (queue'.kept.symm.trans gone) nofun
    case stage =>
      exact sound.stage.of_same closer token (queue'.kept.trans live.symm) fun left =>
        absurd (here.symm.trans left) nofun
  case balance =>
    rw [balance, idle]
    exact (List.append_nil _).symm
  case written => exact .inl rfl
  case quiet => exact fun gone => absurd (live.symm.trans gone) nofun
  case less =>
    intro _
    rw [workLeft, workLeft, rest, List.length_drop, at_, here, closer, DbWorker.left, DbWorker.left]
    omega

/-- A batch that was chosen is there. -/
theorem Sound.pops (sound : db.Sound) {batch : DbBatch} (here : db.worker = .popping batch)
    (ready : db.Enabled .worker) : ∃ db', db.Goes .worker db' ⟨[], []⟩ := by
  have busy : ¬db.worker.Done := by
    rw [here]
    exact id
  have live := sound.working busy
  have queue := sound.queued busy
  have fits := sound.worker
  rw [WorkerFits, here] at fits
  have step_ : ∀ {db' : DbXapp (E2NodeAgIf I R)}, db.pop batch = .ok db' →
      db.step .worker = .ok (db', ⟨[], []⟩) := by
    intro db' popped
    rw [step, work, here]
    exact bind_eq_ok.mpr ⟨db', by rw [popped]; rfl, rfl⟩
  cases asked : db.q.stopToken with
  | true =>
      refine ⟨_, sound.breaks here asked (step_ ?_)⟩
      cases batch with
      | one => rw [pop, Tsnq.waitAndPop_stopped asked live]; rfl
      | ten => rw [pop, Tsnq.pop10, Tsnq.popMany_stopped asked live]; rfl
      | hundred => rw [pop, Tsnq.pop100, Tsnq.popMany_stopped asked live]; rfl
  | false =>
      cases batch with
      | one =>
          have some_ : 1 ≤ db.q.queued.length := by
            rcases ready.2 here with more | stopping
            · rw [queue.holds.size_eq] at more
              omega
            · exact absurd (asked.symm.trans stopping) nofun
          have short : 0 < db.q.queued.length := some_
          have first : db.q.queued.take 1 = [db.q.queued[0]] := by
            rw [List.take_one, List.head?_eq_getElem?, List.getElem?_eq_getElem short]
            rfl
          have called : (db.q.queued.take 1).foldlM createVal db.static =
              .ok db.q.queued[0] := by
            rw [first]
            rfl
          obtain ⟨ring, popped, queue'⟩ := queue.waitAndPop asked createVal some_ called
          have moved : db.pop .one = .ok { db with
              q := { db.q with ring := ring }
              static := db.q.queued[0]
              worker := .writing .one 0 } := by
            rw [pop, popped]
            rfl
          exact ⟨_, sound.takes here (step_ moved) queue' some_ rfl first.symm rfl rfl rfl
            ⟨sound.slots10, sound.slots100, sound.counted10, sound.counted100⟩⟩
      | ten =>
          obtain ⟨zero, enough⟩ := fits
          have many : (db.q.queued.take 10).length = 10 := by
            rw [List.length_take, Nat.min_eq_left enough]
          have called := createVals_full sound.slots10 many
          rw [← zero] at called
          obtain ⟨ring, popped, queue'⟩ :=
            queue.popMany asked createVal10 (by omega) enough called
          have moved : db.pop .ten = .ok { db with
              q := { db.q with ring := ring }
              static10 := db.q.queued.take 10
              val10 := 10
              worker := .writing .ten 0 } := by
            rw [pop, Tsnq.pop10, popped]
            rfl
          exact ⟨_, sound.takes here (step_ moved) queue' enough rfl rfl rfl rfl rfl
            ⟨many, sound.slots100, Nat.le_refl _, sound.counted100⟩⟩
      | hundred =>
          obtain ⟨zero, enough⟩ := fits
          have many : (db.q.queued.take 100).length = 100 := by
            rw [List.length_take, Nat.min_eq_left enough]
          have called := createVals_full sound.slots100 many
          rw [← zero] at called
          obtain ⟨ring, popped, queue'⟩ :=
            queue.popMany asked createVal100 (by omega) enough called
          have moved : db.pop .hundred = .ok { db with
              q := { db.q with ring := ring }
              static100 := db.q.queued.take 100
              val100 := 100
              worker := .writing .hundred 0 } := by
            rw [pop, Tsnq.pop100, popped]
            rfl
          exact ⟨_, sound.takes here (step_ moved) queue' enough rfl rfl rfl rfl rfl
            ⟨sound.slots10, many, sound.counted10, Nat.le_refl _⟩⟩

/-- The size it finds is a bound until the worker itself takes a batch. -/
theorem Sound.sizes (sound : db.Sound) (here : db.worker = .sizing) :
    ∃ db', db.Goes .worker db' ⟨[], []⟩ := by
  have busy : ¬db.worker.Done := by
    rw [here]
    exact id
  have live := sound.working busy
  have queue := sound.queued busy
  have idle : db.inHand = [] := by rw [inHand, here]
  have chosen : (db.choose db.q.queued.length).q = db.q ∧
      (∃ batch, (db.choose db.q.queued.length).worker = .popping batch) ∧
      (db.choose db.q.queued.length).closer = db.closer ∧
      (db.choose db.q.queued.length).static10 = db.static10 ∧
      (db.choose db.q.queued.length).static100 = db.static100 ∧
      (db.choose db.q.queued.length).val10 ≤ db.val10 ∧
      (db.choose db.q.queued.length).val100 ≤ db.val100 ∧
      (db.choose db.q.queued.length).WorkerFits := by
    rw [choose]
    split
    · exact ⟨rfl, ⟨_, rfl⟩, rfl, rfl, rfl, Nat.le_refl _, Nat.zero_le _, rfl,
        Nat.le_of_lt ‹_›⟩
    · split
      · exact ⟨rfl, ⟨_, rfl⟩, rfl, rfl, rfl, Nat.zero_le _, Nat.le_refl _, rfl,
          Nat.le_of_lt ‹_›⟩
      · exact ⟨rfl, ⟨_, rfl⟩, rfl, rfl, rfl, Nat.le_refl _, Nat.le_refl _, trivial⟩
  have moved : db.step .worker = .ok (db.choose db.q.queued.length, ⟨[], []⟩) := by
    rw [step, work, here]
    exact bind_eq_ok.mpr ⟨_, by rw [queue.size]; rfl, rfl⟩
  refine ⟨db.choose db.q.queued.length, ?_⟩
  generalize db.choose db.q.queued.length = db' at chosen moved
  obtain ⟨q, at_, closer, static10, static100, val10, val100, fits⟩ := chosen
  obtain ⟨batch, at_⟩ := at_
  constructor
  case moved => exact moved
  case sound =>
    constructor
    case queue => rw [q]; exact sound.queue
    case indications =>
      rw [inHand_popping at_, q, ← idle]
      exact sound.indications
    case slots10 => rw [static10]; exact sound.slots10
    case slots100 => rw [static100]; exact sound.slots100
    case counted10 => exact Nat.le_trans val10 sound.counted10
    case counted100 => exact Nat.le_trans val100 sound.counted100
    case worker => exact fits
    case stopped =>
      rw [q, at_]
      exact ⟨fun was => absurd (sound.stopped.mp was) busy, nofun⟩
    case asked => rw [at_]; nofun
    case freed => rw [q]; exact fun gone => absurd (live.symm.trans gone) nofun
    case stage =>
      exact sound.stage.of_same closer (by rw [q]) (by rw [q]) fun left =>
        absurd (here.symm.trans left) nofun
  case balance =>
    rw [inHand_popping at_, q, idle, DbEvent.handedIn, List.append_nil]
    rfl
  case written => exact .inl rfl
  case quiet => exact fun gone => absurd (live.symm.trans gone) nofun
  case less =>
    intro _
    rw [workLeft, workLeft, q, closer, at_, here, DbWorker.left, DbWorker.left]
    omega

/-- The worker writes and releases the next element of its batch. -/
theorem Sound.writes (sound : db.Sound) {batch : DbBatch} {i : Nat}
    (here : db.worker = .writing batch i) :
    ∃ db' out, db.Goes .worker db' out := by
  have busy : ¬db.worker.Done := by
    rw [here]
    exact id
  have live := sound.working busy
  have inside : i < batch.sz := by
    have fits := sound.worker
    rw [WorkerFits, here] at fits
    exact fits
  have length := sound.data_length batch
  have short : i < (db.data batch).length := by omega
  have held : db.inHand = (db.data batch)[i] :: (db.data batch).drop (i + 1) := by
    rw [inHand_writing here, List.drop_eq_getElem_cons short]
  have rest : (db.goOn batch i).inHand = (db.data batch).drop (i + 1) := by
    rcases db.goOn_cases batch i with ⟨-, at_⟩ | ⟨last, at_⟩
    · rw [inHand_writing at_]
      cases batch <;> rfl
    · rw [inHand, at_, List.drop_eq_nil_of_le (by omega)]
  have indication : (db.data batch)[i].rd.IsIndication := by
    apply sound.indications
    rw [held]
    exact List.mem_append_left _ (List.mem_cons_self ..)
  have written : db.writeDbGen batch i = .ok (db.data batch)[i] := by
    rw [writeDbGen, List.getElem?_eq_getElem short]
    exact bind_eq_ok.mpr ⟨(), check_pass _ indication, rfl⟩
  have goes : ¬(db.goOn batch i).worker.Done ∧ (db.goOn batch i).WorkerFits ∧
      (db.goOn batch i).worker.left < db.worker.left := by
    rw [WorkerFits, here]
    rcases db.goOn_cases batch i with ⟨more, at_⟩ | ⟨-, at_⟩
    · rw [at_]
      refine ⟨id, more, ?_⟩
      rw [DbWorker.left, DbWorker.left]
      omega
    · rw [at_]
      refine ⟨id, trivial, ?_⟩
      rw [DbWorker.left, DbWorker.left]
      omega
  obtain ⟨undone, fits, less⟩ := goes
  refine ⟨db.goOn batch i, ⟨[(db.data batch)[i]], [(db.data batch)[i]]⟩, ?_⟩
  constructor
  case moved =>
    rw [step, work, here]
    exact bind_eq_ok.mpr ⟨_, written, rfl⟩
  case sound => exact
    { sound with
      indications := by
        rw [rest]
        intro d mem
        apply sound.indications
        rw [held]
        exact List.mem_cons_of_mem _ mem
      worker := fits
      stopped := ⟨fun was => absurd (sound.stopped.mp was) busy, fun now => absurd now undone⟩
      asked := fun now => absurd now undone
      freed := fun gone => absurd (live.symm.trans gone) nofun
      stage := sound.stage.of_same rfl rfl rfl fun left => absurd (here.symm.trans left) nofun }
  case balance =>
    change [(db.data batch)[i]] ++ ((db.goOn batch i).inHand ++ db.q.queued) = _
    rw [rest, held, DbEvent.handedIn, List.append_nil]
    rfl
  case written => exact .inl rfl
  case quiet => exact fun gone => absurd (live.symm.trans gone) nofun
  case less => exact fun _ => Nat.add_lt_add_right (Nat.add_lt_add_left less _) _

/-- The worker says that it has stopped. -/
theorem Sound.returns (sound : db.Sound) (here : db.worker = .breaking) :
    ∃ db', db.Goes .worker db' ⟨[], []⟩ := by
  have done : db.worker.Done := by
    rw [here]
    trivial
  have asked := sound.asked done
  have same : db.q.stop.queued = db.q.queued := rfl
  refine ⟨{ db with q := db.q.stop, worker := .returned }, ?_⟩
  constructor
  case moved =>
    rw [step, work, here]
    rfl
  case sound => exact
    { sound with
      queue := fun live => by
        have queue := sound.queue live
        exact ⟨queue.holds, queue.sized, queue.kept⟩
      indications := fun d mem => sound.indications d (by
        rw [inHand_done done]
        exact mem)
      worker := trivial
      stopped := ⟨fun _ => trivial, fun _ => rfl⟩
      asked := fun _ => asked
      freed := fun _ => trivial
      stage := sound.stage.of_same rfl rfl rfl fun _ => rfl }
  case balance =>
    rw [inHand_done done, DbEvent.handedIn, List.append_nil]
    rfl
  case written => exact .inl rfl
  case quiet => exact fun gone => ⟨gone, rfl⟩
  case less =>
    intro _
    change 3 * db.q.queued.length + 0 + db.closer.left < 3 * db.q.queued.length +
      db.worker.left + db.closer.left
    rw [here, DbWorker.left]
    omega

/-- Whatever the worker is about to do goes through. -/
theorem Sound.works (sound : db.Sound) (ready : db.Enabled .worker) :
    ∃ db' out, db.Goes .worker db' out := by
  cases here : db.worker with
  | sizing =>
      obtain ⟨db', goes⟩ := sound.sizes here
      exact ⟨db', _, goes⟩
  | popping batch =>
      obtain ⟨db', goes⟩ := sound.pops here ready
      exact ⟨db', _, goes⟩
  | writing batch i => exact sound.writes here
  | breaking =>
      obtain ⟨db', goes⟩ := sound.returns here
      exact ⟨db', _, goes⟩
  | returned => exact absurd here ready.1

/-- An element goes to the back of the queue. -/
theorem Sound.write (sound : db.Sound) {d : E2NodeAgIf I R} (ready : db.Enabled (.write d))
    (room : db.q.ring.Room) : ∃ db', db.Goes (.write d) db' ⟨[], []⟩ := by
  obtain ⟨here, indication⟩ := ready
  have stage := sound.stage
  rw [Staged, here] at stage
  have queue := sound.queue stage.2
  obtain ⟨ring, pushed, queue'⟩ := queue.push (ε := CreateValFailure) room d
  have longer : ({ db.q with ring := ring } : Tsnq _).queued = db.q.queued ++ [d] :=
    queue'.queued_eq
  refine ⟨{ db with q := { db.q with ring := ring } }, ?_⟩
  constructor
  case moved =>
    refine bind_eq_ok.mpr ⟨_, bind_eq_ok.mpr ⟨(), check_pass _ indication, ?_⟩, rfl⟩
    rw [pushed]
    rfl
  case sound => exact
    { sound with
      queue := fun _ => longer.symm ▸ queue'
      indications := by
        change ∀ x ∈ db.inHand ++ ({ db.q with ring := ring } : Tsnq _).queued, _
        rw [longer, ← List.append_assoc]
        intro x mem
        rcases List.mem_append.mp mem with old | new
        · exact sound.indications x old
        · cases List.mem_singleton.mp new
          exact indication
      worker := by
        have fits := sound.worker
        unfold WorkerFits at fits ⊢
        change match db.worker with
          | .popping .ten =>
              db.val10 = 0 ∧ 10 ≤ ({ db.q with ring := ring } : Tsnq _).queued.length
          | .popping .hundred =>
              db.val100 = 0 ∧ 100 ≤ ({ db.q with ring := ring } : Tsnq _).queued.length
          | .writing batch i => i < batch.sz
          | .sizing | .popping .one | .breaking | .returned => True
        rw [longer, List.length_append, List.length_singleton]
        split at fits
        · exact ⟨fits.1, by omega⟩
        · exact ⟨fits.1, by omega⟩
        · exact fits
        all_goals trivial
      stage := sound.stage.of_same rfl rfl rfl id }
  case balance =>
    change [] ++ (db.inHand ++ ({ db.q with ring := ring } : Tsnq _).queued) = _
    rw [longer, List.nil_append, ← List.append_assoc]
    rfl
  case written => exact .inl rfl
  case quiet => exact fun gone => absurd (stage.2.symm.trans gone) nofun
  case less => exact False.elim

/-- The database is asked to close. -/
theorem Sound.stop (sound : db.Sound) (ready : db.Enabled .stop) :
    ∃ db', db.Goes .stop db' ⟨[], []⟩ := by
  have here : db.closer = .notCalled := ready
  have stage := sound.stage
  rw [Staged, here] at stage
  have queue := sound.queue stage.2
  refine ⟨{ db with q := db.q.requestStop, closer := .stopping }, ?_⟩
  constructor
  case moved => rfl
  case sound => exact
    { sound with
      queue := fun _ => ⟨queue.holds, queue.sized, queue.kept⟩
      asked := fun _ => rfl
      stage := ⟨rfl, stage.2⟩ }
  case balance => exact (List.append_nil _).symm
  case written => exact .inl rfl
  case quiet => exact fun gone => ⟨gone, rfl⟩
  case less => exact False.elim

/-- Once the worker has stopped what still waits is released. -/
theorem Sound.free (sound : db.Sound) (ready : db.Enabled .free) :
    ∃ db' out, db.Goes .free db' out := by
  obtain ⟨here, stopped⟩ := ready
  have stage := sound.stage
  rw [Staged, here] at stage
  have done := sound.stopped.mp stopped
  have idle := inHand_done done
  have freed := (sound.queue stage.2).free (ε := CreateValFailure)
  have indications : ∀ d ∈ db.q.queued, d.rd.IsIndication := fun d mem =>
    sound.indications d (List.mem_append_right _ mem)
  have gone : ({ db.q with freed := true } : Tsnq (E2NodeAgIf I R)).queued = [] :=
    Tsnq.queued_of_freed rfl
  refine ⟨{ db with q := { db.q with freed := true }, closer := .joining }, ⟨[], db.q.queued⟩, ?_⟩
  constructor
  case moved =>
    have released : db.free = .ok
        ({ db with q := { db.q with freed := true }, closer := .joining }, db.q.queued) :=
      bind_eq_ok.mpr ⟨_, by rw [freed]; rfl,
        bind_eq_ok.mpr ⟨(), check_pass _ indications, rfl⟩⟩
    rw [step, released]
    rfl
  case sound => exact
    { sound with
      queue := nofun
      indications := by
        change ∀ d ∈ db.inHand ++ ({ db.q with freed := true } : Tsnq _).queued, _
        rw [idle, gone]
        nofun
      worker := by
        unfold WorkerFits
        cases at_ : db.worker with
        | breaking | returned => trivial
        | sizing | popping _ | writing _ _ =>
            rw [at_] at done
            exact done.elim
      freed := fun _ => done
      stage := ⟨stage.1, rfl⟩ }
  case balance =>
    change db.q.queued ++ (db.inHand ++ ({ db.q with freed := true } : Tsnq _).queued) = _
    rw [idle, gone, DbEvent.handedIn, List.append_nil, List.append_nil, List.append_nil,
      List.nil_append]
  case written => exact .inr ⟨rfl, rfl⟩
  case quiet => exact fun gone => absurd (stage.2.symm.trans gone) nofun
  case less =>
    intro _
    rw [workLeft, workLeft, gone, here, List.length_nil, DbCloser.left, DbCloser.left]
    change 3 * 0 + db.worker.left + 1 < _
    omega

/-- The closer meets the worker. -/
theorem Sound.join (sound : db.Sound) (ready : db.Enabled .join) :
    ∃ db', db.Goes .join db' ⟨[], []⟩ := by
  obtain ⟨here, left⟩ := ready
  have stage := sound.stage
  rw [Staged, here] at stage
  refine ⟨{ db with closer := .closed }, ?_⟩
  constructor
  case moved => rfl
  case sound => exact { sound with stage := ⟨stage.1, stage.2, left⟩ }
  case balance => exact (List.append_nil _).symm
  case written => exact .inl rfl
  case quiet => exact fun gone => ⟨gone, rfl⟩
  case less =>
    intro _
    change 3 * db.q.queued.length + db.worker.left + 0 < 3 * db.q.queued.length +
      db.worker.left + db.closer.left
    rw [here, DbCloser.left]
    omega

/-- What a step must meet: an element does not go to the last of all slots. -/
def Fits (db : DbXapp (E2NodeAgIf I R)) : DbEvent (E2NodeAgIf I R) → Prop
  | .write _ => db.q.ring.Room
  | .worker | .stop | .free | .join => True

instance (db : DbXapp (E2NodeAgIf I R)) :
    (e : DbEvent (E2NodeAgIf I R)) → Decidable (db.Fits e)
  | .write _ => inferInstanceAs (Decidable db.q.ring.Room)
  | .worker | .stop | .free | .join => .isTrue trivial

theorem Sound.step (sound : db.Sound) {e : DbEvent (E2NodeAgIf I R)} (ready : db.Enabled e)
    (fits : db.Fits e) : ∃ db' out, db.Goes e db' out := by
  cases e with
  | write d =>
      obtain ⟨db', goes⟩ := sound.write ready fits
      exact ⟨db', _, goes⟩
  | worker => exact sound.works ready
  | stop =>
      obtain ⟨db', goes⟩ := sound.stop ready
      exact ⟨db', _, goes⟩
  | free => exact sound.free ready
  | join =>
      obtain ⟨db', goes⟩ := sound.join ready
      exact ⟨db', _, goes⟩

end DbXapp

end FlexRic
