import FlexRic.Util.TaskQueues

/-! # Steps of the task manager

What the threads find in every state of a run, and what each of their steps does
to the queues.
-/

namespace FlexRic

/-- Steps that the threads of the manager and the callers in progress take by
    themselves. -/
def TaskEvent.Internal {n : Nat} : TaskEvent n → Prop
  | .async _ | .free => False
  | _ => True

namespace TaskManager

open NotQ (Queued)

variable {n : Nat}

/-- What the threads find wherever they look. -/
structure Sound (s : TaskManager n) : Prop where
  queues : ∀ i, (s.queues i).Queued (s.queues i).queued
  args : ∀ call ∈ s.calls, call.task.args.isSome
  looking : ∀ w i, s.workers w = .looking i → i < numIt w
  running : ∀ w, s.workers w ≠ .running []
  leaving : ∀ w, s.workers w = .left → (s.queues w).done = true ∧ (s.queues w).queued = []

/-- What has been done for the manager to be freed. -/
def Staged (s : TaskManager n) : Prop :=
  match s.phase with
  | .notFreed => ∀ i, (s.queues i).done = false
  | .marking j => s.calls = [] ∧ ∀ i < j, (s.queues i).done = true
  | .joining j => s.calls = [] ∧ (∀ i, (s.queues i).done = true) ∧ ∀ i < j, s.workers i = .left
  | .cleaning _ | .freed =>
      s.calls = [] ∧ (∀ i, (s.queues i).done = true) ∧ ∀ i, s.workers i = .left

variable {s s' : TaskManager n} {i w : Fin n} {q : NotQ} {tasks : List TaskT} {worker : Worker}

theorem nextOr_cases (i : Fin n) (round : Fin n → Phase n) (after : Phase n) :
    (∃ more : i.val + 1 < n, nextOr i round after = round ⟨i + 1, more⟩) ∨
      (∀ j, j ≤ i) ∧ nextOr i round after = after := by
  by_cases more : i.val + 1 < n
  · exact .inl ⟨more, dif_pos more⟩
  · refine .inr ⟨fun j => Fin.le_def.mpr ?_, dif_neg more⟩
    have below := j.isLt
    omega

theorem lookOn_cases (w : Fin n) (i : Nat) :
    lookOn w i = .looking (i + 1) ∧ i + 1 < numIt w ∨ lookOn w i = .popping := by
  rw [lookOn]
  split
  · exact .inl ⟨rfl, ‹_›⟩
  · exact .inr rfl

/-- Nobody hands in a task once a queue is done. -/
theorem Staged.no_calls (staged : s.Staged) (done : (s.queues w).done = true) :
    s.calls = [] := by
  unfold Staged at staged
  split at staged
  · rw [staged w] at done
    cases done
  · exact staged.1
  · exact staged.1
  · exact staged.1
  · exact staged.1

theorem queues_set (sound : s.Sound)
    (queue : q.Queued tasks) (j : Fin n) :
    (Function.update s.queues i q j).Queued (Function.update s.queues i q j).queued := by
  by_cases same : j = i
  · subst same
    rw [Function.update_self, queue.queued_eq]
    exact queue
  · rw [Function.update_of_ne same]
    exact sound.queues j

theorem mem_setCall {c : Nat} {call : AsyncCall} {rest : Option AsyncCall}
    (mem : call ∈ (s.setCall c rest).calls) : call ∈ s.calls ∨ rest = some call :=
  mem_advance mem

/-- A worker that takes tasks had not left, and takes them from a queue that had some. -/
theorem Sound.setQueue (sound : s.Sound) (queue : q.Queued tasks)
    (done : q.done = (s.queues i).done)
    (empty : (s.queues i).done = true → (s.queues i).queued = [] → tasks = []) :
    (s.setQueue i q).Sound where
  queues := queues_set sound queue
  args := sound.args
  looking := sound.looking
  running := sound.running
  leaving w left := by
    obtain ⟨was, none_⟩ := sound.leaving w left
    change (Function.update s.queues i q w).done = true ∧
      (Function.update s.queues i q w).queued = []
    by_cases same : w = i
    · subst same
      rw [Function.update_self, done, queue.queued_eq]
      exact ⟨was, empty was none_⟩
    · rw [Function.update_of_ne same]
      exact ⟨was, none_⟩

theorem Sound.setCall (sound : s.Sound) {c : Nat} {rest : Option AsyncCall}
    (args : ∀ call ∈ rest, call.task.args.isSome) : (s.setCall c rest).Sound where
  queues := sound.queues
  args call mem := by
    rcases mem_setCall mem with old | new
    · exact sound.args call old
    · exact args call new
  looking := sound.looking
  running := sound.running
  leaving := sound.leaving

theorem Sound.setWorker (sound : s.Sound)
    (looking : ∀ i, worker = .looking i → i < numIt w) (running : worker ≠ .running [])
    (leaving : worker = .left → (s.queues w).done = true ∧ (s.queues w).queued = []) :
    (s.setWorker w worker).Sound where
  queues := sound.queues
  args := sound.args
  looking v i here := by
    change Function.update s.workers w worker v = .looking i at here
    by_cases same : v = w
    · subst same
      rw [Function.update_self] at here
      exact looking i here
    · rw [Function.update_of_ne same] at here
      exact sound.looking v i here
  running v here := by
    change Function.update s.workers w worker v = .running [] at here
    by_cases same : v = w
    · subst same
      rw [Function.update_self] at here
      exact running here
    · rw [Function.update_of_ne same] at here
      exact sound.running v here
  leaving v here := by
    change Function.update s.workers w worker v = .left at here
    by_cases same : v = w
    · subst same
      rw [Function.update_self] at here
      exact leaving here
    · rw [Function.update_of_ne same] at here
      exact sound.leaving v here

/-- What matters for the stage is who is done and who has left. -/
theorem Staged.of_same (staged : s.Staged) (phase : s'.phase = s.phase)
    (calls : s.calls = [] → s'.calls = []) (done : ∀ i, (s'.queues i).done = (s.queues i).done)
    (left : ∀ w, s.workers w = .left → s'.workers w = .left) : s'.Staged := by
  unfold Staged at staged ⊢
  rw [phase]
  simp only [done]
  split at staged
  · exact staged
  · exact ⟨calls staged.1, staged.2⟩
  · exact ⟨calls staged.1, staged.2.1, fun i before => left i (staged.2.2 i before)⟩
  · exact ⟨calls staged.1, staged.2.1, fun i => left i (staged.2.2 i)⟩
  · exact ⟨calls staged.1, staged.2.1, fun i => left i (staged.2.2 i)⟩

theorem done_set (done : q.done = (s.queues i).done) (j : Fin n) :
    (Function.update s.queues i q j).done = (s.queues j).done := by
  by_cases same : j = i
  · subst same
    rw [Function.update_self, done]
  · rw [Function.update_of_ne same]

theorem left_set (here : s.workers w ≠ .left) (v : Fin n)
    (left : s.workers v = .left) : Function.update s.workers w worker v = .left := by
  have differ : v ≠ w := by
    intro same
    rw [same] at left
    exact here left
  rw [Function.update_of_ne differ, left]

/-- A batch of a queue that is not empty is not empty. -/
theorem batch_cons {tasks : List TaskT} (some_ : tasks ≠ []) :
    ∃ t batch, tasks.take 4096 = t :: batch ∧ tasks = t :: batch ++ tasks.drop 4096 := by
  cases tasks with
  | nil => exact absurd rfl some_
  | cons t rest =>
      refine ⟨t, rest.take 4095, rfl, ?_⟩
      rw [List.cons_append, List.drop_succ_cons, List.take_append_drop]

variable [NeZero n]

/-- Tasks have arguments, rings do not run out of counter values, and a worker that
    finds its queue done finds it empty. -/
def Fits (s : TaskManager n) : TaskEvent n → Prop
  | .async task => task.args.isSome
  | .tryPush c _ => ∀ call, s.calls[c]? = some call → (s.queues (target call call.tries)).ring.Room
  | .push c => ∀ call, s.calls[c]? = some call → (s.queues (target call 0)).ring.Room
  | .pop w => (s.queues w).done = true → (s.queues w).ring.size = 0
  | _ => True

/-- The steps, by what they do to the queues. -/
inductive Moves (s : TaskManager n) : TaskEvent n → TaskManager n → TaskOutput n → Prop where
  | async {task : TaskT} (args : task.args.isSome) (here : s.phase = .notFreed) :
      Moves s (.async task) (s.async task) .nothing
  | pushed {e : TaskEvent n} {c : Nat} {call : AsyncCall} {i : Fin n} {q : NotQ}
      (internal : e.Internal) (here : s.calls[c]? = some call)
      (added : q.Queued ((s.queues i).queued ++ [call.task])) (done : q.done = (s.queues i).done) :
      Moves s e ((s.setQueue i q).setCall c none) .nothing
  | retried {c : Nat} {call : AsyncCall} {busy : Bool} (here : s.calls[c]? = some call)
      (more : call.tries < n) :
      Moves s (.tryPush c busy) (s.setCall c (some { call with tries := call.tries + 1 })) .nothing
  | popped {e : TaskEvent n} {w i : Fin n} {q : NotQ} {t : TaskT} {batch rest : List TaskT}
      (internal : e.Internal) (idle : s.workers w = .popping ∨ ∃ j, s.workers w = .looking j)
      (was : (s.queues i).queued = t :: batch ++ rest) (left : q.Queued rest)
      (done : q.done = (s.queues i).done) :
      Moves s e ((s.setQueue i q).setWorker w (.running (t :: batch))) .nothing
  | looked {w : Fin n} {i : Nat} {busy : Bool} (here : s.workers w = .looking i) :
      Moves s (.tryPop w busy) (s.setWorker w (lookOn w i)) .nothing
  | leaves {w : Fin n} (here : s.workers w = .popping) (done : (s.queues w).done = true)
      (empty : (s.queues w).queued = []) :
      Moves s (.pop w) (s.setWorker w .left) .nothing
  | ran {w : Fin n} {t : TaskT} {rest : List TaskT} (here : s.workers w = .running (t :: rest)) :
      Moves s (.run w) (s.setWorker w (goOn w rest)) (.ran w t)
  | free (here : s.phase = .notFreed) (idle : s.calls = []) :
      Moves s .free { s with phase := .marking (Fin.ofNat n 0) } .nothing
  | marked {i : Fin n} (here : s.phase = .marking i) : Moves s .markDone (s.markDone i) .nothing
  | joined {i : Fin n} (here : s.phase = .joining i) (left : s.workers i = .left) :
      Moves s .join (s.join i) .nothing
  | cleaned {i : Fin n} (here : s.phase = .cleaning i) :
      Moves s .clean { s with phase := nextOr i .cleaning .freed } (.cleaned [])

variable {e : TaskEvent n} {out : TaskOutput n}

/-- Every step that is enabled and fits goes through. -/
theorem step_moves (sound : s.Sound) (staged : s.Staged) (enabled : s.Enabled e)
    (fits : s.Fits e) : ∃ s' out, s.step e = .ok (s', out) ∧ s.Moves e s' out := by
  cases e with
  | async task => exact ⟨_, _, rfl, .async fits enabled⟩
  | tryPush c busy =>
      obtain ⟨call, here, more⟩ := enabled
      have args := sound.args call (List.mem_of_getElem? here)
      simp only [step, here]
      cases busy with
      | true =>
          have tried : (s.queues (target call call.tries)).tryPush true call.task = .ok none := by
            rw [NotQ.tryPush, check_pass _ args]
            rfl
          refine ⟨_, _, bind_eq_ok.mpr ⟨_, bind_eq_ok.mpr ⟨none, tried, rfl⟩, rfl⟩, ?_⟩
          exact .retried here more
      | false =>
          obtain ⟨q, pushed, added, done⟩ :=
            (sound.queues (target call call.tries)).push (fits call here) call.task
          have tried : (s.queues (target call call.tries)).tryPush false call.task =
              .ok (some q) := by
            rw [NotQ.tryPush, check_pass _ args, pushed]
            rfl
          refine ⟨_, _, bind_eq_ok.mpr ⟨_, bind_eq_ok.mpr ⟨some q, tried, rfl⟩, rfl⟩, ?_⟩
          exact .pushed trivial here added done
  | push c =>
      obtain ⟨call, here, -⟩ := enabled
      simp only [step, here]
      obtain ⟨q, pushed, added, done⟩ :=
        (sound.queues (target call 0)).push (fits call here) call.task
      refine ⟨_, _, bind_eq_ok.mpr ⟨_, bind_eq_ok.mpr ⟨q, pushed, rfl⟩, rfl⟩, ?_⟩
      exact .pushed trivial here added done
  | tryPop w busy =>
      obtain ⟨i, here⟩ := enabled
      simp only [step, here]
      have queue := sound.queues (Fin.ofNat n i)
      by_cases vain : busy = true ∨ (s.queues (Fin.ofNat n i)).ring.size = 0
      · have tried : (s.queues (Fin.ofNat n i)).tryPop busy = .ok none := by
          rw [NotQ.tryPop]
          rcases vain with rfl | empty
          · rfl
          · rw [if_pos empty, ite_self]
            rfl
        refine ⟨_, _, bind_eq_ok.mpr ⟨_, bind_eq_ok.mpr ⟨none, tried, rfl⟩, rfl⟩, ?_⟩
        exact .looked here
      · obtain ⟨free, some_⟩ := not_or.mp vain
        obtain ⟨q, taken, left, done⟩ := queue.takeBatch false
        have held : (s.queues (Fin.ofNat n i)).queued ≠ [] := by
          intro empty
          rw [queue.holds.size_eq, empty] at some_
          exact some_ rfl
        obtain ⟨t, batch, front, split⟩ := batch_cons held
        have tried : (s.queues (Fin.ofNat n i)).tryPop busy = .ok (some (t :: batch, q)) := by
          rw [NotQ.tryPop, if_neg free, if_neg some_, taken, front]
          rfl
        refine ⟨_, _, bind_eq_ok.mpr ⟨_, bind_eq_ok.mpr ⟨_, tried, rfl⟩, rfl⟩, ?_⟩
        exact .popped trivial (.inr ⟨i, here⟩) split left done
  | pop w =>
      obtain ⟨here, ready⟩ := enabled
      have queue := sound.queues w
      by_cases done : (s.queues w).done = true
      · have found : (s.queues w).pop = .ok none := by
          rw [NotQ.pop, if_pos done]
          rfl
        have empty : (s.queues w).queued = [] := by
          rw [← List.length_eq_zero_iff, ← queue.holds.size_eq]
          exact fits done
        refine ⟨_, _, bind_eq_ok.mpr ⟨_, bind_eq_ok.mpr ⟨none, found, rfl⟩, rfl⟩, ?_⟩
        exact .leaves here done empty
      · obtain ⟨q, taken, left, same⟩ := queue.takeBatch true
        have held : (s.queues w).queued ≠ [] := by
          intro empty
          have some_ := ready.resolve_right done
          rw [queue.holds.size_eq, empty] at some_
          exact some_ rfl
        obtain ⟨t, batch, front, split⟩ := batch_cons held
        have found : (s.queues w).pop = .ok (some (t :: batch, q)) := by
          rw [NotQ.pop, if_neg done, taken, front]
          rfl
        refine ⟨_, _, bind_eq_ok.mpr ⟨_, bind_eq_ok.mpr ⟨_, found, rfl⟩, rfl⟩, ?_⟩
        exact .popped trivial (.inl here) split left same
  | run w =>
      obtain ⟨t, rest, here⟩ := enabled
      simp only [step, here]
      exact ⟨_, _, rfl, .ran here⟩
  | free =>
      obtain ⟨here, idle⟩ := enabled
      exact ⟨_, _, rfl, .free here idle⟩
  | markDone =>
      obtain ⟨i, here⟩ := enabled
      simp only [step, here]
      exact ⟨_, _, rfl, .marked here⟩
  | join =>
      obtain ⟨i, here, left⟩ := enabled
      simp only [step, here]
      exact ⟨_, _, rfl, .joined here left⟩
  | clean =>
      obtain ⟨i, here⟩ := enabled
      simp only [Staged, here] at staged
      obtain ⟨-, done, left⟩ := staged
      have freed := (sound.queues i).free (done i)
      rw [(sound.leaving i (left i)).2] at freed
      simp only [step, here]
      refine ⟨_, _, bind_eq_ok.mpr ⟨_, bind_eq_ok.mpr ⟨_, freed, rfl⟩, rfl⟩, ?_⟩
      exact .cleaned here

theorem Moves.sound (moves : s.Moves e s' out) (sound : s.Sound) (staged : s.Staged) :
    s'.Sound := by
  cases moves with
  | async args here =>
      refine ⟨sound.queues, fun call mem => ?_, sound.looking, sound.running, sound.leaving⟩
      rcases List.mem_append.mp mem with old | new
      · exact sound.args call old
      · rw [List.mem_singleton.mp new]
        exact args
  | pushed internal here added done =>
      refine (sound.setQueue added done fun closed _ => ?_).setCall fun _ none_ => nomatch none_
      rw [staged.no_calls closed] at here
      cases here
  | retried here more =>
      rename_i c call busy
      apply sound.setCall
      intro again same
      cases same
      exact sound.args call (List.mem_of_getElem? here)
  | popped internal idle was left done =>
      refine Sound.setWorker (sound.setQueue left done fun _ empty => ?_) nofun nofun nofun
      rw [was] at empty
      cases empty
  | looked here =>
      rename_i w i busy
      rcases lookOn_cases w i with ⟨again, more⟩ | waits
      · rw [again]
        refine sound.setWorker (fun j same => ?_) nofun nofun
        cases same
        exact more
      · rw [waits]
        exact sound.setWorker nofun nofun nofun
  | leaves here done empty => exact sound.setWorker nofun nofun fun _ => ⟨done, empty⟩
  | ran here =>
      rename_i w t rest
      cases rest with
      | nil =>
          refine sound.setWorker (fun j same => ?_) nofun nofun
          cases same
          have below := w.isLt
          rw [numIt]
          omega
      | cons t rest => exact sound.setWorker nofun nofun nofun
  | free here idle =>
      exact ⟨sound.queues, sound.args, sound.looking, sound.running, sound.leaving⟩
  | marked here =>
      rename_i i
      have queue := (sound.queues i).markDone
      refine ⟨queues_set sound queue, sound.args, sound.looking, sound.running, fun w left => ?_⟩
      obtain ⟨was, none_⟩ := sound.leaving w left
      change (Function.update s.queues i (s.queues i).markDone w).done = true ∧
        (Function.update s.queues i (s.queues i).markDone w).queued = []
      by_cases same : w = i
      · subst same
        rw [Function.update_self, queue.queued_eq]
        exact ⟨rfl, none_⟩
      · rw [Function.update_of_ne same]
        exact ⟨was, none_⟩
  | joined here left =>
      exact ⟨sound.queues, sound.args, sound.looking, sound.running, sound.leaving⟩
  | cleaned here =>
      exact ⟨sound.queues, sound.args, sound.looking, sound.running, sound.leaving⟩

theorem Moves.staged (moves : s.Moves e s' out) (staged : s.Staged) : s'.Staged := by
  cases moves with
  | async args here =>
      unfold Staged at staged ⊢
      simp only [TaskManager.async, here] at staged ⊢
      exact staged
  | pushed internal here added done =>
      refine staged.of_same rfl (fun none_ => ?_) (done_set done) fun _ left => left
      rw [none_] at here
      cases here
  | retried here more =>
      refine staged.of_same rfl (fun none_ => ?_) (fun _ => rfl) fun _ left => left
      rw [none_] at here
      cases here
  | popped internal idle was left done =>
      refine staged.of_same rfl id (done_set done) (left_set fun gone => ?_)
      rw [gone] at idle
      exact idle.elim nofun fun ⟨_, looks⟩ => nomatch looks
  | looked here =>
      exact staged.of_same rfl id (fun _ => rfl) (left_set (by rw [here]; nofun))
  | leaves here done empty =>
      exact staged.of_same rfl id (fun _ => rfl) (left_set (by rw [here]; nofun))
  | ran here => exact staged.of_same rfl id (fun _ => rfl) (left_set (by rw [here]; nofun))
  | free here idle =>
      refine ⟨idle, fun i before => ?_⟩
      have below : i.val < (Fin.ofNat n 0).val := before
      rw [Fin.val_ofNat, Nat.zero_mod] at below
      omega
  | marked here =>
      rename_i i
      unfold Staged at staged
      simp only [here] at staged
      obtain ⟨calls, marked⟩ := staged
      have marks : ∀ j, j ≤ i →
          (Function.update s.queues i (s.queues i).markDone j).done = true := by
        intro j le
        by_cases same : j = i
        · subst same
          rw [Function.update_self]
          rfl
        · rw [Function.update_of_ne same]
          exact marked j (Nat.lt_of_le_of_ne le (Fin.val_ne_of_ne same))
      unfold Staged
      simp only [TaskManager.markDone, TaskManager.setQueue]
      rcases nextOr_cases i .marking (.joining (Fin.ofNat n 0)) with ⟨more, next⟩ | ⟨last, next⟩
      · rw [next]
        exact ⟨calls, fun j before => marks j (Nat.lt_succ_iff.mp before)⟩
      · rw [next]
        refine ⟨calls, fun j => marks j (last j), fun j before => ?_⟩
        have below : j.val < (Fin.ofNat n 0).val := before
        rw [Fin.val_ofNat, Nat.zero_mod] at below
        omega
  | joined here left =>
      rename_i i
      unfold Staged at staged
      simp only [here] at staged
      obtain ⟨calls, done, joined⟩ := staged
      have gone : ∀ j, j ≤ i → s.workers j = .left := by
        intro j le
        rcases Nat.eq_or_lt_of_le le with same | before
        · rw [Fin.ext same]
          exact left
        · exact joined j before
      unfold Staged
      simp only [TaskManager.join]
      rcases nextOr_cases i .joining (.cleaning (Fin.ofNat n 0)) with ⟨more, next⟩ | ⟨last, next⟩
      · rw [next]
        exact ⟨calls, done, fun j before => gone j (Nat.lt_succ_iff.mp before)⟩
      · rw [next]
        exact ⟨calls, done, fun j => gone j (last j)⟩
  | cleaned here =>
      rename_i i
      unfold Staged at staged
      simp only [here] at staged
      unfold Staged
      rcases nextOr_cases i .cleaning .freed with ⟨more, next⟩ | ⟨last, next⟩
      · simp only [next]
        exact staged
      · simp only [next]
        exact staged

end TaskManager

end FlexRic
