import FlexRic.Util.TaskManager

/-! # The queues of the task manager

What the operations on a queue do to the tasks in it.
-/

namespace FlexRic

namespace NotQ

variable {q q' : NotQ} {tasks : List TaskT} {t : TaskT}

/-- The queue holds these tasks, in order. -/
structure Queued (q : NotQ) (tasks : List TaskT) : Prop where
  holds : q.ring.Holds tasks
  width : q.ring.eltSize = sizeofTask

/-- The tasks that the loop from front to end meets. -/
def queued (q : NotQ) : List TaskT :=
  match q.ring.walk with
  | .ok tasks => tasks
  | .error _ => []

namespace Queued

theorem sized (queue : q.Queued tasks) : q.ring.eltSize ≠ 0 := by
  rw [queue.width]
  decide

theorem queued_eq (queue : q.Queued tasks) : q.queued = tasks := by
  rw [queued, queue.holds.walk_eq fun _ => queue.sized]

theorem init : NotQ.init.Queued [] where
  holds := SeqRing.Holds.init (k := 15) (by decide) (by decide) sizeofTask
  width := rfl

theorem push (queue : q.Queued tasks) (room : q.ring.Room) (t : TaskT) :
    ∃ q', q.push t = .ok q' ∧ q'.Queued (tasks ++ [t]) ∧ q'.done = q.done := by
  obtain ⟨ring, pushed, holds, same⟩ := queue.holds.pushBack room t
  refine ⟨{ q with ring := ring }, ?_, ⟨holds, same.trans queue.width⟩, rfl⟩
  rw [NotQ.push, pushed]
  rfl

/-- A copy of what is there goes through, and stays before the end. -/
theorem copyTasks (queue : q.Queued tasks) (guarded : Bool) {i len : Nat}
    (inside : i + len ≤ tasks.length) :
    NotQ.copyTasks q.ring guarded i len = .ok ((tasks.drop i).take len) := by
  induction len generalizing i with
  | zero => rw [NotQ.copyTasks, List.take_zero]
  | succ len ih =>
      have short : i < tasks.length := by omega
      have before : q.ring.position i ≠ q.ring.stop := by
        rw [queue.holds.position_eq]
        exact fun met =>
          Nat.ne_of_lt short ((queue.holds.slot_eq_stop queue.sized (Nat.le_of_lt short)).mp met)
      rw [NotQ.copyTasks, check_pass _ fun _ => before, ok_bind, queue.holds.position_eq,
        queue.holds.deref_slot queue.sized short]
      change (do
        let rest ← NotQ.copyTasks q.ring guarded (i + 1) len
        pure (tasks[i] :: rest)) = _
      rw [ih (by omega), ok_bind, List.drop_eq_getElem_cons short, List.take_succ_cons]
      rfl

/-- A batch is what was at the front. -/
theorem takeBatch (queue : q.Queued tasks) (guarded : Bool) :
    ∃ q', q.takeBatch guarded = .ok (tasks.take 4096, q') ∧ q'.Queued (tasks.drop 4096) ∧
      q'.done = q.done := by
  have size := queue.holds.size_eq
  have len : (if q.ring.size < 4096 then q.ring.size else 4096) = min 4096 tasks.length := by
    rw [size]
    split <;> omega
  have inside : 0 + min 4096 tasks.length ≤ tasks.length := by omega
  have copied := queue.copyTasks guarded inside
  rw [List.drop_zero, ← List.take_eq_take_min] at copied
  obtain ⟨ring, erased, holds, same, -⟩ :=
    queue.holds.erase (n := min 4096 tasks.length) (by omega) fun _ => queue.sized
  have counted : guarded = true ∨ q.ring.size = min 4096 tasks.length + ring.size := by
    right
    rw [size, holds.size_eq, List.length_drop]
    omega
  have rest : tasks.drop (min 4096 tasks.length) = tasks.drop 4096 := by
    rcases Nat.le_total 4096 tasks.length with many | few
    · rw [Nat.min_eq_left many]
    · rw [Nat.min_eq_right few, List.drop_length, List.drop_eq_nil_of_le few]
  refine ⟨{ q with ring := ring }, ?_, ⟨rest ▸ holds, same.trans queue.width⟩, rfl⟩
  simp only [NotQ.takeBatch, len, copied, ok_bind, erased]
  change (do
    check (guarded = true ∨ q.ring.size = min 4096 tasks.length + ring.size) TaskFailure.sizes
    pure (tasks.take 4096, { q with ring := ring })) = _
  rw [check_pass _ counted, ok_bind]
  rfl

theorem free (queue : q.Queued tasks) (done : q.done = true) : q.free = .ok tasks := by
  rw [NotQ.free, check_pass _ done, ok_bind, queue.holds.walk_eq fun _ => queue.sized]
  rfl

theorem markDone (queue : q.Queued tasks) : q.markDone.Queued tasks := ⟨queue.holds, queue.width⟩

end Queued

end NotQ

end FlexRic
