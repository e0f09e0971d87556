import FlexRic.Util.SeqRing

/-! # The notification queue

`tsnq_t` hands elements from any number of producers to one consumer. It keeps
them in a ring, and a token and a flag end the consumer: the token asks for it,
the flag answers.
-/

namespace FlexRic

/-- What ends an operation, where the function that it calls on an element ends in an `ε`. -/
inductive TsnqFailure (ε : Type) where
  /-- `seq_size(&q->r) >= 10`, `seq_size(&q->r) >= 100` -/
  | tooFew
  /-- `it != seq_end(&q->r)` -/
  | atEnd
  | ring (failure : SeqRingFailure)
  | callback (failure : ε)
  /-- The ring is used after `seq_free`. -/
  | freed
  deriving DecidableEq, Repr

structure Tsnq (α : Type) where
  ring : SeqRing α
  stopToken : Bool
  stopped : Bool
  /-- The ring's memory has been given back. -/
  freed : Bool

namespace Tsnq

variable {α β ε : Type}

def init [Inhabited α] (elmSz : Nat) : Tsnq α where
  ring := .init SeqRing.defaultElm elmSz
  stopToken := false
  stopped := false
  freed := false

def push [Inhabited α] (q : Tsnq α) (val : α) : Except (TsnqFailure ε) (Tsnq α) := do
  check (q.freed = false) .freed
  let ring ← (q.ring.pushBack val).mapError .ring
  pure { q with ring := ring }

def size (q : Tsnq α) : Except (TsnqFailure ε) Nat := do
  check (q.freed = false) .freed
  pure q.ring.size

/-- The loop of a pop: call `f` on as many elements from an iterator on. -/
def each (r : SeqRing α) (f : β → α → Except ε β) :
    (n next : Nat) → β → Except (TsnqFailure ε) (Nat × β)
  | 0, next, elm => pure (next, elm)
  | n + 1, next, elm => do
      let a ← (r.deref next).mapError .ring
      let elm ← (f elm a).mapError .callback
      let next ← (r.next next).mapError .ring
      each r f n next elm

/-- The consumer finds the token set. -/
def stop (q : Tsnq α) : Tsnq α := { q with stopped := true }

variable [Inhabited α]

/-- `wait_and_pop_tsnq` once it does not wait any more. -/
def waitAndPop (q : Tsnq α) (f : β → α → Except ε β) (elm : β) :
    Except (TsnqFailure ε) (Tsnq α × Option β) := do
  check (q.freed = false) .freed
  if q.stopToken then pure (q.stop, none)
  else do
    let it := q.ring.front
    let a ← (q.ring.deref it).mapError .ring
    let elm ← (f elm a).mapError .callback
    check (it ≠ q.ring.stop) .atEnd
    let next ← (q.ring.next it).mapError .ring
    let ring ← (q.ring.erase it next).mapError .ring
    pure ({ q with ring := ring }, some elm)

/-- `pop_tsnq_10` and `pop_tsnq_100`, for as many elements. -/
def popMany (n : Nat) (q : Tsnq α) (f : β → α → Except ε β) (elm : β) :
    Except (TsnqFailure ε) (Tsnq α × Option β) := do
  check (q.freed = false) .freed
  if q.stopToken then pure (q.stop, none)
  else do
    check (n ≤ q.ring.size) .tooFew
    let it := q.ring.front
    check (it ≠ q.ring.stop) .atEnd
    let last ← each q.ring f n it elm
    let ring ← (q.ring.erase it last.1).mapError .ring
    pure ({ q with ring := ring }, some last.2)

def pop10 (q : Tsnq α) (f : β → α → Except ε β) (elm : β) :
    Except (TsnqFailure ε) (Tsnq α × Option β) := q.popMany 10 f elm

def pop100 (q : Tsnq α) (f : β → α → Except ε β) (elm : β) :
    Except (TsnqFailure ε) (Tsnq α × Option β) := q.popMany 100 f elm

/-- `free_tsnq` sets the token. -/
def requestStop (q : Tsnq α) : Tsnq α := { q with stopToken := true }

/-- `free_tsnq` after it found the consumer stopped, with the elements still there. -/
def free (q : Tsnq α) : Except (TsnqFailure ε) (Tsnq α × List α) := do
  check (q.freed = false) .freed
  let rest ← q.ring.walk.mapError .ring
  pure ({ q with freed := true }, rest)

omit [Inhabited α] in
/-- The elements that wait in the queue. -/
def queued (q : Tsnq α) : List α :=
  if q.freed then []
  else match q.ring.walk with
    | .ok elems => elems
    | .error _ => []

/-- The queue holds these elements, in order. -/
structure Queued (q : Tsnq α) (elems : List α) : Prop where
  holds : q.ring.Holds elems
  sized : q.ring.eltSize ≠ 0
  kept : q.freed = false

variable {q : Tsnq α} {elems : List α}

omit [Inhabited α] in
theorem queued_of_freed (gone : q.freed = true) : q.queued = [] := by
  rw [queued, if_pos gone]

namespace Queued

omit [Inhabited α] in
theorem queued_eq (queue : q.Queued elems) : q.queued = elems := by
  have live : ¬q.freed = true := by
    rw [queue.kept]
    exact nofun
  rw [queued, if_neg live, queue.holds.walk_eq fun _ => queue.sized]

theorem init {elmSz : Nat} (sized : 0 < elmSz) : (Tsnq.init elmSz : Tsnq α).Queued [] where
  holds := SeqRing.Holds.init (k := 5) (by omega) (by omega) elmSz
  sized := Nat.ne_of_gt sized
  kept := rfl

theorem push (queue : q.Queued elems) (room : q.ring.Room) (val : α) :
    ∃ ring, q.push (ε := ε) val = .ok { q with ring := ring } ∧
      ({ q with ring := ring } : Tsnq α).Queued (elems ++ [val]) := by
  obtain ⟨ring, pushed, holds, same⟩ := queue.holds.pushBack room val
  refine ⟨ring, ?_, holds, ?_, queue.kept⟩
  · rw [Tsnq.push, check_pass _ queue.kept, ok_bind, pushed]
    rfl
  · change ring.eltSize ≠ 0
    rw [same]
    exact queue.sized

omit [Inhabited α] in
theorem size (queue : q.Queued elems) : q.size (ε := ε) = .ok elems.length := by
  rw [Tsnq.size, check_pass _ queue.kept, ok_bind, queue.holds.size_eq]
  rfl

omit [Inhabited α] in
/-- A pop calls its function on the elements in their order. -/
theorem each (queue : q.Queued elems) (f : β → α → Except ε β) {n i : Nat} {elm last : β}
    (inside : i + n ≤ elems.length) (called : ((elems.drop i).take n).foldlM f elm = .ok last) :
    Tsnq.each q.ring f n (q.ring.position i) elm = .ok (q.ring.position (i + n), last) := by
  induction n generalizing i elm with
  | zero =>
      rw [List.take_zero] at called
      cases pure_eq_ok.mp called
      rfl
  | succ n ih =>
      have short : i < elems.length := by omega
      rw [List.drop_eq_getElem_cons short, List.take_succ_cons, List.foldlM_cons] at called
      obtain ⟨elm', first, rest⟩ := bind_eq_ok.mp called
      have later := ih (by omega) rest
      have read : q.ring.deref (q.ring.position i) = .ok elems[i] := by
        rw [queue.holds.position_eq, queue.holds.deref_slot queue.sized short]
      have moved : q.ring.next (q.ring.position i) = .ok (q.ring.position (i + 1)) := by
        rw [queue.holds.position_eq, queue.holds.position_eq,
          queue.holds.next_slot queue.sized short]
      rw [Tsnq.each, read, mapError_ok, ok_bind, first, mapError_ok, ok_bind, moved, mapError_ok,
        ok_bind, later, Nat.add_assoc, Nat.add_comm 1]

omit [Inhabited α] in
theorem front_eq (queue : q.Queued elems) : q.ring.front = q.ring.position 0 := by
  rw [queue.holds.front_eq, queue.holds.position_eq]

omit [Inhabited α] in
theorem front_ne_stop (queue : q.Queued elems) (some_ : 0 < elems.length) :
    q.ring.front ≠ q.ring.stop := by
  rw [queue.holds.front_eq]
  intro met
  exact Nat.ne_of_lt some_ ((queue.holds.slot_eq_stop queue.sized (Nat.zero_le _)).mp met)

/-- A batch is what was at the front. -/
theorem popMany (queue : q.Queued elems) (open_ : q.stopToken = false)
    (f : β → α → Except ε β) {n : Nat} {elm last : β} (positive : 0 < n)
    (inside : n ≤ elems.length) (called : (elems.take n).foldlM f elm = .ok last) :
    ∃ ring, q.popMany n f elm = .ok ({ q with ring := ring }, some last) ∧
      ({ q with ring := ring } : Tsnq α).Queued (elems.drop n) := by
  obtain ⟨ring, erased, holds, same, -⟩ := queue.holds.erase inside fun _ => queue.sized
  have sized : ring.eltSize ≠ 0 := by
    rw [same]
    exact queue.sized
  have enough : n ≤ q.ring.size := by
    rw [queue.holds.size_eq]
    exact inside
  have looped := queue.each f (i := 0) (by omega) called
  rw [Nat.zero_add, ← queue.front_eq] at looped
  have going : ¬q.stopToken = true := by
    rw [open_]
    exact nofun
  refine ⟨ring, ?_, holds, sized, queue.kept⟩
  simp only [Tsnq.popMany]
  rw [check_pass _ queue.kept, ok_bind, if_neg going, check_pass _ enough, ok_bind,
    check_pass _ (queue.front_ne_stop (by omega)), ok_bind, looped, ok_bind, erased]
  rfl

theorem waitAndPop (queue : q.Queued elems) (open_ : q.stopToken = false)
    (f : β → α → Except ε β) {elm last : β} (some_ : 1 ≤ elems.length)
    (called : (elems.take 1).foldlM f elm = .ok last) :
    ∃ ring, q.waitAndPop f elm = .ok ({ q with ring := ring }, some last) ∧
      ({ q with ring := ring } : Tsnq α).Queued (elems.drop 1) := by
  obtain ⟨ring, erased, holds, same, -⟩ := queue.holds.erase some_ fun _ => queue.sized
  have sized : ring.eltSize ≠ 0 := by
    rw [same]
    exact queue.sized
  have going : ¬q.stopToken = true := by
    rw [open_]
    exact nofun
  have short : 0 < elems.length := some_
  have first : f elm elems[0] = .ok last := by
    rw [List.take_one, List.head?_eq_getElem?, List.getElem?_eq_getElem short,
      Option.toList_some, List.foldlM_cons] at called
    obtain ⟨elm', first, rest⟩ := bind_eq_ok.mp called
    cases pure_eq_ok.mp rest
    exact first
  have read : q.ring.deref q.ring.front = .ok elems[0] := by
    rw [queue.holds.front_eq, queue.holds.deref_slot queue.sized short]
  have moved : q.ring.next q.ring.front = .ok (q.ring.position 1) := by
    rw [queue.holds.front_eq, queue.holds.position_eq, queue.holds.next_slot queue.sized short]
  refine ⟨ring, ?_, holds, sized, queue.kept⟩
  simp only [Tsnq.waitAndPop]
  rw [check_pass _ queue.kept, ok_bind, if_neg going, read, mapError_ok, ok_bind, first,
    mapError_ok, ok_bind, check_pass _ (queue.front_ne_stop short), ok_bind, moved, mapError_ok,
    ok_bind, erased, mapError_ok, ok_bind]
  rfl

omit [Inhabited α] in
theorem free (queue : q.Queued elems) :
    q.free (ε := ε) = .ok ({ q with freed := true }, elems) := by
  rw [Tsnq.free, check_pass _ queue.kept, ok_bind, queue.holds.walk_eq fun _ => queue.sized]
  rfl

end Queued

/-- A pop that finds the token set takes nothing. -/
theorem popMany_stopped (asked : q.stopToken = true) (live : q.freed = false) (n : Nat)
    (f : β → α → Except ε β) (elm : β) : q.popMany n f elm = .ok (q.stop, none) := by
  simp only [popMany]
  rw [check_pass _ live, ok_bind, if_pos asked]
  rfl

theorem waitAndPop_stopped (asked : q.stopToken = true) (live : q.freed = false)
    (f : β → α → Except ε β) (elm : β) : q.waitAndPop f elm = .ok (q.stop, none) := by
  simp only [waitAndPop]
  rw [check_pass _ live, ok_bind, if_pos asked]
  rfl

end Tsnq

end FlexRic
