import FlexRic.XApp.DbSteps

/-! # Runs of the database queue

What callers hand in is released in order, and written before that unless the
database is closed.
-/

namespace FlexRic

namespace DbXapp

variable {I R : Type} [Inhabited I] [Inhabited R] {elmSz : Nat}
  {db db' : DbXapp (E2NodeAgIf I R)}

abbrev History (I R : Type) :=
  List (Entry (DbXapp (E2NodeAgIf I R)) (DbEvent (E2NodeAgIf I R)) (DbOutput (E2NodeAgIf I R)))

omit [Inhabited I] [Inhabited R] in
/-- What callers have handed in, the first one first. -/
def pushed (h : History I R) : List (E2NodeAgIf I R) :=
  h.foldr (fun x ds => ds ++ x.event.handedIn) []

omit [Inhabited I] [Inhabited R] in
/-- What has gone to the database. -/
def written (h : History I R) : List (E2NodeAgIf I R) :=
  h.foldr (fun x ds => ds ++ x.output.written) []

omit [Inhabited I] [Inhabited R] in
/-- What has been given back. -/
def released (h : History I R) : List (E2NodeAgIf I R) :=
  h.foldr (fun x ds => ds ++ x.output.released) []

/-- What a run keeps whose steps all fit. -/
structure Kept (db : DbXapp (E2NodeAgIf I R)) (h : History I R) : Prop where
  sound : db.Sound
  balance : released h ++ (db.inHand ++ db.q.queued) = pushed h
  before : written h <+: released h
  same : db.q.freed = false → written h = released h

theorem Kept.init (sized : 0 < elmSz) : Kept (.init elmSz : DbXapp (E2NodeAgIf I R)) [] where
  sound := .init sized
  balance := (Tsnq.Queued.init sized).queued_eq
  before := List.prefix_refl _
  same _ := rfl

theorem Kept.next {h : History I R} {e : DbEvent (E2NodeAgIf I R)}
    {out : DbOutput (E2NodeAgIf I R)} (kept : Kept db h) (goes : db.Goes e db' out) :
    Kept db' (⟨db, e, out, db'⟩ :: h) where
  sound := goes.sound
  balance := by
    change (released h ++ out.released) ++ (db'.inHand ++ db'.q.queued) =
      pushed h ++ e.handedIn
    rw [List.append_assoc, goes.balance, ← List.append_assoc, kept.balance]
  before := by
    change written h ++ out.written <+: released h ++ out.released
    cases gone : db.q.freed with
    | true =>
        rw [(goes.quiet gone).2, List.append_nil, List.append_nil]
        exact kept.before
    | false =>
        rw [kept.same gone, List.prefix_append_right_inj]
        rcases goes.written with same | ⟨none_, -⟩
        · exact same ▸ List.prefix_refl _
        · rw [none_]
          exact List.nil_prefix
  same := by
    intro live
    change written h ++ out.written = released h ++ out.released
    have before : db.q.freed = false := by
      by_contra gone
      exact Bool.noConfusion (live.symm.trans (goes.quiet (Bool.of_not_eq_false gone)).1)
    rcases goes.written with same | ⟨-, gone⟩
    · rw [kept.same before, same]
    · exact Bool.noConfusion (live.symm.trans gone)

theorem kept_run {h : History I R} (sized : 0 < elmSz) (run : (machine I R elmSz).Run db h)
    (meets : Machine.Meets Fits h) : Kept db h := by
  induction run with
  | start => exact .init sized
  | next _ enabled moved ih =>
      obtain ⟨here, earlier⟩ := Machine.meets_cons.mp meets
      obtain ⟨_, _, goes⟩ := (ih earlier).sound.step enabled here
      cases goes.moved.symm.trans moved
      exact (ih earlier).next goes

omit [Inhabited I] [Inhabited R] in
/-- A batch that the worker may take is there. -/
theorem Sound.enough (sound : db.Sound) {batch : DbBatch} (here : db.worker = .popping batch)
    (ready : db.Enabled .worker) (asked : db.q.stopToken = false) :
    batch.sz ≤ db.q.ring.size := by
  have busy : ¬db.worker.Done := by
    rw [here]
    exact id
  have size := (sound.queued busy).holds.size_eq
  have fits := sound.worker
  rw [WorkerFits, here] at fits
  cases batch with
  | one =>
      rcases ready.2 here with more | stopping
      · exact Nat.one_le_iff_ne_zero.mpr more
      · exact Bool.noConfusion (asked.symm.trans stopping)
  | ten =>
      rw [size]
      exact fits.2
  | hundred =>
      rw [size]
      exact fits.2

omit [Inhabited I] [Inhabited R] in
/-- When neither the worker nor the closer can go on, nothing is on its way. -/
theorem Sound.rests (sound : db.Sound)
    (still : ∀ e : DbEvent (E2NodeAgIf I R), e.Internal → ¬db.Enabled e) :
    db.inHand ++ db.q.queued = [] ∧ (db.closer = .notCalled ∨ db.closer = .closed) := by
  have waits : db.worker = .returned ∨ db.worker = .popping .one ∧ db.q.ring.size = 0 ∧
      db.q.stopToken = false := by
    by_contra goes
    apply still .worker trivial
    refine ⟨fun left => goes (.inl left), fun here => ?_⟩
    by_contra neither
    rw [not_or, Bool.not_eq_true] at neither
    exact goes (.inr ⟨here, Decidable.not_not.mp neither.1, neither.2⟩)
  have stage := sound.stage
  rcases waits with left | ⟨here, empty, asked⟩
  · have done : db.worker.Done := by
      rw [left]
      trivial
    cases at_ : db.closer with
    | notCalled =>
        rw [Staged, at_] at stage
        exact Bool.noConfusion (stage.1.symm.trans (sound.asked done))
    | stopping => exact absurd ⟨at_, sound.stopped.mpr done⟩ (still .free trivial)
    | joining => exact absurd ⟨at_, left⟩ (still .join trivial)
    | closed =>
        rw [Staged, at_] at stage
        rw [inHand_done done, Tsnq.queued_of_freed stage.2.1]
        exact ⟨rfl, .inr rfl⟩
  · have busy : ¬db.worker.Done := by
      rw [here]
      exact id
    have none_ : db.q.queued = [] := by
      apply List.eq_nil_of_length_eq_zero
      rw [← (sound.queued busy).holds.size_eq, empty]
    have open_ : db.closer = .notCalled := by
      unfold Staged at stage
      split at stage
      · assumption
      all_goals exact Bool.noConfusion (asked.symm.trans stage.1)
    rw [inHand_popping here, none_]
    exact ⟨rfl, .inl open_⟩

/-- Along a run whose pushes all fit, callers' elements are written in order, and each
    is released once or on its way; a batch is there when it is taken, and the counters
    stay within their arrays. Every step goes through, the worker and the closer come to
    rest by themselves, and then nothing is on its way. -/
theorem elements_released_once (sized : 0 < elmSz) {h : History I R}
    (run : (machine I R elmSz).Run db h) (meets : Machine.Meets Fits h) :
    written h <+: pushed h ∧
      released h ++ (db.inHand ++ db.q.queued) = pushed h ∧
      (∀ batch, db.worker = .popping batch → db.Enabled .worker → db.q.stopToken = false →
        batch.sz ≤ db.q.ring.size) ∧
      (db.val10 ≤ 10 ∧ db.val100 ≤ 100) ∧
      (∀ e, db.Enabled e → db.Fits e → ∃ db' out, db.step e = .ok (db', out) ∧
        (e.Internal → db'.workLeft < db.workLeft)) ∧
      ((∀ e : DbEvent (E2NodeAgIf I R), e.Internal → ¬db.Enabled e) →
        released h = pushed h ∧ (db.closer = .notCalled ∨ db.closer = .closed)) := by
  have kept := kept_run sized run meets
  have sound := kept.sound
  refine ⟨?_, kept.balance, fun batch here ready asked => sound.enough here ready asked,
    ⟨sound.counted10, sound.counted100⟩, ?_, ?_⟩
  · rw [← kept.balance]
    exact kept.before.trans (List.prefix_append ..)
  · intro e enabled fits
    obtain ⟨db', out, goes⟩ := sound.step enabled fits
    exact ⟨db', out, goes.moved, goes.less⟩
  · intro still
    obtain ⟨none_, closer⟩ := sound.rests still
    have balance := kept.balance
    rw [none_, List.append_nil] at balance
    exact ⟨balance, closer⟩

def indication (n : Nat) : E2NodeAgIf Nat Nat := ⟨n, .indicationMsg n⟩

/-- A batch of ten and a single element, and one that the close finds. -/
def tenAndOn : List (DbEvent (E2NodeAgIf Nat Nat)) :=
  (List.range 11).map (fun n => .write (indication n)) ++ List.replicate 15 .worker ++
    [.write (indication 11), .stop, .worker, .worker, .free, .worker, .join]

theorem elements_released_once_tenAndOn :
    let reached := (machine Nat Nat 8).replay tenAndOn
    released reached.2 = pushed reached.2 := by
  have still : ∀ e : DbEvent (E2NodeAgIf Nat Nat), e.Internal →
      ¬((machine Nat Nat 8).replay tenAndOn).1.Enabled e := by
    intro e internal
    cases e with
    | write _ | stop => exact internal.elim
    | worker | free | join => decide +kernel
  have kept := elements_released_once (by decide)
    ((machine Nat Nat 8).run_replay tenAndOn) (by decide +kernel)
  exact (kept.2.2.2.2.2 still).1

/-- A database whose worker has not copied anything. -/
def slow (ring : SeqRing (E2NodeAgIf Nat Nat)) (stopToken stopped freed : Bool)
    (worker : DbWorker) (closer : DbCloser) : DbXapp (E2NodeAgIf Nat Nat) where
  q := ⟨ring, stopToken, stopped, freed⟩
  static := default
  static10 := List.replicate 10 default
  val10 := 0
  static100 := List.replicate 100 default
  val100 := 0
  worker := worker
  closer := closer

def waiting (ring : SeqRing (E2NodeAgIf Nat Nat)) : DbXapp (E2NodeAgIf Nat Nat) :=
  slow ring false false false .sizing .notCalled

theorem extend {db db' : DbXapp (E2NodeAgIf Nat Nat)} {h : History Nat Nat}
    {e : DbEvent (E2NodeAgIf Nat Nat)} {out : DbOutput (E2NodeAgIf Nat Nat)}
    (run : (machine Nat Nat 8).Run db h) (moved : db.step e = .ok (db', out))
    (enabled : db.Enabled e) : (machine Nat Nat 8).Run db' (⟨db, e, out, db'⟩ :: h) :=
  run.next enabled moved

theorem write_waiting {ring ring' : SeqRing (E2NodeAgIf Nat Nat)} {n : Nat}
    (added : ring.pushBack (indication n) = .ok ring') :
    (waiting ring).step (.write (indication n)) = .ok (waiting ring', ⟨[], []⟩) := by
  have pushed : (waiting ring).q.push (ε := CreateValFailure) (indication n) =
      .ok (waiting ring').q := by
    change ((ring.pushBack (indication n)).mapError TsnqFailure.ring >>= _) = _
    rw [added]
    rfl
  have written : (waiting ring).write (indication n) = .ok (waiting ring') := by
    rw [write, check_pass _ (show (indication n).rd.IsIndication from trivial), ok_bind, pushed]
    rfl
  rw [step, written]
  rfl

/-- Callers can fill the queue while the worker is slow. -/
theorem filled (m : Nat) (few : m + 1 ≤ 2 ^ 32) :
    ∃ ring h, (machine Nat Nat 8).Run (waiting ring) h ∧
      ring.Holds (List.replicate m (indication 0)) ∧ ring.tail = 0 ∧
      pushed h = List.replicate m (indication 0) ∧ released h = [] := by
  induction m with
  | zero =>
      refine ⟨.init SeqRing.defaultElm 8, [], .start, ?_, rfl, rfl, rfl⟩
      exact .init (k := 5) (by omega) (by omega) 8
  | succ m ih =>
      obtain ⟨ring, h, run, holds, tail, pushed_, released_⟩ := ih (by omega)
      have head : ring.head.toNat = m := by
        rw [holds.count, tail, List.length_replicate, UInt32.toNat_zero]
        omega
      obtain ⟨ring', added, holds', -⟩ := holds.pushBack (fun _ => by omega) (indication 0)
      rw [← List.replicate_succ'] at holds'
      refine ⟨ring', _, extend run (write_waiting added) ⟨rfl, trivial⟩, holds', ?_, ?_, ?_⟩
      · exact SeqRing.pushBack_tail tail added
      · change pushed h ++ [indication 0] = _
        rw [pushed_, List.replicate_succ']
      · change released h ++ [] = []
        rw [released_, List.append_nil]

/-- The worker and the closer leave a queue alone that looks empty. -/
theorem closes {ring : SeqRing (E2NodeAgIf Nat Nat)} {h : History Nat Nat}
    (run : (machine Nat Nat 8).Run (waiting ring) h) (size : ring.size = 0)
    (walk : ring.walk = .ok []) : ∃ db h', (machine Nat Nat 8).Run db h' ∧ db.closer = .closed ∧
      pushed h' = pushed h ∧ released h' = released h := by
  have asked : (waiting ring).step .stop =
      .ok (slow ring true false false .sizing .stopping, ⟨[], []⟩) := rfl
  have sized : (slow ring true false false .sizing .stopping).step .worker =
      .ok (slow ring true false false (.popping .one) .stopping, ⟨[], []⟩) := by
    change Except.ok (choose (slow ring true false false .sizing .stopping) ring.size,
      (⟨[], []⟩ : DbOutput (E2NodeAgIf Nat Nat))) = _
    rw [size]
    rfl
  have broke : (slow ring true false false (.popping .one) .stopping).step .worker =
      .ok (slow ring true true false .breaking .stopping, ⟨[], []⟩) := rfl
  have left : (slow ring true true false .breaking .stopping).step .worker =
      .ok (slow ring true true false .returned .stopping, ⟨[], []⟩) := rfl
  have freed : (slow ring true true false .returned .stopping).step .free =
      .ok (slow ring true true true .returned .joining, ⟨[], []⟩) := by
    have visited : (slow ring true true false .returned .stopping).q.free
        (ε := CreateValFailure) = .ok (⟨ring, true, true, true⟩, []) := by
      change (ring.walk.mapError TsnqFailure.ring >>= _) = _
      rw [walk]
      rfl
    rw [step, free, visited]
    rfl
  have joined : (slow ring true true true .returned .joining).step .join =
      .ok (slow ring true true true .returned .closed, ⟨[], []⟩) := rfl
  have run₂ := extend (extend run asked rfl) sized
    ⟨(by intro here; cases here), (by intro here; cases here)⟩
  have run₄ := extend (extend run₂ broke ⟨(by intro here; cases here), fun _ => .inr rfl⟩) left
    ⟨(by intro here; cases here), (by intro here; cases here)⟩
  have run₆ := extend (extend run₄ freed ⟨rfl, rfl⟩) joined ⟨rfl, rfl⟩
  refine ⟨_, _, run₆, rfl, ?_, ?_⟩
  · simp only [pushed, List.foldr_cons, DbEvent.handedIn, List.append_nil]
  · simp only [released, List.foldr_cons, List.append_nil]

/-- After `2 ^ 32` elements the counters of the ring are equal again, and the queue that
    is closed releases none of them. -/
theorem elements_lost : ∃ (db : DbXapp (E2NodeAgIf Nat Nat)) (h : History Nat Nat),
    (machine Nat Nat 8).Run db h ∧ db.closer = .closed ∧ (pushed h).length = 2 ^ 32 ∧
      released h = [] := by
  obtain ⟨m, many⟩ : ∃ m, m + 1 = 2 ^ 32 := ⟨2 ^ 32 - 1, rfl⟩
  obtain ⟨ring, h, run, holds, tail, pushed_, released_⟩ := filled m (Nat.le_of_eq many)
  have room := holds.room
  have bound := holds.cap_le
  rw [List.length_replicate] at room
  have all : ring.cap = 2 ^ 32 := by omega
  have full : ring.full := by
    rw [holds.full_iff, List.length_replicate, many, all]
  obtain ⟨ring', added, size, walk⟩ := holds.pushBack_overfull full all (indication 0)
  have run' := extend run (write_waiting added) ⟨rfl, trivial⟩
  obtain ⟨db, h', closed, at_, same, same'⟩ := closes run' size walk
  refine ⟨db, h', closed, at_, ?_, ?_⟩
  · rw [same]
    change (pushed h ++ [indication 0]).length = _
    rw [pushed_, List.length_append, List.length_replicate, List.length_singleton, many]
  · rw [same']
    change released h ++ [] = []
    rw [released_, List.append_nil]

end DbXapp

end FlexRic
