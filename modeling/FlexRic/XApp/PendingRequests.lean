import FlexRic.XApp.Invariants

/-! # The pending requests of the xApp

The map of pending events compares events by their type alone, so an answer
stops whichever request of its type the search meets first; and the handlers of
deletes and controls add the pending event only after the request is out, when
its answer may be back already.
-/

namespace FlexRic

open Assertion E42Xapp

/-- The call is still to add this pending event. -/
def Call.adds (call : Call) (ev : PendingEventXapp) : Bool :=
  eqPendingEventXapp (pendingEvent call.msg) ev &&
    match call.stage with
    | .createTimer | .addPending _ => true
    | .send => !sendsLast call.msg
    | .condWait | .blocked | .msgAck | .rmActProc => false

/-- The call is still to send the request of this pending event. -/
def Call.sends (call : Call) (ev : PendingEventXapp) : Bool :=
  eqPendingEventXapp (pendingEvent call.msg) ev &&
    match call.stage with
    | .createTimer | .addPending _ => sendsLast call.msg
    | .send => true
    | .condWait | .blocked | .msgAck | .rmActProc => false

namespace E42Xapp

variable {plugin : List UInt16} {id : UInt16} {xapp xapp' : E42Xapp} {e : XappEvent}
  {out : List E42Msg} {h : History}

/-- How often the pending event of this type and id is in the map. -/
def entered (xapp : E42Xapp) (ev : PendingEventXapp) : Nat :=
  xapp.pending.pairs.countP fun p => eqPendingEventXapp p.2 ev

/-- The pending event that the answer being handled is about to remove. -/
def removing : Option AnswerStage → Option PendingEventXapp
  | some (.rmPending ev) => some ev
  | _ => none

/-- How many requests of this type and id are out. -/
def unanswered (xapp : E42Xapp) (ev : PendingEventXapp) : Nat :=
  xapp.inFlight.countP (fun msg => eqPendingEventXapp (pendingEvent msg) ev) +
    ((removing xapp.handling).any (eqPendingEventXapp · ev)).toNat

/-- Every request that is out has its pending event, but for those that their
    calls are still to add, and no event is there without its request, but for
    those that their calls are still to send. -/
def Balanced (xapp : E42Xapp) : Prop :=
  ∀ ev, xapp.entered ev + xapp.calls.countP (·.adds ev) =
    xapp.unanswered ev + xapp.calls.countP (·.sends ev)

/-- The pending event of this type that the search meets first has this id. -/
def OwnFirst (xapp : E42Xapp) (ev : PendingEventXapp) : Prop :=
  ∃ p ∈ xapp.pending.pairs, eqPendingEventXapp p.2 ev ∧ xapp.pending.right.find ev = some p.1

instance (xapp : E42Xapp) (ev : PendingEventXapp) : Decidable (xapp.OwnFirst ev) :=
  inferInstanceAs (Decidable (∃ p ∈ _, _))

/-- The condition on the events of a run. -/
def AnswerOrderly (xapp : E42Xapp) : XappEvent → Prop
  | .answer msg => ∃ entry ∈ xapp.actProc.entries, entry.1 = msg.ricId.ricReqId
  | .resumeAnswer => ∀ ev ∈ removing xapp.handling, xapp.OwnFirst ev
  | _ => True

instance (xapp : E42Xapp) : (e : XappEvent) → Decidable (AnswerOrderly xapp e)
  | .answer _ => inferInstanceAs (Decidable (∃ entry ∈ _, _))
  | .resumeAnswer => inferInstanceAs (Decidable (∀ ev ∈ removing xapp.handling, _))
  | .report .. | .rmReport _ | .control .. | .runCall .. => .isTrue trivial

/-- A pending event that is the only one of its type is met first. -/
theorem ownFirst_of_alone {ev : PendingEventXapp} {p : Fd × PendingEventXapp}
    (inverse : xapp.pending.Inverse) (mem : p ∈ xapp.pending.pairs)
    (own : eqPendingEventXapp p.2 ev)
    (alone : ∀ q ∈ xapp.pending.pairs, q.2.ev = ev.ev → q = p) : xapp.OwnFirst ev := by
  have type := (eqPendingEventXapp_iff.mp own).1
  obtain ⟨t, got, -⟩ := AssocRbTree.extract_unique (inverse.mem_right.mpr mem)
    (cmpPendingEventXapp_ties.mpr type.symm) fun q stored tied => by
      have same := cmpPendingEventXapp_ties.mp tied
      exact congrArg Prod.swap (alone q.swap (inverse.mem_right.mp stored) same.symm)
  exact ⟨p, mem, own, AssocRbTree.find_of_extract got⟩

/-- The entry of a request that is being answered is there, unless its call is
    still to add it. -/
theorem Balanced.entered_of_added {ev : PendingEventXapp} (balanced : Balanced xapp)
    (handling : xapp.handling = some (.rmPending ev)) (added : ∀ c ∈ xapp.calls, ¬c.adds ev) :
    ∃ p ∈ xapp.pending.pairs, eqPendingEventXapp p.2 ev := by
  have balance := balanced ev
  have none : xapp.calls.countP (·.adds ev) = 0 := List.countP_eq_zero.mpr added
  have self : eqPendingEventXapp ev ev := by simp
  simp only [unanswered, handling, removing, Option.any_some, self, Bool.toNat_true,
    none] at balance
  exact List.countP_pos_iff.mp (Nat.lt_of_lt_of_le Nat.one_pos (by rw [entered] at balance; omega))

theorem balanced_init : Balanced (initE42Xapp plugin id) := fun _ => rfl

/-- A call that begins is to add as much as it is to send. -/
theorem Balanced.enter {call : Call} (balanced : Balanced xapp)
    (even : ∀ ev, call.adds ev = call.sends ev) (pending : xapp'.pending = xapp.pending)
    (inFlight : xapp'.inFlight = xapp.inFlight) (handling : xapp'.handling = xapp.handling)
    (calls : xapp'.calls = xapp.calls ++ [call]) : Balanced xapp' := by
  intro ev
  have balance := balanced ev
  simp only [entered, unanswered, pending, inFlight, handling, calls, List.countP_append,
    List.countP_singleton, even ev] at balance ⊢
  omega

/-- What a section of a call does to the balance. -/
theorem Balanced.advance {i : Nat} {call : Call} {rest : Option Call} (balanced : Balanced xapp)
    (here : xapp.calls[i]? = some call) (calls : xapp'.calls = advance xapp.calls i rest)
    (even : ∀ ev, xapp'.entered ev + (call.sends ev).toNat + xapp.unanswered ev +
        rest.elim 0 (fun c => (c.adds ev).toNat) =
      xapp'.unanswered ev + (call.adds ev).toNat + xapp.entered ev +
        rest.elim 0 (fun c => (c.sends ev).toNat)) : Balanced xapp' := by
  intro ev
  have balance := balanced ev
  have adds := countP_advance here rest (·.adds ev)
  have sends := countP_advance here rest (·.sends ev)
  have even := even ev
  rw [calls]
  omega

/-- What an answer in order removes. -/
theorem OwnFirst.removed {ev : PendingEventXapp} {fd : Fd} {pending : PendingEventXappDs}
    (own : xapp.OwnFirst ev) (watched : Watched xapp)
    (removed : xapp.pending.extractRight ev = .ok (fd, pending)) :
    ∃ p ∈ xapp.pending.pairs, eqPendingEventXapp p.2 ev ∧ p.1 = fd ∧
      xapp.pending.pairs.Perm (p :: pending.pairs) := by
  obtain ⟨p, mem, same, first⟩ := own
  obtain ⟨b, -, perm, -⟩ := BiMap.extractRight_ok watched.inverse watched.distinct removed
  have stops := Option.some.inj (first.symm.trans (BiMap.find_right_of_extractRight removed))
  have taken : (fd, b) ∈ xapp.pending.pairs := perm.mem_iff.mpr List.mem_cons_self
  have whole : p = (fd, b) :=
    Comparator.eq_of_ties watched.distinct mem taken (cmpFd_ties.mpr stops)
  exact ⟨p, mem, same, stops, whole ▸ perm⟩

theorem eqPendingEventXapp_congr {m0 m1 : PendingEventXapp} (same : eqPendingEventXapp m0 m1)
    (ev : PendingEventXapp) : eqPendingEventXapp m0 ev = eqPendingEventXapp m1 ev := by
  obtain ⟨type, ricId⟩ := eqPendingEventXapp_iff.mp same
  rw [Bool.eq_iff_iff, eqPendingEventXapp_iff, eqPendingEventXapp_iff, type, ricId]

/-- A request that is answered is counted with the answer from now on. -/
theorem Balanced.answer {msg : E42Msg} {val : ActProcVal} {actProc : ActProc}
    (balanced : Balanced xapp) (filed : Filed xapp) (enabled : xapp.Enabled (.answer msg))
    (found : findActProc xapp.actProc msg.ricId.ricReqId.toUInt16 = .ok (some val, actProc)) :
    Balanced { xapp with
      actProc := actProc
      handling := some (.rmPending ⟨(pendingEvent msg).ev, val.id, 0⟩)
      inFlight := xapp.inFlight.erase msg } := by
  obtain ⟨-, it, stored, there, -, rfl⟩ := findActProc_some found
  have asked : msg ∈ xapp.requests := List.mem_append_right _ enabled.2
  have named := (filed.known msg asked).filled_id there (filed.toUInt16_toUInt32 asked)
  intro ev
  have balance := balanced ev
  have flown := countP_of_perm (List.perm_cons_erase enabled.2)
    fun msg => eqPendingEventXapp (pendingEvent msg) ev
  have own : eqPendingEventXapp (pendingEvent msg)
      ⟨(pendingEvent msg).ev, (stored.filled msg.ricId.ricReqId.toUInt16).id, 0⟩ := by
    rw [eqPendingEventXapp_iff, named]
    cases msg <;> exact ⟨rfl, rfl⟩
  have same := eqPendingEventXapp_congr own ev
  simp only [entered, unanswered, enabled.1, removing, Option.any_none, Option.any_some,
    Bool.toNat_false, same] at balance flown ⊢
  omega

/-- An answer in order takes out the entry that it is counted for. -/
theorem Balanced.rmPending {ev : PendingEventXapp} {fd : Fd} {pending : PendingEventXappDs}
    (balanced : Balanced xapp) (watched : Watched xapp) (own : xapp.OwnFirst ev)
    (here : xapp.handling = some (.rmPending ev))
    (removed : xapp.pending.extractRight ev = .ok (fd, pending)) :
    Balanced { xapp with pending := pending, handling := some (.rmFd fd) } := by
  obtain ⟨p, mem, same, rfl, perm⟩ := own.removed watched removed
  intro ev'
  have balance := balanced ev'
  have taken := countP_of_perm perm fun p => eqPendingEventXapp p.2 ev'
  have same := eqPendingEventXapp_congr same ev'
  simp only [entered, unanswered, here, removing, Option.any_none, Option.any_some,
    Bool.toNat_false] at balance ⊢
  rw [same] at taken
  omega

theorem balanced_step (filed : Filed xapp) (watched : Watched xapp) (balanced : Balanced xapp)
    (enabled : xapp.Enabled e) (orderly : AnswerOrderly xapp e) (step : Step xapp e xapp' out) :
    Balanced xapp' := by
  cases step with
  | report | rmReport | control =>
      exact balanced.enter (fun ev => by simp [Call.adds, Call.sends, sendsLast]) rfl rfl rfl rfl
  | @createTimer i opened msg here =>
      apply balanced.advance here rfl
      intro ev
      simp only [Option.elim, Call.adds, Call.sends, entered, unanswered]
      omega
  | @addPending i opened fd msg here =>
      apply balanced.advance here rfl
      intro ev
      have added := countP_of_perm (BiMap.pairs_insert xapp.pending fd (pendingEvent msg))
        fun p => eqPendingEventXapp p.2 ev
      cases msg <;>
        simp [Call.adds, Call.sends, entered, unanswered, sendsLast] at added ⊢ <;> omega
  | @send i opened msg here =>
      apply balanced.advance here rfl
      intro ev
      have sent := countP_of_perm (List.perm_append_singleton msg xapp.inFlight)
        fun msg => eqPendingEventXapp (pendingEvent msg) ev
      cases msg <;>
        simp [Call.adds, Call.sends, entered, unanswered, sendsLast] at sent ⊢ <;> omega
  | condWait here | blocked here | rmActProc here =>
      apply balanced.advance here rfl
      intro ev
      simp [Call.adds, Call.sends, entered, unanswered]
      omega
  | @msgAck i opened msg here =>
      apply balanced.advance here rfl
      intro ev
      cases msg <;> simp [Call.adds, Call.sends, entered, unanswered, sendsLast] <;> omega
  | answer found => exact balanced.answer filed enabled found
  | rmPending here removed =>
      exact balanced.rmPending watched (orderly _ (by rw [here]; rfl)) here removed
  | rmFd here | signal here =>
      intro ev
      have balance := balanced ev
      simp only [entered, unanswered, here, removing] at balance ⊢
      exact balance

theorem balanced_run (run : (machine plugin id).Run xapp h)
    (orderly : Machine.Meets AnswerOrderly h) : Balanced xapp := by
  induction run with
  | start => exact balanced_init
  | next run enabled moved ih =>
      obtain ⟨here, earlier⟩ := Machine.meets_cons.mp orderly
      exact balanced_step (filed_run run) (watched_run run) (ih earlier) enabled here
        (step_cases enabled moved)

/-- The stages that are part of the handler of a request. -/
def Handles : CallStage → Prop
  | .createTimer | .addPending _ | .send => True
  | .condWait | .blocked | .msgAck | .rmActProc => False

/-- The events that are part of a handler, of a request or of an answer. -/
def HandlerEvent (xapp : E42Xapp) : XappEvent → Prop
  | .runCall i _ => ∃ call ∈ xapp.calls[i]?, Handles call.stage
  | .answer _ | .resumeAnswer => True
  | .report .. | .rmReport _ | .control .. => False

/-- What the next section of a call does to the timers and pending events. -/
def Arms (xapp xapp' : E42Xapp) (opened : Fd) (call : Call) : Prop :=
  match call.stage with
  | .createTimer => xapp'.timers = opened :: xapp.timers ∧ xapp'.pending = xapp.pending
  | .addPending fd => xapp'.timers = xapp.timers ∧
      xapp'.pending.pairs.Perm ((fd, pendingEvent call.msg) :: xapp.pending.pairs)
  | _ => xapp'.timers = xapp.timers ∧ xapp'.pending = xapp.pending

/-- What the next section of an answer does to them: it takes out one pending
    event, of the type and id that are answered, and then stops its timer. -/
def Disarms (xapp xapp' : E42Xapp) : AnswerStage → Prop
  | .rmPending ev => xapp'.timers = xapp.timers ∧ ∃ p ∈ xapp.pending.pairs,
      eqPendingEventXapp p.2 ev ∧ xapp.pending.pairs.Perm (p :: xapp'.pending.pairs) ∧
      xapp'.handling = some (.rmFd p.1)
  | .rmFd fd => xapp.timers.Perm (fd :: xapp'.timers) ∧ xapp'.pending = xapp.pending
  | .signal => xapp'.timers = xapp.timers ∧ xapp'.pending = xapp.pending

/-- What the handlers are for. -/
def Serves (xapp xapp' : E42Xapp) : XappEvent → Prop
  | .runCall i opened => ∀ call ∈ xapp.calls[i]?, Arms xapp xapp' opened call
  | .answer msg => xapp'.timers = xapp.timers ∧ xapp'.pending = xapp.pending ∧
      ∃ ev, xapp'.handling = some (.rmPending ev) ∧ eqPendingEventXapp (pendingEvent msg) ev
  | .resumeAnswer => ∀ stage ∈ xapp.handling, Disarms xapp xapp' stage
  | .report .. | .rmReport _ | .control .. => True

theorem runCall_ok (watched : Watched xapp) {i : Nat} {opened : Fd}
    (handler : xapp.HandlerEvent (.runCall i opened)) :
    ∃ xapp' out, xapp.step (.runCall i opened) = .ok (xapp', out) ∧
      xapp.Serves xapp' (.runCall i opened) := by
  obtain ⟨⟨msg, stage⟩, here, handles⟩ := handler
  have here : xapp.calls[i]? = some ⟨msg, stage⟩ := here
  simp only [step, runCall, Serves, here, Option.mem_def, Option.some.injEq, forall_eq']
  cases stage with
  | createTimer =>
      have wait : 0 < (pendingEvent msg).waitMs := by cases msg <;> simp [pendingEvent]
      simp only [callSection, check_pass _ wait, ok_bind]
      exact ⟨_, _, rfl, rfl, rfl⟩
  | addPending fd =>
      have held : 0 < xapp.calls.countP (·.holds fd) :=
        List.countP_pos_iff.mpr ⟨_, List.mem_of_getElem? here, by simp [Call.holds]⟩
      have accounted := watched.accounted fd
      have armed : fd ∈ xapp.timers := List.count_pos_iff.mp (by omega)
      have pos : 0 < fd := Nat.pos_of_ne_zero fun zero => watched.positive (zero ▸ armed)
      simp only [callSection, addPendingEvent, check_pass _ pos, ok_bind, pure_bind]
      exact ⟨_, _, rfl, rfl, BiMap.pairs_insert _ _ _⟩
  | send => exact ⟨_, _, rfl, rfl, rfl⟩
  | _ => exact handles.elim

theorem answer_iff (filed : Filed xapp) {msg : E42Msg} (enabled : xapp.Enabled (.answer msg)) :
    (∃ xapp' out, xapp.step (.answer msg) = .ok (xapp', out) ∧ xapp.Serves xapp' (.answer msg)) ↔
      AnswerOrderly xapp (.answer msg) := by
  have asked : msg ∈ xapp.requests := List.mem_append_right _ enabled.2
  have known := filed.known msg asked
  have same := filed.toUInt16_toUInt32 asked
  have positive : 0 < msg.ricId.ricReqId.toUInt16 := by
    have given := known.given.1
    rw [← same] at given
    exact UInt16.lt_iff_toNat_lt.mpr (by simpa using given)
  have registered := findActProc_ok filed.ordered filed.short positive
  rw [same] at registered
  rw [AnswerOrderly, ← registered]
  constructor
  · rintro ⟨xapp', out, moved, -⟩
    cases step_cases enabled moved with
    | answer found => exact ⟨_, _, found⟩
  · intro known
    obtain ⟨val, actProc, found⟩ := known
    obtain ⟨-, it, stored, there, -, rfl⟩ := findActProc_some found
    have named := known.filled_id there same
    simp only [step, e2apMsgHandleXapp_eq, handleAnswer, found, ok_bind, pure_bind]
    refine ⟨_, _, rfl, rfl, rfl, _, rfl, eqPendingEventXapp_iff.mpr ⟨rfl, ?_⟩⟩
    rw [named]
    cases msg <;> rfl

theorem rmPendingEventEv_ok (watched : Watched xapp) {ev : PendingEventXapp}
    (own : xapp.OwnFirst ev) :
    ∃ fd pending, rmPendingEventEv xapp.pending ev = .ok (fd, pending) ∧
      xapp.pending.extractRight ev = .ok (fd, pending) := by
  cases removed : xapp.pending.extractRight ev with
  | error e =>
      obtain ⟨p, mem, same, -⟩ := own
      obtain ⟨-, missing⟩ := (BiMap.extractRight_error watched.inverse watched.distinct).mp removed
      have type := (eqPendingEventXapp_iff.mp same).1
      exact absurd (cmpPendingEventXapp_ties.mpr type.symm) (missing p mem)
  | ok got =>
      obtain ⟨fd, pending⟩ := got
      obtain ⟨p, mem, same, rfl, perm⟩ := own.removed watched removed
      obtain ⟨_, -, -, inverse⟩ :=
        BiMap.extractRight_ok watched.inverse watched.distinct removed
      have pos : 0 < p.1 :=
        Nat.pos_of_ne_zero fun zero => watched.positive (zero ▸ watched.mem_timers mem)
      have one : xapp.pending.pairs.length = pending.pairs.length + 1 := perm.length_eq
      refine ⟨p.1, pending, ?_, rfl⟩
      simp only [rmPendingEventEv, watched.inverse.size_ok, removed, inverse.size_ok, ok_bind,
        check_pass _ one, check_pass _ pos]
      rfl

theorem resumeAnswer_iff (watched : Watched xapp) (enabled : xapp.Enabled .resumeAnswer) :
    (∃ xapp' out, xapp.step .resumeAnswer = .ok (xapp', out) ∧ xapp.Serves xapp' .resumeAnswer) ↔
      AnswerOrderly xapp .resumeAnswer := by
  obtain ⟨stage, here⟩ := Option.isSome_iff_exists.mp enabled
  simp only [Serves, AnswerOrderly, here, Option.mem_def, Option.some.injEq, forall_eq']
  cases stage with
  | rmPending ev =>
      simp only [removing, Option.some.injEq, forall_eq']
      constructor
      · rintro ⟨xapp', out, moved, -, p, mem, same, -, stops⟩
        cases step_cases enabled moved with
        | rmPending at_ removed =>
            cases here.symm.trans at_
            cases stops
            exact ⟨p, mem, same, BiMap.find_right_of_extractRight removed⟩
        | rmFd at_ => cases here.symm.trans at_
        | signal at_ => cases here.symm.trans at_
      · intro own
        obtain ⟨fd, pending, done, removed⟩ := rmPendingEventEv_ok watched own
        obtain ⟨p, mem, same, rfl, perm⟩ := own.removed watched removed
        refine ⟨{ xapp with pending := pending, handling := some (.rmFd p.1) }, [], ?_, rfl, p, mem,
          same, perm, rfl⟩
        simp only [step, here, answerSection, done, ok_bind, pure_bind]
        rfl
  | rmFd fd =>
      have accounted := watched.accounted fd
      rw [here, stops_rmFd, beq_self_eq_true, Bool.toNat_true] at accounted
      have armed : fd ∈ xapp.timers := List.count_pos_iff.mp (by omega)
      refine iff_of_true ⟨{ xapp with timers := xapp.timers.erase fd, handling := some .signal },
        [], ?_, List.perm_cons_erase armed, rfl⟩ fun ev removes => by cases removes
      simp only [step, here, answerSection, rmFdAsioXapp, check_pass _ armed, ok_bind, pure_bind]
      rfl
  | signal =>
      refine iff_of_true ⟨{ xapp with sync := ⟨true, true⟩, handling := none }, [], ?_, rfl, rfl⟩
        fun ev removes => by cases removes
      simp only [step, here]
      rfl

theorem handler_iff (filed : Filed xapp) (watched : Watched xapp) (enabled : xapp.Enabled e)
    (handler : xapp.HandlerEvent e) :
    (∃ xapp' out, xapp.step e = .ok (xapp', out) ∧ xapp.Serves xapp' e) ↔
      AnswerOrderly xapp e := by
  cases e with
  | runCall i opened => exact iff_of_true (runCall_ok watched handler) trivial
  | answer msg => exact answer_iff filed enabled
  | resumeAnswer => exact resumeAnswer_iff watched enabled
  | _ => exact handler.elim

/-- An answer is in order when its call has added the pending event and no other
    request of its type is pending. -/
theorem Balanced.ownFirst (balanced : Balanced xapp) (watched : Watched xapp)
    {ev : PendingEventXapp} (handling : xapp.handling = some (.rmPending ev))
    (added : ∀ c ∈ xapp.calls, ¬c.adds ev)
    (alone : ∀ p ∈ xapp.pending.pairs, ∀ q ∈ xapp.pending.pairs,
      p.2.ev = ev.ev → q.2.ev = ev.ev → p = q) : xapp.OwnFirst ev := by
  obtain ⟨p, mem, own⟩ := balanced.entered_of_added handling added
  apply ownFirst_of_alone watched.inverse mem own
  intro q stored type
  exact alone q stored p mem type (eqPendingEventXapp_iff.mp own).1

/-- Along every run whose answers are in order, every request that is out has its
    pending event, under a timer of its own, but for those that their calls are
    still to add. The next section of a handler goes through, and adds or removes
    what belongs to its own request and nothing else, if and only if it is in
    order too; and so it is when its call has added the pending event and no other
    request of its type is pending. -/
theorem pending_requests_iff (run : (machine plugin id).Run xapp h)
    (orderly : Machine.Meets AnswerOrderly h) :
    Balanced xapp ∧ xapp.pending.firsts.Nodup ∧ (∀ p ∈ xapp.pending.pairs, p.1 ∈ xapp.timers) ∧
      (∀ e, xapp.Enabled e → xapp.HandlerEvent e →
        ((∃ xapp' out, xapp.step e = .ok (xapp', out) ∧ xapp.Serves xapp' e) ↔
          AnswerOrderly xapp e)) ∧
      ∀ ev, xapp.handling = some (.rmPending ev) → (∀ c ∈ xapp.calls, ¬c.adds ev) →
        (∀ p ∈ xapp.pending.pairs, ∀ q ∈ xapp.pending.pairs,
          p.2.ev = ev.ev → q.2.ev = ev.ev → p = q) → AnswerOrderly xapp .resumeAnswer := by
  have watched := watched_run run
  have balanced := balanced_run run orderly
  refine ⟨balanced, watched.firsts_nodup, fun _ => watched.mem_timers,
    fun e => handler_iff (filed_run run) watched, fun ev handling added alone ev' same => ?_⟩
  rw [handling] at same
  cases same
  exact balanced.ownFirst watched handling added alone

/-- A control whose answer comes when the pending event is there. -/
def controlled : List XappEvent :=
  [.control node 3, .runCall 0 5, .runCall 0 5, .runCall 0 5, .answer (controlRequest 1)]

theorem pending_requests_iff_controlled :
    ∃ xapp' out, ((machine [2, 3] 7).replay controlled).1.step .resumeAnswer = .ok (xapp', out) ∧
      ((machine [2, 3] 7).replay controlled).1.Serves xapp' .resumeAnswer :=
  ((pending_requests_iff ((machine [2, 3] 7).run_replay controlled) (by decide +kernel)).2.2.2.1
    .resumeAnswer (by decide +kernel) trivial).mpr (by decide +kernel)

/-- A control whose answer comes before the pending event is there. -/
def controlledEarly : List XappEvent :=
  [.control node 3, .runCall 0 5, .answer (controlRequest 1)]

/-- Two subscriptions, of which the second is answered. -/
def subscribedTwice : List XappEvent :=
  [.report node 2 0, .runCall 0 5, .runCall 0 5, .runCall 0 5,
    .report node 2 0, .runCall 1 6, .runCall 1 6, .runCall 1 6, .answer (subscriptionRequest 2)]

/-- The early answer finds nothing to remove, and the answer to the second
    subscription removes the first one's pending event. -/
theorem pending_requests_not_tracked :
    (¬∀ (plugin : List UInt16) (id : UInt16) (xapp : E42Xapp) (h : History),
      (machine plugin id).Run xapp h → ∀ e, xapp.Enabled e → xapp.HandlerEvent e →
        ∃ xapp' out, xapp.step e = .ok (xapp', out)) ∧
    ¬∀ (plugin : List UInt16) (id : UInt16) (xapp : E42Xapp) (h : History),
      (machine plugin id).Run xapp h → ∀ e xapp' out, xapp.Enabled e → xapp.HandlerEvent e →
        xapp.step e = .ok (xapp', out) → xapp.Serves xapp' e := by
  constructor
  · intro goes
    have fails : (machine [2, 3] 7).failure ((machine [2, 3] 7).replay controlledEarly).1
        .resumeAnswer = some keyNotInTree := by decide +kernel
    obtain ⟨_, _, moved⟩ := goes [2, 3] 7 _ _ ((machine [2, 3] 7).run_replay controlledEarly)
      .resumeAnswer (by decide +kernel) trivial
    cases moved.symm.trans (Machine.failure_eq_some.mp fails)
  · intro serves
    have run := (machine [2, 3] 7).run_replay subscribedTwice
    have goes : (machine [2, 3] 7).failure ((machine [2, 3] 7).replay subscribedTwice).1
        .resumeAnswer = none := by decide +kernel
    cases moved : ((machine [2, 3] 7).replay subscribedTwice).1.step .resumeAnswer with
    | error e =>
        cases goes.symm.trans (Machine.failure_eq_some.mpr moved)
    | ok got =>
        have served := serves [2, 3] 7 _ _ run .resumeAnswer _ _ (by decide +kernel) trivial moved
        have ordered :=
          (resumeAnswer_iff (watched_run run) (by decide +kernel)).mp ⟨_, _, moved, served⟩
        exact absurd ordered (by decide +kernel)

end E42Xapp

end FlexRic
