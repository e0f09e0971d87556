import FlexRic.Ric.Routing

/-! # What a task has in hand

A task keeps the copy of the entry that it looked up, and goes on with it when
another task has removed the entry meanwhile. So no entry is used after its
removal exactly where whoever removes it is the last one to need it.
-/

namespace FlexRic

open Assertion

/-- The messages after which a request is over. -/
def RicMsg.closes : RicMsg → Bool
  | .subscriptionDeleteResponse _ | .controlAcknowledge _ => true
  | .subscriptionResponse _ | .indication _ => false

theorem removes_eq (msg : RicMsg) : (e2apMsgHandleIapp msg).removes = msg.closes := by
  cases msg <;> rfl

/-- The entry that the task goes on with is in the map. -/
def Task.Current (map : MapRicId) : Task → Prop
  | .forward msg x => ∃ p ∈ map.pairs, p.2 = x ∧
      p.1.ricId.ricReqId = msg.ricId.ricReqId.toUInt16.toUInt32
  | .remove x => ∃ p ∈ map.pairs, p.2 = x
  | _ => True

/-- The task cannot go on without this entry. -/
def Task.Needs (map : MapRicId) (n : E2NodeRicId) (x : XappRicId) : Task → Prop
  | .forward msg y => y = x ∧ n.ricId.ricReqId = msg.ricId.ricReqId.toUInt16.toUInt32
  | .remove y => y = x ∧ ∀ p ∈ map.pairs, p.2 = x → p.1 = n
  | _ => False

instance (map : MapRicId) (n : E2NodeRicId) (x : XappRicId) :
    (t : Task) → Decidable (t.Needs map n x)
  | .forward _ _ => inferInstanceAs (Decidable (_ ∧ _))
  | .remove _ => inferInstanceAs (Decidable (_ ∧ ∀ p ∈ _, _ → _))
  | .regSockAddr .. | .addE2Node .. | .connectE2Node .. | .handle _ | .lookUp _ => .isFalse id

/-- Where the task removes an entry, none of the others needs it. -/
def Task.LastToNeed (map : MapRicId) (others : List Task) : Task → Prop
  | .remove x => ∀ n ∈ map.right.find x, ∀ t ∈ others, ¬t.Needs map n x
  | _ => True

instance (map : MapRicId) (others : List Task) : (t : Task) → Decidable (t.LastToNeed map others)
  | .remove x => inferInstanceAs (Decidable (∀ n ∈ map.right.find x, ∀ t ∈ others, ¬_))
  | .regSockAddr .. | .addE2Node .. | .connectE2Node .. | .handle _ | .lookUp _ | .forward .. =>
      .isTrue trivial

namespace MapRicId

variable {map map' : MapRicId} {n : E2NodeRicId} {x : XappRicId} {t : Task}

/-- The entry that goes is the one that the search of the right tree meets. -/
theorem Consistent.rm_find (consistent : map.Consistent) (removed : rmMapRicId map x = .ok map') :
    ∃ n, map.right.find x = some n ∧ map.pairs.Perm ((n, x) :: map'.pairs) := by
  simp only [rmMapRicId, bind_eq_ok, Prod.exists, pure_eq_ok] at removed
  obtain ⟨n, _, got, rfl⟩ := removed
  obtain ⟨y, ties, perm, -⟩ := BiMap.extractRight_ok consistent.inverse consistent.distinct got
  cases cmpXappRicGenId_ties.mp ties
  exact ⟨n, BiMap.find_right_of_extractRight got, perm⟩

/-- A removal fails only for want of an entry. -/
theorem Consistent.rm_iff (consistent : map.Consistent) :
    (∃ map', rmMapRicId map x = .ok map') ↔ ∃ p ∈ map.pairs, p.2 = x := by
  cases removed : map.extractRight x with
  | error e =>
      obtain ⟨-, missing⟩ :=
        (BiMap.extractRight_error consistent.inverse consistent.distinct).mp removed
      simp only [rmMapRicId, removed, error_bind, reduceCtorEq, exists_false, false_iff]
      rintro ⟨p, mem, same⟩
      exact missing p mem (cmpXappRicGenId_ties.mpr same.symm)
  | ok got =>
      obtain ⟨n, map'⟩ := got
      obtain ⟨y, ties, perm, -⟩ :=
        BiMap.extractRight_ok consistent.inverse consistent.distinct removed
      cases cmpXappRicGenId_ties.mp ties
      simp only [rmMapRicId, removed, ok_bind]
      exact iff_of_true ⟨map', rfl⟩ ⟨(n, x), perm.mem_iff.mpr List.mem_cons_self, rfl⟩

/-- The id of the entry that goes belongs to no entry that stays. -/
theorem Consistent.gone (consistent : map.Consistent) (perm : map.pairs.Perm ((n, x) :: map'.pairs))
    {p : E2NodeRicId × XappRicId} (mem : p ∈ map'.pairs) :
    p.1.ricId.ricReqId ≠ n.ricId.ricReqId := by
  intro same
  have apart := (AssocRbTree.distinct_of_perm perm).mp consistent.distinct
  exact (List.pairwise_cons.mp apart).1 p mem (cmpE2NodeRicReq_ties.mpr same.symm)

/-- What a task goes on with survives a removal exactly if the task does not
    need the entry that goes. -/
theorem current_removed (consistent : map.Consistent)
    (perm : map.pairs.Perm ((n, x) :: map'.pairs)) (was : t.Current map) :
    t.Current map' ↔ ¬t.Needs map n x := by
  have stays {p : E2NodeRicId × XappRicId} (mem : p ∈ map.pairs) (other : p ≠ (n, x)) :
      p ∈ map'.pairs :=
    (List.mem_cons.mp (perm.mem_iff.mp mem)).resolve_left other
  have old {p : E2NodeRicId × XappRicId} (mem : p ∈ map'.pairs) : p ∈ map.pairs :=
    perm.mem_iff.mpr (List.mem_cons_of_mem _ mem)
  cases t with
  | forward msg y =>
      constructor
      · rintro ⟨p, mem, -, key⟩ ⟨-, key'⟩
        exact consistent.gone perm mem (key.trans key'.symm)
      · intro needless
        obtain ⟨p, mem, rfl, key⟩ := was
        refine ⟨p, stays mem ?_, rfl, key⟩
        rintro rfl
        exact needless ⟨rfl, key⟩
  | remove y =>
      constructor
      · rintro ⟨p, mem, same⟩ ⟨rfl, only⟩
        exact consistent.gone perm mem (congrArg (·.ricId.ricReqId) (only p (old mem) same))
      · intro needless
        obtain ⟨p, mem, rfl⟩ := was
        by_cases here : p = (n, x)
        · subst here
          by_contra alone
          refine needless ⟨rfl, ?_⟩
          intro q mem' same
          by_contra other
          exact alone ⟨q, stays mem' fun eq => other (congrArg Prod.fst eq), same⟩
        · exact ⟨p, stays mem here, rfl⟩
  | _ => exact iff_of_true trivial id

end MapRicId

theorem Task.Current.mono {map map' : MapRicId} {t : Task} (current : t.Current map)
    (kept : ∀ p ∈ map.pairs, p ∈ map'.pairs) : t.Current map' := by
  cases t with
  | forward msg x =>
      obtain ⟨p, mem, same⟩ := current
      exact ⟨p, kept p mem, same⟩
  | remove x =>
      obtain ⟨p, mem, same⟩ := current
      exact ⟨p, kept p mem, same⟩
  | _ => trivial

namespace Ric

variable {plugin : List UInt16} {s s' : Ric} {h : History} {e : RicEvent} {out : List Sent}
  {i : Nat} {msg : RicMsg} {x : XappRicId}

/-- The section that the event runs uses no entry that is not in the map. -/
def UsesCurrent (s : Ric) : RicEvent → Prop
  | .runTask i => ∀ t ∈ s.tasks[i]?, t.Current s.iapp.mapRicId
  | _ => True

/-- The condition: no other task needs the entry that the section removes. -/
def RemovesLast (s : Ric) : RicEvent → Prop
  | .runTask i => ∀ t ∈ s.tasks[i]?, t.LastToNeed s.iapp.mapRicId (advance s.tasks i none)
  | _ => True

instance (s : Ric) : (e : RicEvent) → Decidable (RemovesLast s e)
  | .runTask i => inferInstanceAs (Decidable (∀ t ∈ s.tasks[i]?, _))
  | .setupRequest .. | .ricMsg .. | .nodeShutdown .. | .resumeShutdown | .timerFires .. |
    .e42Setup .. | .e42Subscription .. | .e42Control .. | .e42Delete .. | .xappShutdown .. |
    .forwardDelete .. => .isTrue trivial

def AllCurrent (s : Ric) : Prop := ∀ t ∈ s.tasks, t.Current s.iapp.mapRicId

theorem allCurrent_iff : (∀ e, s.Enabled e → UsesCurrent s e) ↔ AllCurrent s := by
  constructor
  · intro uses t mem
    obtain ⟨i, bound, rfl⟩ := List.mem_iff_getElem.mp mem
    exact uses (.runTask i) bound _ (List.getElem?_eq_getElem bound)
  · intro all e _
    cases e with
    | runTask i => exact fun t found => all t (List.mem_of_getElem? found)
    | _ => trivial

theorem Step.removal (step : Step s (.runTask i) s' out)
    (task : s.tasks[i]? = some (.remove x)) :
    rmMapRicId s.iapp.mapRicId x = .ok s'.iapp.mapRicId ∧
      s'.tasks = advance s.tasks i none := by
  cases step with
  | remove task' removed =>
      cases Option.mem_unique task task'
      exact ⟨removed, rfl⟩
  | regSockAddr task' | addE2Node task' | connectE2Node task' | handle task' | lookUp task'
  | forward task' => cases Option.mem_unique task task'

/-- Only the section of a removal takes an entry out of the map. -/
theorem Step.mapped_kept (step : Step s e s' out)
    (other : ¬∃ i x, e = .runTask i ∧ s.tasks[i]? = some (.remove x)) :
    ∀ p ∈ s.iapp.mapRicId.pairs, p ∈ s'.iapp.mapRicId.pairs := by
  intro p mem
  cases step with
  | remove task _ => exact absurd ⟨_, _, rfl, task⟩ other
  | e42Subscription done | e42Control done =>
      cases done with
      | mk _ _ _ added => exact (MapRicId.mem_add added).mpr (.inr mem)
  | handle task handled =>
      obtain ⟨_, _, rfl⟩ := e2apMsgHandleRic_frame handled
      exact mem
  | disconnect leaving removed =>
      obtain ⟨-, rfl⟩ := disconnectE2Node_ok removed
      exact mem
  | forwardDelete next forwarded =>
      rcases fwdRicSubscriptionRequestDelete_ok forwarded with ⟨rfl, -⟩ | ⟨rfl, -⟩ <;> exact mem
  | _ => exact mem

/-- A task that goes on with an entry has just found it, or was there before. -/
theorem Step.current_before (step : Step s e s' out) (all : AllCurrent s) {t : Task}
    (mem : t ∈ s'.tasks) : t.Current s.iapp.mapRicId := by
  rcases step.task_origin mem with old | new
  · exact all t old
  · cases t with
    | forward msg x =>
        obtain ⟨_, found⟩ := new
        obtain ⟨⟨n, stored, key⟩, -⟩ := lookUp_ok found
        exact ⟨(n, x), stored, rfl, key⟩
    | remove x =>
        obtain ⟨msg, task, -⟩ := new
        obtain ⟨p, stored, same, -⟩ := all _ task
        exact ⟨p, stored, same⟩
    | _ => trivial

/-- One step keeps what every task goes on with in the map if and only if it
    meets the condition. -/
theorem allCurrent_step_iff (consistent : s.iapp.mapRicId.Consistent) (all : AllCurrent s)
    (step : Step s e s' out) : AllCurrent s' ↔ RemovesLast s e := by
  by_cases removal : ∃ i x, e = .runTask i ∧ s.tasks[i]? = some (.remove x)
  · obtain ⟨i, x, rfl, task⟩ := removal
    obtain ⟨removed, rest⟩ := step.removal task
    obtain ⟨n, found, perm⟩ := consistent.rm_find removed
    have last : RemovesLast s (.runTask i) ↔
        ∀ t ∈ s'.tasks, ¬t.Needs s.iapp.mapRicId n x := by
      simp only [RemovesLast, task, Option.mem_some_iff, forall_eq', Task.LastToNeed, found, rest]
    rw [last]
    exact forall₂_congr fun t mem =>
      MapRicId.current_removed consistent perm (step.current_before all mem)
  · refine iff_of_true ?_ ?_
    · exact fun t mem => (step.current_before all mem).mono (step.mapped_kept removal)
    · cases e with
      | runTask i =>
          intro t found
          cases t with
          | remove x => exact absurd ⟨i, x, rfl, found⟩ removal
          | _ => trivial
      | _ => trivial

/-- Along a whole run. -/
theorem allCurrent_run_iff (run : (machine plugin).Run s h) :
    ((∀ entry ∈ h, AllCurrent entry.after) ↔ Machine.Meets RemovesLast h) ∧
      ((∀ entry ∈ h, AllCurrent entry.after) → AllCurrent s) := by
  induction run with
  | start =>
      refine ⟨iff_of_true (by simp) (by simp [Machine.Meets]), fun _ t mem => ?_⟩
      simp [machine, initRic] at mem
  | next run enabled moved ih =>
      refine ⟨?_, fun all => all _ List.mem_cons_self⟩
      rw [Machine.meets_cons, List.forall_mem_cons, ← ih.1]
      exact and_congr_left fun earlier => allCurrent_step_iff (routed_run run).consistent
        (ih.2 earlier) (step_cases enabled moved)

/-- The next section of a task: a message about a stored id goes on under the
    xApp's request if it is about the same RAN function and instance; it goes out to
    the address of the xApp, and if it closes the request the entry is removed next;
    and the removal takes the entry out. -/
def Serves (h : History) (s : Ric) (i : Nat) : Task → Prop
  | .lookUp msg => ∀ p ∈ s.iapp.mapRicId.pairs,
      p.1.ricId.ricReqId = msg.ricId.ricReqId.toUInt16.toUInt32 →
      ((∃ s' out, s.step (.runTask i) = .ok (s', out)) ↔ 0 < msg.ricId.ricReqId.toUInt16 ∧
        msg.ricId.ranFuncId = p.2.ricId.ranFuncId ∧
        msg.ricId.ricInstId = p.2.ricId.ricInstId) ∧
      ∀ s' out, s.step (.runTask i) = .ok (s', out) →
        s' = { s with tasks := advance s.tasks i (some (.forward msg p.2)) } ∧ out = []
  | .forward msg x =>
      ((∃ s' out, s.step (.runTask i) = .ok (s', out)) ↔
        ∃ info, (x.xappId, info) ∈ registrations h) ∧
      ∀ s' out, s.step (.runTask i) = .ok (s', out) →
        (∃ info, (x.xappId, info) ∈ registrations h ∧
          out = [.toXapp info (.ricMsg (withRicId x.ricId msg))]) ∧
        s'.tasks = advance s.tasks i (if msg.closes then some (.remove x) else none)
  | .remove x =>
      ((∃ s' out, s.step (.runTask i) = .ok (s', out)) ↔
        (Task.remove x).Current s.iapp.mapRicId) ∧
      ∀ s' out, s.step (.runTask i) = .ok (s', out) → s'.tasks = advance s.tasks i none ∧
        ∃ n, s.iapp.mapRicId.pairs.Perm ((n, x) :: s'.iapp.mapRicId.pairs) ∧
          ¬∃ p ∈ s'.iapp.mapRicId.pairs, p.1.ricId.ricReqId = n.ricId.ricReqId
  | _ => True

/-- The section of the event is that of the task. -/
theorem step_runTask_iff {t : Task} (task : s.tasks[i]? = some t) :
    s.step (.runTask i) = .ok (s', out) ↔ ∃ ric iapp rest, runTask s.ric s.iapp t =
      .ok (ric, iapp, rest, out) ∧
      s' = { s with ric := ric, iapp := iapp, tasks := advance s.tasks i rest } := by
  simp only [step, task, bind_eq_ok, Prod.exists, pure_eq_ok, Prod.mk.injEq]
  constructor
  · rintro ⟨ric, iapp, rest, _, ran, rfl, rfl⟩
    exact ⟨ric, iapp, rest, ran, rfl⟩
  · rintro ⟨ric, iapp, rest, ran, rfl⟩
    exact ⟨ric, iapp, rest, out, ran, rfl, rfl⟩

theorem lookUp_mapped {iapp : E42Iapp} (consistent : iapp.mapRicId.Consistent)
    {p : E2NodeRicId × XappRicId} (mem : p ∈ iapp.mapRicId.pairs)
    (key : p.1.ricId.ricReqId = msg.ricId.ricReqId.toUInt16.toUInt32) {found : Option XappRicId} :
    FlexRic.lookUp iapp msg = .ok found ↔ found = some p.2 ∧ 0 < msg.ricId.ricReqId.toUInt16 ∧
      msg.ricId.ranFuncId = p.2.ricId.ranFuncId ∧ msg.ricId.ricInstId = p.2.ricId.ricInstId := by
  have hit : (iapp.mapRicId.left.findIf fun n =>
      eqE2NodeRicReq n.ricId ⟨msg.ricId.ricReqId.toUInt16.toUInt32, 0, 0⟩) = some p := by
    cases got : iapp.mapRicId.left.findIf fun n =>
        eqE2NodeRicReq n.ricId ⟨msg.ricId.ricReqId.toUInt16.toUInt32, 0, 0⟩ with
    | none => exact absurd (decide_eq_true key) (AssocRbTree.findIf_none.mp got p mem)
    | some q =>
        obtain ⟨mem', same⟩ := AssocRbTree.findIf_some got
        obtain ⟨first, second⟩ :=
          consistent.eq_of_id mem' mem ((of_decide_eq_true same).trans key.symm)
        exact congrArg some (Prod.ext first second)
  simp only [FlexRic.lookUp, findXappMapRicId, hit, Option.map_some, bind_eq_ok, check_eq_ok,
    pure_eq_ok]
  constructor
  · intro looked
    obtain ⟨_, ⟨_, pos, rfl⟩, looked⟩ := looked
    simp only [bind_eq_ok, check_eq_ok, pure_eq_ok] at looked
    obtain ⟨_, func, _, inst, rfl⟩ := looked
    exact ⟨rfl, pos, func, inst⟩
  · rintro ⟨rfl, pos, func, inst⟩
    refine ⟨_, ⟨(), pos, rfl⟩, ?_⟩
    simp only [bind_eq_ok, check_eq_ok, pure_eq_ok]
    exact ⟨(), func, (), inst, trivial⟩

/-- The three sections of a handler, one by one. -/
theorem step_lookUp_iff (consistent : s.iapp.mapRicId.Consistent)
    (task : s.tasks[i]? = some (.lookUp msg)) {p : E2NodeRicId × XappRicId}
    (mem : p ∈ s.iapp.mapRicId.pairs)
    (key : p.1.ricId.ricReqId = msg.ricId.ricReqId.toUInt16.toUInt32) :
    s.step (.runTask i) = .ok (s', out) ↔
      (0 < msg.ricId.ricReqId.toUInt16 ∧ msg.ricId.ranFuncId = p.2.ricId.ranFuncId ∧
        msg.ricId.ricInstId = p.2.ricId.ricInstId) ∧
      s' = { s with tasks := advance s.tasks i (some (.forward msg p.2)) } ∧ out = [] := by
  simp only [step_runTask_iff task, runTask, bind_eq_ok, pure_eq_ok, Prod.mk.injEq,
    lookUp_mapped consistent mem key]
  constructor
  · rintro ⟨_, _, _, ⟨_, ⟨rfl, ids⟩, rfl, rfl, rfl, rfl⟩, rfl⟩
    exact ⟨ids, rfl, rfl⟩
  · rintro ⟨ids, rfl, rfl⟩
    exact ⟨_, _, _, ⟨_, ⟨rfl, ids⟩, rfl, rfl, rfl, rfl⟩, rfl⟩

theorem step_forward_iff {x : XappRicId} (task : s.tasks[i]? = some (.forward msg x)) :
    s.step (.runTask i) = .ok (s', out) ↔
      ∃ info, findMapXappsSad s.iapp.xapps x.xappId = .ok info ∧
        s' = { s with
          tasks := advance s.tasks i (if msg.closes then some (.remove x) else none) } ∧
        out = [.toXapp info (.ricMsg ((e2apMsgHandleIapp msg).ans x))] := by
  simp only [step_runTask_iff task, runTask, FlexRic.forward, bind_eq_ok, pure_eq_ok,
    Prod.mk.injEq, removes_eq]
  constructor
  · rintro ⟨_, _, _, ⟨_, ⟨info, addressed, rfl⟩, rfl, rfl, rfl, rfl⟩, rfl⟩
    exact ⟨info, addressed, rfl, rfl⟩
  · rintro ⟨info, addressed, rfl, rfl⟩
    exact ⟨_, _, _, ⟨_, ⟨info, addressed, rfl⟩, rfl, rfl, rfl, rfl⟩, rfl⟩

theorem step_remove_iff {x : XappRicId} (task : s.tasks[i]? = some (.remove x)) :
    s.step (.runTask i) = .ok (s', out) ↔
      ∃ map, rmMapRicId s.iapp.mapRicId x = .ok map ∧
        s' = { s with
          iapp := { s.iapp with mapRicId := map }
          tasks := advance s.tasks i none } ∧
        out = [] := by
  simp only [step_runTask_iff task, runTask, FlexRic.remove, bind_eq_ok, pure_eq_ok,
    Prod.mk.injEq]
  constructor
  · rintro ⟨_, _, _, ⟨_, ⟨map, removed, rfl⟩, rfl, rfl, rfl, rfl⟩, rfl⟩
    exact ⟨map, removed, rfl, rfl⟩
  · rintro ⟨map, removed, rfl, rfl⟩
    exact ⟨_, _, _, ⟨_, ⟨map, removed, rfl⟩, rfl, rfl, rfl, rfl⟩, rfl⟩

theorem serves {t : Task} (inv : Routed s h) (task : s.tasks[i]? = some t) : Serves h s i t := by
  cases t with
  | lookUp msg =>
      intro p mem key
      simp only [step_lookUp_iff inv.consistent task mem key]
      constructor
      · constructor
        · rintro ⟨_, _, ids, -⟩
          exact ids
        · intro ids
          exact ⟨_, _, ids, rfl, rfl⟩
      · intro s' out moved
        exact moved.2
  | forward msg x =>
      obtain ⟨-, -, func, inst⟩ := inv.inHand msg x (List.mem_of_getElem? task)
      have addressed (info : SctpInfo) : findMapXappsSad s.iapp.xapps x.xappId = .ok info ↔
          (x.xappId, info) ∈ registrations h := by
        rw [inv.registered]
        exact ⟨findMapXappsSad_ok, findMapXappsSad_of_mem inv.addresses⟩
      simp only [Serves, step_forward_iff task, ans_eq func inst, addressed]
      constructor
      · constructor
        · rintro ⟨_, _, info, registered, -⟩
          exact ⟨info, registered⟩
        · rintro ⟨info, registered⟩
          exact ⟨_, _, info, registered, rfl, rfl⟩
      · rintro s' out ⟨info, registered, rfl, rfl⟩
        exact ⟨⟨info, registered, rfl⟩, rfl⟩
  | remove x =>
      simp only [Serves, step_remove_iff task]
      constructor
      · rw [Task.Current, ← inv.consistent.rm_iff]
        constructor
        · rintro ⟨_, _, map, removed, -⟩
          exact ⟨map, removed⟩
        · rintro ⟨map, removed⟩
          exact ⟨_, _, map, removed, rfl, rfl⟩
      · rintro s' out ⟨map, removed, rfl, rfl⟩
        obtain ⟨n, -, perm⟩ := inv.consistent.rm_find removed
        refine ⟨rfl, n, perm, ?_⟩
        rintro ⟨p, mem, same⟩
        exact inv.consistent.gone perm mem same
  | _ => trivial

/-- The event sends a message on under the request id `n`. -/
def SendsUnder (entry : Entry Ric RicEvent (List Sent)) (n : UInt16) : Prop :=
  ∃ i msg x, entry.event = .runTask i ∧ entry.before.tasks[i]? = some (.forward msg x) ∧
    msg.ricId.ricReqId.toUInt16 = n

/-- Along every run that hands out fewer than 2^16 request ids: what goes to an
    xApp goes under its own request to its own address, and an id whose entry was
    removed does not come back into the map; the sections of the tasks do what
    `Serves` says; whatever section could run next uses an entry that is in the
    map, at every state of the run, if and only if every removal met the condition;
    and then nothing is sent under an id whose entry was removed before. -/
theorem routing_faithful_iff (run : (machine plugin).Run s h)
    (few : (assignments h).length < 2 ^ 16) :
    (∀ later entry earlier, h = later ++ entry :: earlier →
      SendsFaithfully h earlier entry ∧ StaysAway earlier entry) ∧
    (∀ i t, s.tasks[i]? = some t → Serves h s i t) ∧
    ((∀ entry ∈ h, ∀ e, entry.after.Enabled e → UsesCurrent entry.after e) ↔
      Machine.Meets RemovesLast h) ∧
    (Machine.Meets RemovesLast h → ∀ later entry earlier, h = later ++ entry :: earlier →
      ∀ removal ∈ earlier, ∀ n, Mapped removal.before n → ¬Mapped removal.after n →
        ¬SendsUnder entry n) := by
  refine ⟨?_, fun i t task => serves (routed_run run) task, ?_, ?_⟩
  · exact fun later entry earlier cut => ⟨sends_faithfully run few cut, stays_away run few cut⟩
  · simp only [allCurrent_iff]
    exact (allCurrent_run_iff run).1
  · intro last later entry earlier cut removal mem n was gone sends
    obtain ⟨i, msg, x, -, task, rfl⟩ := sends
    have current := (allCurrent_run_iff run).1.mpr last
    have before := (allCurrent_run_iff (cut ▸ run).cut.1).2 fun x mem =>
      current x (by rw [cut]; exact List.mem_append_right _ (List.mem_cons_of_mem _ mem))
    obtain ⟨p, stored, -, key⟩ := before _ (List.mem_of_getElem? task)
    exact (stays_away run few cut removal mem _ was gone).1 ⟨p, stored, key⟩

/-- Two xApps give their requests the same id; the control of one is
    acknowledged while the subscription of the other is answered. -/
def bothServed : List RicEvent :=
  setup gnb gnbAddr ++ [.e42Setup 1 xappAddr, .e42Setup 1 otherXappAddr,
    .e42Subscription 20 ⟨7, gnb, localId⟩, .e42Control 21 ⟨8, gnb, localId⟩,
    .ricMsg (.controlAcknowledge ⟨1022, 0, 2⟩),
    .ricMsg (.subscriptionResponse ⟨⟨1021, 0, 2⟩, [0], 0⟩), .runTask 0, .runTask 1, .runTask 0,
    .runTask 1, .runTask 0, .runTask 0, .runTask 0]

theorem routing_faithful_iff_served :
    ∃ (s : Ric) (entry : Entry Ric RicEvent (List Sent)) (earlier : History),
      (machine [2]).Run s (entry :: earlier) ∧
      entry.output = [.toXapp xappAddr (.ricMsg (.subscriptionResponse ⟨localId, [0], 0⟩))] ∧
      SendsFaithfully (entry :: earlier) earlier entry ∧
      (∃ removal ∈ earlier, Mapped removal.before 1022 ∧ ¬Mapped removal.after 1022) ∧
      ∀ e, s.Enabled e → UsesCurrent s e := by
  have run := (machine [2]).run_replay bothServed
  have cut := (List.cons_head_tail (show ((machine [2]).replay bothServed).2 ≠ [] by
    decide +kernel)).symm
  obtain ⟨sends, -, current, -⟩ := routing_faithful_iff run (by decide +kernel)
  refine ⟨_, List.head _ (by decide +kernel), List.tail _, cut ▸ run, by decide +kernel, ?_, ?_, ?_⟩
  · rw [← cut]
    exact (sends [] _ _ cut).1
  · exact ⟨List.head _ (show List.tail ((machine [2]).replay bothServed).2 ≠ [] by
      decide +kernel), List.head_mem _, by decide +kernel, by decide +kernel⟩
  · exact current.mpr (by decide +kernel) (List.head _ (by decide +kernel)) (List.head_mem _)

/-- An indication has looked its request up when the delete response, which came
    after it, removes the entry; it goes out all the same. -/
def usedAgain : List RicEvent :=
  subscribed ++ [.ricMsg (.indication ⟨1021, 0, 2⟩), .runTask 0, .runTask 0,
    .e42Delete 7 localId, .forwardDelete 21,
    .ricMsg (.subscriptionDeleteResponse ⟨1021, 0, 2⟩), .runTask 1, .runTask 1, .runTask 1,
    .runTask 1, .runTask 0]

theorem removed_mapping_used :
    ¬∀ (plugin : List UInt16) (s : Ric) (h : History), (machine plugin).Run s h →
      (assignments h).length < 2 ^ 16 → ∀ later entry earlier, h = later ++ entry :: earlier →
      ∀ removal ∈ earlier, ∀ n, Mapped removal.before n → ¬Mapped removal.after n →
        ¬SendsUnder entry n := by
  intro never
  have cut := (List.cons_head_tail (show ((machine [2]).replay usedAgain).2 ≠ [] by
    decide +kernel)).symm
  refine never [2] _ _ ((machine [2]).run_replay usedAgain) (by decide +kernel) [] _ _ cut
    (List.head _ (show List.tail ((machine [2]).replay usedAgain).2 ≠ [] by decide +kernel))
    (List.head_mem _) 1021 (by decide +kernel) (by decide +kernel) ?_
  exact ⟨0, .indication ⟨1021, 0, 2⟩, ⟨localId, 7⟩, by decide +kernel, by decide +kernel, rfl⟩

end Ric

end FlexRic
