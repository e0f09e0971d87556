import FlexRic.XApp.ActiveProcedures

/-! # Where the requests of the xApp come from

An xApp sends what its users ask for, under the ids that it gave out for that. Nothing is asked of
the network here: answers and indications reach the loop whenever it waits for one.
-/

namespace FlexRic

open E42Xapp

namespace ActiveProcedures

variable {π : Type}

/-- An answer or an indication may come whenever the loop is idle. -/
def OpenTo (xapp : E42Xapp) : ProcEvent → Prop
  | .xapp (.answer _) => xapp.handling = none
  | .xapp e => xapp.Enabled e
  | .indication _ => xapp.handling = none

instance (xapp : E42Xapp) : (e : ProcEvent) → Decidable (OpenTo xapp e)
  | .xapp (.answer _) => inferInstanceAs (Decidable (xapp.handling = none))
  | .xapp (.report node rfId cb) =>
      inferInstanceAs (Decidable (xapp.Enabled (.report node rfId cb)))
  | .xapp (.rmReport ricReqId) => inferInstanceAs (Decidable (xapp.Enabled (.rmReport ricReqId)))
  | .xapp (.control node rfId) => inferInstanceAs (Decidable (xapp.Enabled (.control node rfId)))
  | .xapp (.runCall i opened) => inferInstanceAs (Decidable (xapp.Enabled (.runCall i opened)))
  | .xapp .resumeAnswer => inferInstanceAs (Decidable (xapp.Enabled .resumeAnswer))
  | .indication _ => inferInstanceAs (Decidable (xapp.handling = none))

def openMachine (onIndication : UInt16 → List UInt8 → SmAgIfRdInd π) (plugin : List UInt16)
    (id : UInt16) : Machine E42Xapp ProcEvent Assertion (List (ProcOutput π)) :=
  { machine onIndication plugin id with enabled := OpenTo }

variable {onIndication : UInt16 → List UInt8 → SmAgIfRdInd π} {plugin : List UInt16} {id : UInt16}
  {xapp xapp' : E42Xapp} {h later earlier : History π} {e : ProcEvent} {out : List (ProcOutput π)}
  {entry : Entry E42Xapp ProcEvent (List (ProcOutput π))} {msg : E42Msg}

theorem step_cases_open {e : XappEvent} {sent : List E42Msg} (enabled : OpenTo xapp (.xapp e))
    (goes : xapp.step e = .ok (xapp', sent)) : E42Xapp.Step xapp e xapp' sent := by
  cases e with
  | answer msg =>
      simp only [E42Xapp.step, e2apMsgHandleXapp_eq, bind_eq_ok, pure_eq_ok, Prod.mk.injEq] at goes
      obtain ⟨_, handled, rfl, rfl⟩ := goes
      obtain ⟨val, actProc, found, rfl⟩ := handleAnswer_ok handled
      exact .answer found
  | report | rmReport | control | runCall | resumeAnswer => exact step_cases enabled goes

/-- What a step of the whole xApp can do. -/
theorem step_open (enabled : OpenTo xapp e) (moved : step onIndication xapp e = .ok (xapp', out)) :
    (∃ e' sent, e = .xapp e' ∧ out = sent.map .sent ∧ E42Xapp.Step xapp e' xapp' sent) ∨
    ∃ ind, e = .indication ind ∧
      e2apHandleIndicationXapp onIndication xapp ind = .ok (xapp', out) := by
  cases e with
  | xapp e =>
      simp only [step, bind_eq_ok, Prod.exists, pure_eq_ok, Prod.mk.injEq] at moved
      obtain ⟨_, sent, goes, rfl, rfl⟩ := moved
      exact .inl ⟨e, sent, rfl, rfl, step_cases_open enabled goes⟩
  | indication ind => exact .inr ⟨ind, rfl, moved⟩

theorem mirror_open_run (run : (openMachine onIndication plugin id).Run xapp h) :
    Mirror xapp h := by
  induction run with
  | start => exact mirror_init
  | next _ enabled moved mirror =>
      rcases step_open enabled moved with ⟨e, sent, rfl, -, goes⟩ | ⟨ind, rfl, handled⟩
      · exact mirror.call goes
      · rcases handleIndication_ok handled with rfl | ⟨val, actProc, found, rfl⟩
        · exact mirror.quiet mirror.filed rfl rfl rfl rfl mirror.sound
        · exact mirror.fill (mirror.filed.fill found) rfl rfl found

/-- Every id that was given out, with what it was given out for. -/
def givenOut : History π → List (UInt32 × Registration)
  | [] => []
  | x :: h =>
      match startedBy x.event with
      | some reg => (nextId h, reg) :: givenOut h
      | none => givenOut h

theorem mem_givenOut_cons {p : UInt32 × Registration} (mem : p ∈ givenOut h) :
    p ∈ givenOut (entry :: h) := by
  rw [givenOut]
  split
  · exact List.mem_cons_of_mem _ mem
  · exact mem

/-- A live procedure was started under its id. -/
theorem procedures_given {reqId : UInt32} {reg : Registration}
    (live : procedures h reqId = some reg) : (reqId, reg) ∈ givenOut h := by
  induction h with
  | nil => cases live
  | cons x h ih =>
      cases starts : startedBy x.event with
      | some new =>
          simp only [procedures, starts] at live
          simp only [givenOut, starts]
          by_cases same : reqId = nextId h
          · rw [same, Function.update_self, Option.some.injEq] at live
            rw [same, live]
            exact List.mem_cons_self
          · rw [Function.update_of_ne same] at live
            exact List.mem_cons_of_mem _ (ih live)
      | none =>
          apply mem_givenOut_cons
          cases finishes : finishedBy x.before x.event with
          | some other =>
              simp only [procedures, starts, finishes] at live
              by_cases same : reqId = other
              · rw [same, Function.update_self] at live
                cases live
              · rw [Function.update_of_ne same] at live
                exact ih live
          | none =>
              simp only [procedures, starts, finishes] at live
              exact ih live

/-- The ids given out are those up to the number of starts. -/
theorem givenOut_le {p : UInt32 × Registration} (few : started h < 2 ^ 32 - 1)
    (mem : p ∈ givenOut h) : 0 < p.1.toNat ∧ p.1.toNat ≤ started h := by
  induction h with
  | nil => cases mem
  | cons x h ih =>
      rw [givenOut] at mem
      split at mem
      · rename_i reg starts
        have more : started (x :: h) = started h + 1 := by simp [started, starts]
        rcases List.mem_cons.mp mem with rfl | old
        · have wide : (nextId h).toNat = started h + 1 := by
            rw [nextId, UInt32.toNat_ofNat', Nat.mod_eq_of_lt (by omega)]
          simp only [wide, more]
          omega
        · have := ih (by omega) old
          omega
      · rename_i starts
        have same : started (x :: h) = started h := by simp [started, starts]
        rw [same] at few ⊢
        exact ih few mem

/-- An id is given out once. -/
theorem givenOut_functional {reqId : UInt32} {reg reg' : Registration}
    (few : started h < 2 ^ 32 - 1) (mem : (reqId, reg) ∈ givenOut h)
    (mem' : (reqId, reg') ∈ givenOut h) : reg = reg' := by
  induction h with
  | nil => cases mem
  | cons x h ih =>
      rw [givenOut] at mem mem'
      split at mem
      · rename_i new starts
        simp only [starts] at mem'
        have more : started (x :: h) = started h + 1 := by simp [started, starts]
        have wide : (nextId h).toNat = started h + 1 := by
          rw [nextId, UInt32.toNat_ofNat', Nat.mod_eq_of_lt (by omega)]
        have below {r : Registration} (old : (nextId h, r) ∈ givenOut h) : False := by
          have bound := (givenOut_le (by omega) old).2
          simp only [wide] at bound
          omega
        rcases List.mem_cons.mp mem with here | old
        · rcases List.mem_cons.mp mem' with here' | old'
          · exact (Prod.mk.inj (here.trans here'.symm)).2
          · rw [(Prod.mk.inj here).1] at old'
            exact (below old').elim
        · rcases List.mem_cons.mp mem' with here' | old'
          · rw [(Prod.mk.inj here').1] at old
            exact (below old).elim
          · exact ih (by omega) old old'
      · rename_i starts
        simp only [starts] at mem'
        have same : started (x :: h) = started h := by simp [started, starts]
        exact ih (by omega) mem mem'

theorem mem_givenOut_append {p : UInt32 × Registration} (mem : p ∈ givenOut earlier) :
    p ∈ givenOut (later ++ earlier) := by
  induction later with
  | nil => exact mem
  | cons x later ih => exact mem_givenOut_cons ih

/-- An xApp starts less than `2 ^ 16` procedures. -/
theorem started_run (run : (openMachine onIndication plugin id).Run xapp h) :
    started h < 2 ^ 16 := by
  have mirror := mirror_open_run run
  have few := mirror.filed.few
  have counter := mirror.counter
  omega

/-- In a run the ids that were given out fit 16 bits, and one stands for one procedure. -/
theorem given_short (run : (openMachine onIndication plugin id).Run xapp h) {reqId : UInt32}
    {reg : Registration} (mem : (reqId, reg) ∈ givenOut h) :
    reqId.toUInt16.toUInt32 = reqId := by
  have few := started_run run
  have bound : reqId.toNat ≤ started h := (givenOut_le (by omega) mem).2
  apply UInt32.toNat_inj.mp
  rw [UInt16.toNat_toUInt32, UInt32.toNat_toUInt16, Nat.mod_eq_of_lt (by omega)]

theorem given_functional (run : (openMachine onIndication plugin id).Run xapp h) {reqId : UInt32}
    {reg reg' : Registration} (mem : (reqId, reg) ∈ givenOut h)
    (mem' : (reqId, reg') ∈ givenOut h) : reg = reg' := by
  have few := started_run run
  exact givenOut_functional (by omega) mem mem'

/-- A user of this xApp asked for the request, and its id was given out for that. -/
def Asked (h : History π) (id : UInt16) : E42Msg → Prop
  | .ricSubscriptionRequest req => req.xappId = id ∧ req.ricId.ricInstId = 0 ∧
      ∃ cb, (req.ricId.ricReqId, ⟨.ricSubscriptionProcedureActive, req.ricId.ranFuncId, req.id,
        some cb⟩) ∈ givenOut h
  | .ricControlRequest req => req.xappId = id ∧ req.ricId.ricInstId = 0 ∧
      (req.ricId.ricReqId, ⟨.ricControlProcedureActive, req.ricId.ranFuncId, req.id, none⟩) ∈
        givenOut h
  | .ricSubscriptionDeleteRequest xappId _ => xappId = id

theorem Asked.append (asked : Asked earlier id msg) : Asked (later ++ earlier) id msg := by
  cases msg with
  | ricSubscriptionRequest req =>
      obtain ⟨mine, inst, cb, given⟩ := asked
      exact ⟨mine, inst, cb, mem_givenOut_append given⟩
  | ricControlRequest req => exact ⟨asked.1, asked.2.1, mem_givenOut_append asked.2.2⟩
  | ricSubscriptionDeleteRequest xappId ricId => exact asked

theorem Asked.cons (asked : Asked h id msg) : Asked (entry :: h) id msg := by
  rw [← List.singleton_append]
  exact asked.append

/-- Every call is about a request that a user asked for. -/
structure Honest (xapp : E42Xapp) (h : History π) (id : UInt16) : Prop where
  mine : xapp.id = id
  calls : ∀ call ∈ xapp.calls, Asked h id call.msg

theorem honest_init : Honest (initE42Xapp plugin id) ([] : History π) id where
  mine := rfl
  calls call mem := by cases mem

theorem Honest.advance {e : ProcEvent} {i : Nat} {call : Call} {rest : Option Call}
    (honest : Honest xapp h id) (here : xapp.calls[i]? = some call)
    (same : ∀ c ∈ rest, c.msg = call.msg) (mine : xapp'.id = xapp.id)
    (calls : xapp'.calls = FlexRic.advance xapp.calls i rest) :
    Honest xapp' (⟨xapp, e, out, xapp'⟩ :: h) id where
  mine := mine.trans honest.mine
  calls c mem := by
    rw [calls] at mem
    rcases mem_advance mem with old | next
    · exact (honest.calls c old).cons
    · rw [same c next]
      exact (honest.calls call (List.mem_of_getElem? here)).cons

theorem Honest.enter {e : ProcEvent} {call : Call} (honest : Honest xapp h id)
    (mine : xapp'.id = xapp.id) (calls : xapp'.calls = xapp.calls ++ [call])
    (asked : Asked (⟨xapp, e, out, xapp'⟩ :: h) id call.msg) :
    Honest xapp' (⟨xapp, e, out, xapp'⟩ :: h) id where
  mine := mine.trans honest.mine
  calls c mem := by
    rw [calls] at mem
    rcases List.mem_append.mp mem with old | new
    · exact (honest.calls c old).cons
    · cases List.mem_singleton.mp new
      exact asked

theorem Honest.keep {e : ProcEvent} (honest : Honest xapp h id) (mine : xapp'.id = xapp.id)
    (calls : xapp'.calls = xapp.calls) : Honest xapp' (⟨xapp, e, out, xapp'⟩ :: h) id where
  mine := mine.trans honest.mine
  calls c mem := (honest.calls c (calls ▸ mem)).cons

/-- A new call is for the next id. -/
theorem Mirror.added {type : ActProcValE} {ricId : RicGenId} {e2Node : GlobalE2NodeId}
    {smCb : Option Nat} {reqId : UInt32} {actProc : ActProc} (mirror : Mirror xapp h)
    (added : addActProc xapp.actProc type ricId e2Node smCb = .ok (reqId, actProc)) :
    reqId = ActiveProcedures.nextId h := by
  have fresh := (addActProc_spec mirror.filed.ordered mirror.filed.few added).1
  exact UInt32.toNat_inj.mp (fresh.trans mirror.nextId.symm)

theorem Honest.call {e : XappEvent} {sent : List E42Msg} (honest : Honest xapp h id)
    (mirror : Mirror xapp h) (step : E42Xapp.Step xapp e xapp' sent) :
    Honest xapp' (⟨xapp, .xapp e, out, xapp'⟩ :: h) id := by
  cases step with
  | @report node rfId cb _ _ added few =>
      refine honest.enter rfl rfl ⟨honest.mine, rfl, cb, ?_⟩
      rw [mirror.added added]
      exact List.mem_cons_self
  | control added few =>
      refine honest.enter rfl rfl ⟨honest.mine, rfl, ?_⟩
      rw [mirror.added added]
      exact List.mem_cons_self
  | rmReport found => exact honest.enter rfl rfl honest.mine
  | createTimer here | addPending here | send here | condWait here | blocked here =>
      exact honest.advance here (fun c next => by cases next; rfl) rfl rfl
  | msgAck here =>
      refine honest.advance here (fun c next => ?_) rfl rfl
      split at next
      · cases next
      · cases next
        rfl
  | rmActProc here removed => exact honest.advance here (fun c next => by cases next) rfl rfl
  | answer | rmPending | rmFd | signal => exact honest.keep rfl rfl

theorem honest_run (run : (openMachine onIndication plugin id).Run xapp h) : Honest xapp h id := by
  induction run with
  | start => exact honest_init
  | next run enabled moved honest =>
      rcases step_open enabled moved with ⟨e, sent, rfl, -, goes⟩ | ⟨ind, rfl, handled⟩
      · exact honest.call (mirror_open_run run) goes
      · rcases handleIndication_ok handled with rfl | ⟨val, actProc, found, rfl⟩
        · exact honest.keep rfl rfl
        · exact honest.keep rfl rfl

theorem step_id (enabled : OpenTo xapp e) (moved : step onIndication xapp e = .ok (xapp', out)) :
    xapp'.id = xapp.id := by
  rcases step_open enabled moved with ⟨e, sent, rfl, -, goes⟩ | ⟨ind, rfl, handled⟩
  · cases goes <;> rfl
  · rcases handleIndication_ok handled with rfl | ⟨val, actProc, found, rfl⟩
    · rfl
    · rfl

/-- What is sent is what a call is about. -/
theorem sent_of_step {e : XappEvent} {sent : List E42Msg} (step : E42Xapp.Step xapp e xapp' sent)
    (mem : msg ∈ sent) : ∃ call ∈ xapp.calls, call.msg = msg := by
  cases step with
  | send here =>
      rw [List.mem_singleton.mp mem]
      exact ⟨_, List.mem_of_getElem? here, rfl⟩
  | _ => cases mem

/-- A request that an xApp sends is one that its user asked for. -/
theorem sent_origin
    (run : (openMachine onIndication plugin id).Run xapp (later ++ entry :: earlier))
    (sent : ProcOutput.sent msg ∈ entry.output) : Asked (later ++ entry :: earlier) id msg := by
  obtain ⟨before, enabled, moved⟩ := run.cut
  rcases step_open enabled moved with ⟨e, msgs, -, same, goes⟩ | ⟨ind, -, handled⟩
  · rw [same] at sent
    obtain ⟨_, mem, here⟩ := List.mem_map.mp sent
    cases here
    obtain ⟨call, among, rfl⟩ := sent_of_step goes mem
    exact ((honest_run before).calls call among).cons.append
  · simp only [e2apHandleIndicationXapp, bind_eq_ok, Prod.exists] at handled
    obtain ⟨_, -, _, -, found, actProc, -, handled⟩ := handled
    cases found <;> simp only [pure_eq_ok, Prod.mk.injEq] at handled <;>
      rw [← handled.2] at sent <;> simp at sent

/-- What is dispatched is dispatched to the callback of a live procedure. -/
theorem dispatched_origin
    (run : (openMachine onIndication plugin id).Run xapp (later ++ entry :: earlier))
    {smCb : Option Nat} {rd : SmAgIfRdInd π}
    (dispatched : ProcOutput.dispatched smCb rd ∈ entry.output) :
    ∃ ind reg, entry.event = .indication ind ∧
      rd = onIndication ind.ricId.ranFuncId ind.bytes ∧
      procedures earlier ind.ricId.ricReqId.toUInt16.toUInt32 = some reg ∧ reg.smCb = smCb := by
  obtain ⟨before, enabled, moved⟩ := run.cut
  rcases step_open enabled moved with ⟨e, msgs, -, same, goes⟩ | ⟨ind, event, handled⟩
  · rw [same] at dispatched
    obtain ⟨_, -, here⟩ := List.mem_map.mp dispatched
    cases here
  · simp only [e2apHandleIndicationXapp, bind_eq_ok, Prod.exists] at handled
    obtain ⟨_, -, _, -, found, actProc, looked, handled⟩ := handled
    cases found with
    | none =>
        simp only [pure_eq_ok, Prod.mk.injEq] at handled
        rw [← handled.2] at dispatched
        cases dispatched
    | some val =>
        simp only [pure_eq_ok, Prod.mk.injEq] at handled
        rw [← handled.2] at dispatched
        simp only [List.mem_cons, reduceCtorEq, ProcOutput.dispatched.injEq, List.not_mem_nil,
          or_false, false_or] at dispatched
        obtain ⟨rfl, rfl⟩ := dispatched
        obtain ⟨-, it, stored, there, -, rfl⟩ := findActProc_some looked
        have listed := AssocReg.mem_entries.mpr (List.mem_of_getElem? there)
        exact ⟨ind, registration stored, event, rfl,
          (mirror_open_run before).mem_iff.mp ⟨stored, listed, rfl⟩, rfl⟩

end ActiveProcedures

end FlexRic
