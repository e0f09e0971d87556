import FlexRic.XApp.System

/-! # What a step of the xApp can do

`step_cases` takes a step apart once. The lemmas before it say the same of the
registry's own operations.
-/

namespace FlexRic

open Assertion

section ActProc

variable {p p' : ActProc} {ricReqId : UInt16}

theorem findActProc_some {val : ActProcVal} (h : findActProc p ricReqId = .ok (some val, p')) :
    0 < ricReqId.toUInt32 ∧ ∃ it stored, p.arr[it]? = some ⟨ricReqId.toUInt32, true, stored⟩ ∧
      p' = p.update it (·.filled ricReqId) ∧ val = stored.filled ricReqId := by
  simp only [findActProc, bind_eq_ok] at h
  obtain ⟨it, found, h⟩ := h
  cases it with
  | none =>
      simp only [pure_eq_ok, Prod.mk.injEq, reduceCtorEq, false_and] at h
  | some it =>
      obtain ⟨stored, there⟩ := AssocReg.live_of_findReg found
      simp only [pure_eq_ok, Prod.mk.injEq, AssocReg.update, List.getElem?_modify_eq, there,
        Option.map_eq_map, Option.map_some, Option.some.injEq] at h
      obtain ⟨rfl, rfl⟩ := h
      exact ⟨AssocReg.pos_of_findReg found, it, stored, there, rfl, rfl⟩

/-- An id is found as long as its procedure is registered. -/
theorem findActProc_ok (ordered : p.Ordered) (short : p.Short) (positive : 0 < ricReqId) :
    (∃ val p', findActProc p ricReqId = .ok (some val, p')) ↔
      ∃ e ∈ p.entries, e.1 = ricReqId.toUInt32 := by
  have positive : 0 < ricReqId.toUInt32 := by
    rw [UInt32.lt_iff_toNat_lt]
    simpa using UInt16.lt_iff_toNat_lt.mp positive
  constructor
  · intro known
    obtain ⟨val, p', found⟩ := known
    obtain ⟨-, it, stored, there, -, -⟩ := findActProc_some found
    exact ⟨_, AssocReg.mem_entries.mpr (List.mem_of_getElem? there), rfl⟩
  · rintro ⟨⟨_, stored⟩, mem, rfl⟩
    obtain ⟨it, there⟩ := List.getElem?_of_mem (AssocReg.mem_entries.mp mem)
    have found := (AssocReg.findReg_some ordered short positive).mpr ⟨stored, there⟩
    refine ⟨stored.filled ricReqId, p.update it (·.filled ricReqId), ?_⟩
    simp only [findActProc, found, ok_bind, AssocReg.update, List.getElem?_modify_eq, there,
      Option.map_eq_map, Option.map_some]
    rfl

theorem rmActProc_ok (h : rmActProc p ricReqId = .ok p') :
    ∃ it stored, p.arr[it]? = some ⟨ricReqId.toUInt32, true, stored⟩ ∧ p' = p.erase it := by
  simp only [rmActProc, bind_eq_ok] at h
  obtain ⟨it, found, h⟩ := h
  cases it with
  | none => cases h
  | some it =>
      obtain ⟨stored, there⟩ := AssocReg.live_of_findReg found
      simp only [pure_eq_ok] at h
      exact ⟨it, stored, there, h.symm⟩

end ActProc

namespace E42Xapp

inductive Step (xapp : E42Xapp) : XappEvent → E42Xapp → List E42Msg → Prop where
  | report {id : GlobalE2NodeId} {rfId : UInt16} {cb : Nat} {reqId : UInt32} {actProc : ActProc}
      (added : addActProc xapp.actProc .ricSubscriptionProcedureActive ⟨0, 0, rfId⟩ id (some cb) =
        .ok (reqId, actProc)) (few : reqId.toNat < 2 ^ 16) :
      Step xapp (.report id rfId cb)
        { xapp with
          actProc := actProc
          calls := xapp.calls ++
            [⟨.ricSubscriptionRequest ⟨xapp.id, id, ⟨reqId, 0, rfId⟩⟩, .createTimer⟩] } []
  | rmReport {ricReqId : Int} {val : ActProcVal} {actProc : ActProc}
      (found : findActProc xapp.actProc (UInt16.ofInt ricReqId) = .ok (some val, actProc)) :
      Step xapp (.rmReport ricReqId)
        { xapp with
          actProc := actProc
          calls := xapp.calls ++ [⟨.ricSubscriptionDeleteRequest xapp.id val.id, .send⟩] } []
  | control {id : GlobalE2NodeId} {rfId : UInt16} {reqId : UInt32} {actProc : ActProc}
      (added : addActProc xapp.actProc .ricControlProcedureActive ⟨0, 0, rfId⟩ id none =
        .ok (reqId, actProc)) (few : reqId.toNat < 2 ^ 16) :
      Step xapp (.control id rfId)
        { xapp with
          actProc := actProc
          calls := xapp.calls ++
            [⟨.ricControlRequest ⟨xapp.id, id, ⟨reqId, 0, rfId⟩⟩, .send⟩] } []
  | createTimer {i : Nat} {opened : Fd} {msg : E42Msg}
      (here : xapp.calls[i]? = some ⟨msg, .createTimer⟩) :
      Step xapp (.runCall i opened)
        { xapp with
          timers := opened :: xapp.timers
          calls := advance xapp.calls i (some ⟨msg, .addPending opened⟩) } []
  | addPending {i : Nat} {opened fd : Fd} {msg : E42Msg}
      (here : xapp.calls[i]? = some ⟨msg, .addPending fd⟩) :
      Step xapp (.runCall i opened)
        { xapp with
          pending := xapp.pending.insert fd (pendingEvent msg)
          calls := advance xapp.calls i
            (some ⟨msg, if sendsLast msg then .send else .condWait⟩) } []
  | send {i : Nat} {opened : Fd} {msg : E42Msg} (here : xapp.calls[i]? = some ⟨msg, .send⟩) :
      Step xapp (.runCall i opened)
        { xapp with
          inFlight := xapp.inFlight ++ [msg]
          calls := advance xapp.calls i
            (some ⟨msg, if sendsLast msg then .condWait else .createTimer⟩) } [msg]
  | condWait {i : Nat} {opened : Fd} {msg : E42Msg}
      (here : xapp.calls[i]? = some ⟨msg, .condWait⟩) :
      Step xapp (.runCall i opened)
        { xapp with
          sync := initSyncUi
          calls := advance xapp.calls i (some ⟨msg, .blocked⟩) } []
  | blocked {i : Nat} {opened : Fd} {msg : E42Msg}
      (here : xapp.calls[i]? = some ⟨msg, .blocked⟩) :
      Step xapp (.runCall i opened)
        { xapp with calls := advance xapp.calls i (some ⟨msg, .msgAck⟩) } []
  | msgAck {i : Nat} {opened : Fd} {msg : E42Msg} (here : xapp.calls[i]? = some ⟨msg, .msgAck⟩) :
      Step xapp (.runCall i opened)
        { xapp with
          calls := advance xapp.calls i
            (if sendsLast msg then none else some ⟨msg, .rmActProc⟩) } []
  | rmActProc {i : Nat} {opened : Fd} {msg : E42Msg} {actProc : ActProc}
      (here : xapp.calls[i]? = some ⟨msg, .rmActProc⟩)
      (removed : FlexRic.rmActProc xapp.actProc msg.ricId.ricReqId.toUInt16 = .ok actProc) :
      Step xapp (.runCall i opened)
        { xapp with actProc := actProc, calls := advance xapp.calls i none } []
  | answer {msg : E42Msg} {val : ActProcVal} {actProc : ActProc}
      (found : findActProc xapp.actProc msg.ricId.ricReqId.toUInt16 = .ok (some val, actProc)) :
      Step xapp (.answer msg)
        { xapp with
          actProc := actProc
          handling := some (.rmPending ⟨(pendingEvent msg).ev, val.id, 0⟩)
          inFlight := xapp.inFlight.erase msg } []
  | rmPending {ev : PendingEventXapp} {fd : Fd} {pending : PendingEventXappDs}
      (here : xapp.handling = some (.rmPending ev))
      (removed : xapp.pending.extractRight ev = .ok (fd, pending)) :
      Step xapp .resumeAnswer
        { xapp with pending := pending, handling := some (.rmFd fd) } []
  | rmFd {fd : Fd} (here : xapp.handling = some (.rmFd fd)) (watched : fd ∈ xapp.timers) :
      Step xapp .resumeAnswer
        { xapp with timers := xapp.timers.erase fd, handling := some .signal } []
  | signal (here : xapp.handling = some .signal) :
      Step xapp .resumeAnswer { xapp with sync := ⟨true, true⟩, handling := none } []

variable {xapp xapp' : E42Xapp} {e : XappEvent} {out : List E42Msg}

theorem generateRicGenId_ok {type : ActProcValE} {rfId : UInt16} {id : GlobalE2NodeId}
    {cb : Option Nat} {ricId : RicGenId}
    (h : xapp.generateRicGenId type rfId id cb = .ok (ricId, xapp')) :
    ∃ reqId actProc, addActProc xapp.actProc type ⟨0, 0, rfId⟩ id cb = .ok (reqId, actProc) ∧
      reqId.toNat < 2 ^ 16 ∧ ricId = ⟨reqId, 0, rfId⟩ ∧
        xapp' = { xapp with actProc := actProc } := by
  simp only [generateRicGenId, bind_eq_ok, check_eq_ok, pure_eq_ok, Prod.exists,
    Prod.mk.injEq] at h
  obtain ⟨_, -, reqId, actProc, added, _, few, rfl, rfl⟩ := h
  exact ⟨reqId, actProc, added, few, rfl, rfl⟩

theorem step_runCall {i : Nat} {opened : Fd} (enabled : xapp.Enabled (.runCall i opened))
    (h : xapp.runCall i opened = .ok (xapp', out)) : Step xapp (.runCall i opened) xapp' out := by
  obtain ⟨⟨msg, stage⟩, here, -⟩ := enabled
  have here : xapp.calls[i]? = some ⟨msg, stage⟩ := here
  simp only [runCall, here, bind_eq_ok, Prod.exists, pure_eq_ok, Prod.mk.injEq] at h
  obtain ⟨_, _, _, ran, rfl, rfl⟩ := h
  cases stage with
  | createTimer =>
      simp only [callSection, bind_eq_ok, check_eq_ok, pure_eq_ok, Prod.mk.injEq] at ran
      obtain ⟨_, -, rfl, rfl, rfl⟩ := ran
      exact .createTimer here
  | addPending fd =>
      simp only [callSection, addPendingEvent, bind_eq_ok, check_eq_ok, pure_eq_ok,
        Prod.mk.injEq] at ran
      obtain ⟨_, ⟨_, -, rfl⟩, rfl, rfl, rfl⟩ := ran
      exact .addPending here
  | send =>
      simp only [callSection, pure_eq_ok, Prod.mk.injEq] at ran
      obtain ⟨rfl, rfl, rfl⟩ := ran
      exact .send here
  | condWait =>
      simp only [callSection, pure_eq_ok, Prod.mk.injEq] at ran
      obtain ⟨rfl, rfl, rfl⟩ := ran
      exact .condWait here
  | blocked =>
      simp only [callSection, pure_eq_ok, Prod.mk.injEq] at ran
      obtain ⟨rfl, rfl, rfl⟩ := ran
      exact .blocked here
  | msgAck =>
      simp only [callSection, bind_eq_ok, check_eq_ok, pure_eq_ok, Prod.mk.injEq] at ran
      obtain ⟨_, -, rfl, rfl, rfl⟩ := ran
      exact .msgAck here
  | rmActProc =>
      simp only [callSection, bind_eq_ok, pure_eq_ok, Prod.mk.injEq] at ran
      obtain ⟨_, removed, rfl, rfl, rfl⟩ := ran
      exact .rmActProc here removed

theorem handleAnswer_ok {event : PendingEvent} {ricReqId : UInt16}
    (h : xapp.handleAnswer event ricReqId = .ok xapp') :
    ∃ val actProc, findActProc xapp.actProc ricReqId = .ok (some val, actProc) ∧
      xapp' = { xapp with
        actProc := actProc, handling := some (.rmPending ⟨event, val.id, 0⟩) } := by
  simp only [handleAnswer, bind_eq_ok, Prod.exists] at h
  obtain ⟨found, actProc, looked, h⟩ := h
  cases found with
  | none => cases h
  | some val =>
      simp only [pure_eq_ok] at h
      exact ⟨val, actProc, looked, h.symm⟩

/-- The three handlers differ in their event. -/
theorem e2apMsgHandleXapp_eq (xapp : E42Xapp) (msg : E42Msg) :
    xapp.e2apMsgHandleXapp msg =
      xapp.handleAnswer (pendingEvent msg).ev msg.ricId.ricReqId.toUInt16 := by
  cases msg <;> rfl

theorem step_resumeAnswer {stage : AnswerStage} (here : xapp.handling = some stage)
    (h : xapp.answerSection stage = .ok xapp') : Step xapp .resumeAnswer xapp' [] := by
  cases stage with
  | rmPending ev =>
      simp only [answerSection, rmPendingEventEv, bind_eq_ok, check_eq_ok, pure_eq_ok, Prod.exists,
        Prod.mk.injEq] at h
      obtain ⟨fd, pending, ⟨_, -, _, _, removed, _, -, _, -, _, -, rfl, rfl⟩, rfl⟩ := h
      exact .rmPending here removed
  | rmFd fd =>
      simp only [answerSection, rmFdAsioXapp, bind_eq_ok, check_eq_ok, pure_eq_ok] at h
      obtain ⟨_, ⟨_, watched, rfl⟩, rfl⟩ := h
      exact .rmFd here watched
  | signal =>
      simp only [answerSection, pure_eq_ok] at h
      subst h
      exact .signal here

theorem step_cases (enabled : xapp.Enabled e) (h : xapp.step e = .ok (xapp', out)) :
    Step xapp e xapp' out := by
  cases e with
  | report id rfId cb =>
      simp only [step, reportSmSyncXapp, bind_eq_ok, Prod.exists, pure_eq_ok, Prod.mk.injEq] at h
      obtain ⟨_, ⟨_, _, generated, _, -, rfl⟩, rfl, rfl⟩ := h
      obtain ⟨reqId, actProc, added, few, rfl, rfl⟩ := generateRicGenId_ok generated
      exact .report added few
  | rmReport ricReqId =>
      simp only [step, rmReportSmSyncXapp, bind_eq_ok, check_eq_ok, Prod.exists, pure_eq_ok,
        Prod.mk.injEq] at h
      obtain ⟨_, ⟨_, -, found, _, looked, entered⟩, rfl, rfl⟩ := h
      cases found with
      | none => cases entered
      | some val =>
          simp only [pure_eq_ok] at entered
          subst entered
          exact .rmReport looked
  | control id rfId =>
      simp only [step, controlSmSyncXapp, bind_eq_ok, check_eq_ok, Prod.exists, pure_eq_ok,
        Prod.mk.injEq] at h
      obtain ⟨_, ⟨_, -, _, _, generated, _, -, rfl⟩, rfl, rfl⟩ := h
      obtain ⟨reqId, actProc, added, few, rfl, rfl⟩ := generateRicGenId_ok generated
      exact .control added few
  | runCall i opened => exact step_runCall enabled h
  | answer msg =>
      simp only [step, e2apMsgHandleXapp_eq, bind_eq_ok, pure_eq_ok, Prod.mk.injEq] at h
      obtain ⟨_, handled, rfl, rfl⟩ := h
      obtain ⟨val, actProc, found, rfl⟩ := handleAnswer_ok handled
      exact .answer found
  | resumeAnswer =>
      obtain ⟨stage, here⟩ := Option.isSome_iff_exists.mp enabled
      simp only [step, here, bind_eq_ok, pure_eq_ok, Prod.mk.injEq] at h
      obtain ⟨_, ran, rfl, rfl⟩ := h
      exact step_resumeAnswer here ran

end E42Xapp

end FlexRic
