import FlexRic.Ric.Steps

/-! # What the history of a run records

Request ids and xApp ids are handed out in the open: the message that leaves
for the node, or the answer that goes to the xApp, carries them. So who holds
which id is read off the history, and the maps are related to it.
-/

namespace FlexRic

namespace Ric

abbrev History := List (Entry Ric RicEvent (List Sent))

/-- The id in a request on its way to a node, as far as it is handed out. -/
def requestId : Sent → Option UInt16
  | .toNode _ _ (.subscription ricId) => some ricId.ricReqId.toUInt16
  | .toNode _ _ (.control ricId) => some ricId.ricReqId.toUInt16
  | _ => none

/-- The request id that an event handed out, and the xApp request it went to. -/
def assigned (x : Entry Ric RicEvent (List Sent)) : Option (UInt16 × XappRicId) :=
  match x.event with
  | .e42Subscription _ req | .e42Control _ req =>
      (x.output.findSome? requestId).map fun n => (n, ⟨req.ricId, req.xappId⟩)
  | _ => none

/-- Every request id handed out, the latest first. -/
def assignments (h : History) : List (UInt16 × XappRicId) := h.filterMap assigned

/-- The xApp id that an answer hands out, and where the answer goes. -/
def registration : Sent → Option (UInt16 × SctpInfo)
  | .toXapp info (.e42SetupResponse xappId _) => some (xappId, info)
  | _ => none

/-- Every xApp id handed out, with the address it was registered for. -/
def registrations (h : History) : List (UInt16 × SctpInfo) :=
  h.flatMap fun x => x.output.filterMap registration

/-- The messages that E2 nodes sent. -/
def arrived (h : History) : List RicMsg :=
  h.filterMap fun x => match x.event with
    | .ricMsg msg => some msg
    | _ => none

/-- A request id is in the map. -/
def Mapped (s : Ric) (n : UInt16) : Prop :=
  ∃ p ∈ s.iapp.mapRicId.pairs, p.1.ricId.ricReqId = n.toUInt32

instance (s : Ric) (n : UInt16) : Decidable (Mapped s n) :=
  inferInstanceAs (Decidable (∃ p ∈ _, _))

variable {s s' : Ric} {out : List Sent}

theorem assignments_cons {x : Entry Ric RicEvent (List Sent)} {h : History} :
    assignments (x :: h) = (assigned x).toList ++ assignments h := by
  cases assigned_x : assigned x <;> simp [assignments, assigned_x]

theorem assigned_requested {type : RicReqType} {fd : Fd} {req : E42Request}
    (done : Requested type s fd req s' out) :
    out.findSome? requestId = some s.nextId := by
  cases done
  cases type <;> simp [requestId, nodeRequest, sentId, storeLow16_toUInt16]

/-- What a step does to the map and to the handed-out ids: it hands one out and
    stores it, or removes an entry, or touches neither. -/
theorem Step.map_cases {e : RicEvent} {h : History} (step : Step s e s' out) :
    (∃ type fd req, Requested type s fd req s' out ∧
      assignments (⟨s, e, out, s'⟩ :: h) =
        (s.nextId, ⟨req.ricId, req.xappId⟩) :: assignments h) ∨
    (∃ x, Task.remove x ∈ s.tasks ∧
      rmMapRicId s.iapp.mapRicId x = .ok s'.iapp.mapRicId ∧ s'.ric.reqId = s.ric.reqId ∧
      assignments (⟨s, e, out, s'⟩ :: h) = assignments h) ∨
    (s'.iapp.mapRicId = s.iapp.mapRicId ∧ s'.ric.reqId = s.ric.reqId ∧
      assignments (⟨s, e, out, s'⟩ :: h) = assignments h) := by
  rw [assignments_cons]
  cases step with
  | e42Subscription done =>
      exact .inl ⟨.subscription, _, _, done, by simp [assigned, assigned_requested done]⟩
  | e42Control done =>
      exact .inl ⟨.control, _, _, done, by simp [assigned, assigned_requested done]⟩
  | remove task removed => exact .inr (.inl ⟨_, List.mem_of_getElem? task, removed, rfl, rfl⟩)
  | handle task handled =>
      obtain ⟨pending, timers, rfl⟩ := e2apMsgHandleRic_frame handled
      exact .inr (.inr ⟨rfl, rfl, rfl⟩)
  | disconnect leaving removed =>
      obtain ⟨-, rfl⟩ := disconnectE2Node_ok removed
      exact .inr (.inr ⟨rfl, rfl, rfl⟩)
  | forwardDelete next forwarded =>
      rcases fwdRicSubscriptionRequestDelete_ok forwarded with ⟨rfl, -⟩ | ⟨rfl, -⟩
      · exact .inr (.inr ⟨rfl, rfl, rfl⟩)
      · exact .inr (.inr ⟨rfl, rfl, rfl⟩)
  | _ => exact .inr (.inr ⟨rfl, rfl, rfl⟩)

/-- Where a task comes from: from the message that started it, or from the
    section before. -/
def Origin (s : Ric) (e : RicEvent) : Task → Prop
  | .regSockAddr req info => e = .setupRequest req info
  | .addE2Node req info => Task.regSockAddr req info ∈ s.tasks
  | .connectE2Node req info => Task.addE2Node req info ∈ s.tasks
  | .handle msg => e = .ricMsg msg
  | .lookUp msg => Task.handle msg ∈ s.tasks
  | .forward msg x => Task.lookUp msg ∈ s.tasks ∧ FlexRic.lookUp s.iapp msg = .ok (some x)
  | .remove x => ∃ msg, Task.forward msg x ∈ s.tasks ∧ (e2apMsgHandleIapp msg).removes

theorem Step.task_origin {e : RicEvent} (step : Step s e s' out) {t : Task}
    (mem : t ∈ s'.tasks) : t ∈ s.tasks ∨ Origin s e t := by
  cases step with
  | setupRequest req info =>
      rcases List.mem_append.mp mem with old | new
      · exact .inl old
      · cases List.mem_singleton.mp new
        exact .inr rfl
  | ricMsg msg =>
      rcases List.mem_append.mp mem with old | new
      · exact .inl old
      · cases List.mem_singleton.mp new
        exact .inr rfl
  | regSockAddr task =>
      apply (mem_advance mem).imp_right
      intro new
      cases new
      exact List.mem_of_getElem? task
  | addE2Node task _ =>
      apply (mem_advance mem).imp_right
      intro new
      cases new
      exact List.mem_of_getElem? task
  | connectE2Node task _ => exact (mem_advance mem).imp_right nofun
  | handle task _ =>
      apply (mem_advance mem).imp_right
      intro new
      cases new
      exact List.mem_of_getElem? task
  | lookUp task found =>
      apply (mem_advance mem).imp_right
      intro new
      obtain ⟨x, rfl, rfl⟩ := Option.map_eq_some_iff.mp new
      exact ⟨List.mem_of_getElem? task, found⟩
  | forward task _ =>
      apply (mem_advance mem).imp_right
      intro new
      split at new
      · cases new
        exact ⟨_, List.mem_of_getElem? task, ‹_›⟩
      · cases new
  | remove task _ => exact (mem_advance mem).imp_right nofun
  | e42Subscription done => cases done; exact .inl mem
  | e42Control done => cases done; exact .inl mem
  | _ => exact .inl mem

/-- What a step does to the xApps' addresses. -/
theorem Step.xapps_cases {e : RicEvent} {h : History} (step : Step s e s' out) :
    (∃ xappId info, addMapXappsSad s.iapp.xapps xappId info = .ok s'.iapp.xapps ∧
      registrations (⟨s, e, out, s'⟩ :: h) = (xappId, info) :: registrations h) ∨
    (s'.iapp.xapps = s.iapp.xapps ∧
      registrations (⟨s, e, out, s'⟩ :: h) = registrations h) := by
  cases step with
  | e42Setup pos added => exact .inl ⟨_, _, added, rfl⟩
  | e42Subscription done => cases done; exact .inr ⟨rfl, rfl⟩
  | e42Control done => cases done; exact .inr ⟨rfl, rfl⟩
  | forwardDelete next forwarded =>
      rcases fwdRicSubscriptionRequestDelete_ok forwarded with ⟨-, rfl, -⟩ | ⟨-, -, _, -, rfl⟩
      · exact .inr ⟨rfl, rfl⟩
      · exact .inr ⟨rfl, rfl⟩
  | _ => exact .inr ⟨rfl, rfl⟩

end Ric

end FlexRic
