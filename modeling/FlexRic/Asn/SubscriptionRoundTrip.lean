import FlexRic.Asn.Codec

/-! # Subscriptions, there and back

A request loses the times to wait of 0, a response its actions that are not admitted,
and a response for a RAN function of 256 or more stops the decoder.
-/

namespace FlexRic.Asn

open Wire (Bytes)

structure RicAction.WellFormed (a : RicAction) : Prop where
  definition : ∀ d, a.definition = some d → d ≠ []
  timeToWait : ∀ s ms, a.subseqAction = some s → s.timeToWaitMs = some ms → ms.toNat < 18

structure RicSubscriptionRequest.WellFormed (sr : RicSubscriptionRequest) : Prop where
  eventTrigger : sr.eventTrigger ≠ []
  filled : 0 < sr.action.length
  few : sr.action.length ≤ maxNumActionDef
  each : ∀ a ∈ sr.action, a.WellFormed

/-- No time to wait is 0. -/
def RicAction.Waits (a : RicAction) : Prop :=
  ∀ s, a.subseqAction = some s → s.timeToWaitMs ≠ some 0

/-- What comes back of a subsequent action. -/
def heardSubsequent (s : RicSubsequentAction) : RicSubsequentAction :=
  { s with timeToWaitMs := s.timeToWaitMs.filter (· ≠ 0) }

/-- What comes back of an action. -/
def heardAction (a : RicAction) : RicAction :=
  { a with subseqAction := a.subseqAction.map heardSubsequent }

theorem heardSubsequent_iff (s : RicSubsequentAction) :
    heardSubsequent s = s ↔ s.timeToWaitMs ≠ some 0 := by
  obtain ⟨type, time⟩ := s
  cases time with
  | none => simp [heardSubsequent]
  | some ms => by_cases zero : ms = 0 <;> simp [heardSubsequent, Option.filter, zero]

theorem heardAction_iff (a : RicAction) : heardAction a = a ↔ a.Waits := by
  obtain ⟨id, type, definition, subseq⟩ := a
  cases subseq with
  | none => simp [heardAction, RicAction.Waits]
  | some s => simp [heardAction, RicAction.Waits, heardSubsequent_iff]

/-- A time to wait that is left out is 0 in the unit. -/
theorem encSubsequentAction_eq_ok {s : RicSubsequentAction} {ie : RicSubsequentActionIe} :
    encSubsequentAction s = .ok ie ↔
      (∀ ms, s.timeToWaitMs = some ms → ms.toNat < 18) ∧
        ⟨s.type, (s.timeToWaitMs.map UInt32.toNat).getD 0⟩ = ie := by
  obtain ⟨type, time⟩ := s
  cases time with
  | none => simp [encSubsequentAction]
  | some ms => simp [encSubsequentAction]

theorem decSubsequentAction_back {s : RicSubsequentAction} {ie : RicSubsequentActionIe}
    (encoded : encSubsequentAction s = .ok ie) : decSubsequentAction ie = heardSubsequent s := by
  obtain ⟨-, rfl⟩ := encSubsequentAction_eq_ok.mp encoded
  obtain ⟨type, time⟩ := s
  cases time with
  | none => simp [decSubsequentAction, heardSubsequent]
  | some ms =>
      by_cases zero : ms = 0
      · simp [decSubsequentAction, heardSubsequent, Option.filter, zero]
      · have nonzero : ms.toNat ≠ 0 := fun h => zero (UInt32.toNat_inj.mp h)
        simp [decSubsequentAction, heardSubsequent, Option.filter, zero, nonzero]

theorem action_returns (a : RicAction) : Returns encAction decAction a (heardAction a) := by
  intro ie encoded
  simp only [encAction, bind_eq_ok, pure_eq_ok] at encoded
  obtain ⟨definition, copied, subsequent, encodedSubsequent, rfl⟩ := encoded
  have back : subsequent.map decSubsequentAction = a.subseqAction.map heardSubsequent := by
    cases here : a.subseqAction with
    | none =>
        rw [here] at encodedSubsequent
        cases encodedSubsequent
        rfl
    | some s =>
        rw [here] at encodedSubsequent
        obtain ⟨ie, encodedIe, rfl⟩ := mapM_some_eq_ok.mp encodedSubsequent
        rw [Option.map_some, Option.map_some, decSubsequentAction_back encodedIe]
  simp only [decAction, Ie.expect_any, ok_bind, optional_ostring_back copied, back,
    UInt8.ofNat_toNat]
  rfl

theorem copyBaToOstring_completes {ba : Bytes} (filled : ba ≠ []) :
    ∃ os, copyBaToOstring ba = .ok os :=
  ⟨ba, copyBaToOstring_eq_ok.mpr ⟨filled, rfl⟩⟩

theorem encAction_completes {a : RicAction} (wf : a.WellFormed) : ∃ ie, encAction a = .ok ie := by
  obtain ⟨definition, copied⟩ :=
    optional_completes fun d here => copyBaToOstring_completes (wf.definition d here)
  obtain ⟨subsequent, encoded⟩ := optional_completes fun s here =>
    ⟨_, encSubsequentAction_eq_ok.mpr ⟨fun ms => wf.timeToWait s ms here, rfl⟩⟩
  exact ⟨_, by rw [encAction, copied, ok_bind, encoded]; rfl⟩

/-- The request comes back with what is heard of its actions. -/
theorem decRequestFrom_back {sr : RicSubscriptionRequest} (filled : 0 < sr.action.length)
    (few : sr.action.length ≤ maxNumActionDef) {details : Ie IeValue}
    (encoded : encSubscriptionDetails sr = .ok details) :
    decRequestFrom (encRicId sr.ricId ++ [details]) 0 =
      .ok { sr with action := sr.action.map heardAction } := by
  simp only [encSubscriptionDetails, bind_eq_ok, pure_eq_ok, copyBaToOstring_eq_ok] at encoded
  obtain ⟨_, ⟨-, rfl⟩, actions, encodedActions, rfl⟩ := encoded
  have back := mapM_back encodedActions fun a _ => action_returns a
  have ids : ∀ rest, decRicId (encRicId sr.ricId ++ rest) 0 (some .reject) none none =
      .ok sr.ricId := fun rest => (decRicId_eq_ok (.inr rfl) rest).mpr ⟨by simp, by simp, rfl⟩
  have length : 0 < actions.length ∧ actions.length ≤ maxNumActionDef := by
    rw [length_of_mapM encodedActions]
    exact ⟨filled, few⟩
  rw [decRequestFrom, ids]
  simp [encRicId, decSubscriptionDetails, check_pass _ length, back]

theorem encSubscriptionDetails_completes {sr : RicSubscriptionRequest} (wf : sr.WellFormed) :
    ∃ details, encSubscriptionDetails sr = .ok details := by
  obtain ⟨trigger, copied⟩ := copyBaToOstring_completes wf.eventTrigger
  obtain ⟨actions, encoded⟩ := mapM_completes fun a mem => encAction_completes (wf.each a mem)
  exact ⟨_, by rw [encSubscriptionDetails, copied, ok_bind, encoded]; rfl⟩

/-- The unit of a well-formed request is read as the request with what is heard of
    its actions. -/
theorem request_back {sr : RicSubscriptionRequest} (wf : sr.WellFormed) :
    ∃ pdu, e2apEncPdu (.ricSubReq sr) = .ok pdu ∧
      e2apDecPdu pdu = .ok (.ricSubReq { sr with action := sr.action.map heardAction }) := by
  obtain ⟨details, encoded⟩ := encSubscriptionDetails_completes wf
  have back := decRequestFrom_back wf.filled wf.few encoded
  refine ⟨⟨.initiatingMessage, .ricSubscription, .reject, .ricSubscriptionRequest,
    encRicId sr.ricId ++ [details]⟩, ?_, ?_⟩
  · simp only [e2apEncPdu, e2apEncSubscriptionRequest, check_pass _ wf.eventTrigger,
      check_pass _ wf.few, ok_bind, encoded]
    rfl
  · have count : (encRicId sr.ricId ++ [details]).length = 3 := rfl
    simp only [e2apDecPdu, e2apGetMsgType, decMsg, e2apDecSubscriptionRequest, Pdu.expect_any,
      ok_bind, check_pass _ count, back]
    rfl

structure RicSubscriptionResponse.WellFormed (sr : RicSubscriptionResponse) : Prop where
  request : sr.ricId.ricReqId.toNat < maxRicRequestId
  ranFunc : sr.ricId.ranFuncId.toNat < maxRanFuncId
  few : sr.notAdmitted.length ≤ 16
  length : sr.lenNa = sr.notAdmitted.length
  each : ∀ na ∈ sr.notAdmitted, ∃ cause, copyCause na.cause = .ok cause

theorem actionsAdmitted_back (admitted : List UInt8) :
    (admitted.map encActionAdmitted).mapM decActionAdmitted = .ok admitted := by
  induction admitted with
  | nil => rfl
  | cons id rest ih =>
      have small : id.toNat < maxRicActionId := id.toNat_lt
      have here : decActionAdmitted (encActionAdmitted id) = .ok id := by
        simp [decActionAdmitted, encActionAdmitted, check_pass _ small]
      exact mapM_cons_ok here ih

theorem actionNotAdmitted_returns (na : RicActionNotAdmitted) :
    Returns encActionNotAdmitted decActionNotAdmitted na na := by
  intro ie encoded
  simp only [encActionNotAdmitted, bind_eq_ok, pure_eq_ok] at encoded
  obtain ⟨cause, copied, rfl⟩ := encoded
  simp only [decActionNotAdmitted, Ie.expect_same, ok_bind, cause_returns _ _ copied,
    UInt8.ofNat_toNat]
  rfl

theorem encActionNotAdmitted_completes {na : RicActionNotAdmitted}
    (accepted : ∃ cause, copyCause na.cause = .ok cause) :
    ∃ ie, encActionNotAdmitted na = .ok ie := by
  obtain ⟨cause, copied⟩ := accepted
  exact ⟨_, by rw [encActionNotAdmitted, copied]; rfl⟩

/-- The unit of a well-formed response is refused for a RAN function of 256 or more, and
    is read without the length of the last list otherwise. -/
theorem response_back {sr : RicSubscriptionResponse} (wf : sr.WellFormed) :
    ∃ pdu, e2apEncPdu (.ricSubResp sr) = .ok pdu ∧ ∀ back, e2apDecPdu pdu = .ok back ↔
      sr.ricId.ranFuncId.toNat < maxNumRanFuncId ∧ .ricSubResp { sr with lenNa := 0 } = back := by
  obtain ⟨items, encoded⟩ :=
    mapM_completes fun na mem => encActionNotAdmitted_completes (wf.each na mem)
  have notAdmitted := mapM_back encoded fun na _ => actionNotAdmitted_returns na
  rw [List.map_id'] at notAdmitted
  have few : items.length < 17 := by
    rw [length_of_mapM encoded]
    exact Nat.lt_succ_of_le wf.few
  have instId : sr.ricId.ricInstId.toNat < maxRicRequestId := sr.ricId.ricInstId.toNat_lt
  refine ⟨⟨.successfulOutcome, .ricSubscription, .reject, .ricSubscriptionResponse,
    encRicId sr.ricId ++
      [⟨.ricActionsAdmitted, .reject, .ricActionAdmittedList (sr.admitted.map encActionAdmitted)⟩,
       ⟨.ricActionsNotAdmitted, .reject, .ricActionNotAdmittedList items⟩]⟩, ?_, ?_⟩
  · have all : sr.lenNa ≤ sr.notAdmitted.length := Nat.le_of_eq wf.length
    rw [e2apEncPdu, e2apEncSubscriptionResponse, check_pass _ all, ok_bind, wf.length,
      List.take_length, encoded]
    rfl
  · intro back
    have admitted := actionsAdmitted_back sr.admitted
    simp [e2apDecPdu, e2apGetMsgType, decMsg, e2apDecSubscriptionResponse, bind_eq_ok,
      decRicId_eq_ok (.inr rfl), wf.request, instId, decActionsAdmitted, admitted,
      decOptionalNotAdmitted, decActionsNotAdmitted, few, notAdmitted]

theorem decRicId_of_deletion {ricId : RicGenId} (ranFunc : ricId.ranFuncId.toNat < maxRanFuncId) :
    decRicId (encRicId ricId) 0 (some .reject) none (some maxRanFuncId) = .ok ricId := by
  rw [← List.append_nil (encRicId ricId)]
  exact (decRicId_eq_ok (.inr rfl) []).mpr ⟨by simp, by simpa using ranFunc, rfl⟩

theorem deleteRequest_back {dr : RicSubscriptionDeleteRequest}
    (ranFunc : dr.ricId.ranFuncId.toNat < maxRanFuncId) :
    ∃ pdu, e2apEncPdu (.ricSubDelReq dr) = .ok pdu ∧ e2apDecPdu pdu = .ok (.ricSubDelReq dr) := by
  refine ⟨_, rfl, ?_⟩
  simp [e2apDecPdu, e2apGetMsgType, decMsg, e2apDecSubscriptionDeleteRequest,
    decRicId_of_deletion ranFunc]

theorem deleteResponse_back {dr : RicSubscriptionDeleteResponse}
    (ranFunc : dr.ricId.ranFuncId.toNat < maxRanFuncId) :
    ∃ pdu, e2apEncPdu (.ricSubDelResp dr) = .ok pdu ∧ e2apDecPdu pdu = .ok (.ricSubDelResp dr) := by
  refine ⟨_, rfl, ?_⟩
  simp [e2apDecPdu, e2apGetMsgType, decMsg, e2apDecSubscriptionDeleteResponse,
    decRicId_of_deletion ranFunc]

/-- A message of the subscription procedures, as the standard has it. -/
def SubscriptionMsg : E2apMsg → Prop
  | .ricSubReq m => m.WellFormed
  | .ricSubResp m => m.WellFormed
  | .ricSubDelReq m => m.ricId.ranFuncId.toNat < maxRanFuncId
  | .ricSubDelResp m => m.ricId.ranFuncId.toNat < maxRanFuncId
  | _ => False

/-- The messages that nothing is lost of. -/
def SubscriptionKept : E2apMsg → Prop
  | .ricSubReq m => ∀ a ∈ m.action, a.Waits
  | .ricSubResp m => m.notAdmitted = [] ∧ m.ricId.ranFuncId.toNat < maxNumRanFuncId
  | _ => True

variable {aper : Aper}

theorem request_kept_iff {sr : RicSubscriptionRequest} (wf : sr.WellFormed)
    (inverts : aper.Inverts (.ricSubReq sr)) :
    ComesBack aper (.ricSubReq sr) (.ricSubReq sr) ↔
      (∀ a ∈ sr.action, a.Waits) ∧ aper.Holds (.ricSubReq sr) := by
  obtain ⟨pdu, encoded, decoded⟩ := request_back wf
  rw [comesBack_iff_decoded inverts encoded, decoded]
  refine and_congr_left' ?_
  obtain ⟨ricId, eventTrigger, action⟩ := sr
  simp only [Except.ok.injEq, E2apMsg.ricSubReq.injEq, RicSubscriptionRequest.mk.injEq, true_and]
  have same := List.map_inj_left (l := action) (f := heardAction) (g := id)
  rw [List.map_id] at same
  exact same.trans (forall₂_congr fun a _ => heardAction_iff a)

theorem response_kept_iff {sr : RicSubscriptionResponse} (wf : sr.WellFormed)
    (inverts : aper.Inverts (.ricSubResp sr)) :
    ComesBack aper (.ricSubResp sr) (.ricSubResp sr) ↔
      (sr.notAdmitted = [] ∧ sr.ricId.ranFuncId.toNat < maxNumRanFuncId) ∧
        aper.Holds (.ricSubResp sr) := by
  obtain ⟨pdu, encoded, decoded⟩ := response_back wf
  rw [comesBack_iff_decoded inverts encoded, decoded]
  refine and_congr_left' ?_
  have length := wf.length
  obtain ⟨ricId, admitted, notAdmitted, lenNa⟩ := sr
  simp only [E2apMsg.ricSubResp.injEq, RicSubscriptionResponse.mk.injEq, true_and] at length ⊢
  rw [length, eq_comm (b := notAdmitted.length), List.length_eq_zero_iff, and_comm]

/-- A message that fits the encoder's buffer comes back when nothing is lost of it. -/
theorem subscription_round_trip_iff {msg : E2apMsg} (wellFormed : SubscriptionMsg msg)
    (inverts : aper.Inverts msg) :
    ComesBack aper msg msg ↔ SubscriptionKept msg ∧ aper.Holds msg := by
  cases msg with
  | ricSubReq m => exact request_kept_iff wellFormed inverts
  | ricSubResp m => exact response_kept_iff wellFormed inverts
  | ricSubDelReq m =>
      obtain ⟨pdu, encoded, decoded⟩ := deleteRequest_back wellFormed
      rw [comesBack_iff_decoded inverts encoded]
      exact and_congr_left' (iff_of_true decoded trivial)
  | ricSubDelResp m =>
      obtain ⟨pdu, encoded, decoded⟩ := deleteResponse_back wellFormed
      rw [comesBack_iff_decoded inverts encoded]
      exact and_congr_left' (iff_of_true decoded trivial)
  | _ => exact wellFormed.elim

def aRicId : RicGenId := ⟨1021, 0, 2⟩

/-- Two actions, of which the first has a definition and is followed by another. -/
def twoActions : RicSubscriptionRequest :=
  ⟨aRicId, [0x01],
    [⟨1, .report, some [0xAA, 0xBB], some ⟨.continue, some 3⟩⟩, ⟨2, .insert, none, none⟩]⟩

def twoActionsPdu : Pdu :=
  ⟨.initiatingMessage, .ricSubscription, .reject, .ricSubscriptionRequest,
    encRicId aRicId ++
      [⟨.ricSubscriptionDetails, .reject, .ricSubscriptionDetails
        ⟨[0x01],
          [⟨.ricActionToBeSetupItem, .reject, ⟨1, .report, some [0xAA, 0xBB], some ⟨.continue, 3⟩⟩⟩,
           ⟨.ricActionToBeSetupItem, .reject, ⟨2, .insert, none, none⟩⟩]⟩⟩]⟩

/-- The request in aligned PER. -/
def twoActionsBytes : Bytes :=
  [0x00, 0x08, 0x00, 0x2D, 0x00, 0x00, 0x03,
   0x00, 0x1D, 0x00, 0x05, 0x00, 0x03, 0xFD, 0x00, 0x00,
   0x00, 0x05, 0x00, 0x02, 0x00, 0x02,
   0x00, 0x1E, 0x00, 0x17, 0x00, 0x01, 0x01, 0x10,
   0x00, 0x13, 0x00, 0x08, 0x60, 0x01, 0x00, 0x02, 0xAA, 0xBB, 0x01, 0x80,
   0x00, 0x13, 0x00, 0x03, 0x00, 0x02, 0x20]

/-- Both actions are admitted. -/
def twoAdmitted : RicSubscriptionResponse := ⟨aRicId, [1, 2], [], 0⟩

def twoAdmittedPdu : Pdu :=
  ⟨.successfulOutcome, .ricSubscription, .reject, .ricSubscriptionResponse,
    encRicId aRicId ++
      [⟨.ricActionsAdmitted, .reject, .ricActionAdmittedList
        [⟨.ricActionAdmittedItem, .ignore, 1⟩, ⟨.ricActionAdmittedItem, .ignore, 2⟩]⟩,
       ⟨.ricActionsNotAdmitted, .reject, .ricActionNotAdmittedList []⟩]⟩

/-- The response in aligned PER. -/
def twoAdmittedBytes : Bytes :=
  [0x20, 0x08, 0x00, 0x28, 0x00, 0x00, 0x04,
   0x00, 0x1D, 0x00, 0x05, 0x00, 0x03, 0xFD, 0x00, 0x00,
   0x00, 0x05, 0x00, 0x02, 0x00, 0x02,
   0x00, 0x11, 0x00, 0x0D, 0x10, 0x00, 0x0E, 0x40, 0x02, 0x00, 0x01,
   0x00, 0x0E, 0x40, 0x02, 0x00, 0x02,
   0x00, 0x12, 0x00, 0x01, 0x00]

def subscriptionCodec : Aper :=
  .ofTable [(twoActionsPdu, twoActionsBytes), (twoAdmittedPdu, twoAdmittedBytes)]

theorem twoActions_wellFormed : twoActions.WellFormed := by
  have first :
      (⟨1, .report, some [0xAA, 0xBB], some ⟨.continue, some 3⟩⟩ : RicAction).WellFormed := by
    constructor
    · simp
    · intro s ms here wait
      cases here
      cases wait
      decide
  have second : (⟨2, .insert, none, none⟩ : RicAction).WellFormed := ⟨by simp, by simp⟩
  exact ⟨by decide, by decide, by decide,
    List.forall_mem_cons.mpr ⟨first, List.forall_mem_singleton.mpr second⟩⟩

theorem twoAdmitted_wellFormed : twoAdmitted.WellFormed where
  request := by decide
  ranFunc := by decide
  few := by decide
  length := rfl
  each := List.forall_mem_nil _

theorem subscription_round_trip_iff_two :
    (ComesBack subscriptionCodec (.ricSubReq twoActions) (.ricSubReq twoActions) ↔
      SubscriptionKept (.ricSubReq twoActions) ∧ subscriptionCodec.Holds (.ricSubReq twoActions)) ∧
    (ComesBack subscriptionCodec (.ricSubResp twoAdmitted) (.ricSubResp twoAdmitted) ↔
      SubscriptionKept (.ricSubResp twoAdmitted) ∧
        subscriptionCodec.Holds (.ricSubResp twoAdmitted)) :=
  ⟨subscription_round_trip_iff twoActions_wellFormed
      (inverts_of_inverse rfl ⟨twoActionsBytes, by decide +kernel, by decide +kernel⟩),
    subscription_round_trip_iff twoAdmitted_wellFormed
      (inverts_of_inverse rfl ⟨twoAdmittedBytes, by decide +kernel, by decide +kernel⟩)⟩

/-- One action, followed by another after a millisecond. -/
def aShortWait : RicSubscriptionRequest :=
  ⟨aRicId, [0x01], [⟨1, .report, none, some ⟨.continue, some 0⟩⟩]⟩

def aShortWaitPdu : Pdu :=
  ⟨.initiatingMessage, .ricSubscription, .reject, .ricSubscriptionRequest,
    encRicId aRicId ++
      [⟨.ricSubscriptionDetails, .reject, .ricSubscriptionDetails
        ⟨[0x01], [⟨.ricActionToBeSetupItem, .reject, ⟨1, .report, none, some ⟨.continue, 0⟩⟩⟩]⟩⟩]⟩

/-- The request in aligned PER. -/
def aShortWaitBytes : Bytes :=
  [0x00, 0x08, 0x00, 0x22, 0x00, 0x00, 0x03,
   0x00, 0x1D, 0x00, 0x05, 0x00, 0x03, 0xFD, 0x00, 0x00,
   0x00, 0x05, 0x00, 0x02, 0x00, 0x02,
   0x00, 0x1E, 0x00, 0x0C, 0x00, 0x01, 0x01, 0x00, 0x00, 0x13, 0x00, 0x04, 0x20, 0x01, 0x00, 0x00]

/-- The time to wait comes back as none. -/
theorem short_wait_lost :
    SubscriptionMsg (.ricSubReq aShortWait) ∧
      Aper.Inverts (Packing.only aShortWaitPdu aShortWaitBytes) (.ricSubReq aShortWait) ∧
      ¬ComesBack (.only aShortWaitPdu aShortWaitBytes) (.ricSubReq aShortWait)
        (.ricSubReq aShortWait) := by
  have action : ∀ a ∈ aShortWait.action, a.WellFormed := by
    intro a mem
    rw [List.mem_singleton.mp mem]
    constructor
    · intro d here
      cases here
    · intro s ms here wait
      cases here
      cases wait
      decide
  have wf : aShortWait.WellFormed := ⟨by decide, by decide, by decide, action⟩
  have inverts : Aper.Inverts (Packing.only aShortWaitPdu aShortWaitBytes)
      (.ricSubReq aShortWait) :=
    inverts_of_inverse rfl ⟨aShortWaitBytes, by decide +kernel, by decide +kernel⟩
  refine ⟨wf, inverts, ?_⟩
  intro back
  have waits := ((request_kept_iff wf inverts).mp back).1 _ List.mem_cons_self
  exact waits _ rfl rfl

end FlexRic.Asn
