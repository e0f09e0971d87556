import FlexRic.Asn.Parts

/-! # Subscriptions

The encoders and decoders of the subscription procedures. The elements of a message
are looked up by their position.
-/

namespace FlexRic.Asn

open Wire (Bytes)

/-- A time to wait that is left out is sent as 0. -/
def encSubsequentAction (src : RicSubsequentAction) : Except Fault RicSubsequentActionIe :=
  match src.timeToWaitMs with
  | some ms => do
      check (ms.toNat < 18) .bound
      pure ⟨src.type, ms.toNat⟩
  | none => .ok ⟨src.type, 0⟩

def encAction (src : RicAction) : Except Fault (Ie RicActionToBeSetupItem) := do
  let definition ← src.definition.mapM copyBaToOstring
  let subsequentAction ← src.subseqAction.mapM encSubsequentAction
  pure ⟨.ricActionToBeSetupItem, .reject,
    ⟨src.id.toNat, src.type, definition, subsequentAction⟩⟩

/-- The element with the details of a subscription. -/
def encSubscriptionDetails (sr : RicSubscriptionRequest) : Except Fault (Ie IeValue) := do
  let eventTrigger ← copyBaToOstring sr.eventTrigger
  let actions ← sr.action.mapM encAction
  pure ⟨.ricSubscriptionDetails, .reject, .ricSubscriptionDetails ⟨eventTrigger, actions⟩⟩

/-- `e2ap_enc_subscription_request_asn_pdu`. -/
def e2apEncSubscriptionRequest (sr : RicSubscriptionRequest) : Except Fault Pdu := do
  check (sr.eventTrigger ≠ []) .empty
  check (sr.action.length ≤ maxNumActionDef) .bound
  let details ← encSubscriptionDetails sr
  pure ⟨.initiatingMessage, .ricSubscription, .reject, .ricSubscriptionRequest,
    encRicId sr.ricId ++ [details]⟩

/-- A time to wait of 0 is taken for none. -/
def decSubsequentAction (src : RicSubsequentActionIe) : RicSubsequentAction where
  type := src.ricSubsequentActionType
  timeToWaitMs := if src.ricTimeToWait ≠ 0 then some (UInt32.ofNat src.ricTimeToWait) else none

def decAction (ie : Ie RicActionToBeSetupItem) : Except Fault RicAction := do
  -- the criticality is ignored for the sake of another RIC
  let src ← ie.expect .ricActionToBeSetupItem none
  let definition ← src.ricActionDefinition.mapM copyOstringToBa
  pure ⟨UInt8.ofNat src.ricActionId, src.ricActionType, definition,
    src.ricSubsequentAction.map decSubsequentAction⟩

/-- The event trigger and the actions. -/
def decSubscriptionDetails : IeValue → Except Fault (Bytes × List RicAction)
  | .ricSubscriptionDetails details => do
      let items := details.ricActionToBeSetupList
      check (0 < items.length ∧ items.length ≤ maxNumActionDef) .bound
      let actions ← items.mapM decAction
      pure (details.ricEventTriggerDefinition, actions)
  | _ => .error .present

/-- The request in the elements from `first` on. -/
def decRequestFrom (ies : List (Ie IeValue)) (first : Nat) :
    Except Fault RicSubscriptionRequest := do
  let ricId ← decRicId ies first (some .reject) none none
  let details ← ieAt ies (first + 2) .ricSubscriptionDetails (some .reject)
  let (eventTrigger, action) ← decSubscriptionDetails details
  pure ⟨ricId, eventTrigger, action⟩

/-- `e2ap_dec_subscription_request`. -/
def e2apDecSubscriptionRequest (pdu : Pdu) : Except Fault E2apMsg := do
  pdu.expect .initiatingMessage .ricSubscription none .ricSubscriptionRequest
  check (pdu.protocolIEs.length = 3) .count
  let sr ← decRequestFrom pdu.protocolIEs 0
  pure (.ricSubReq sr)

def encActionAdmitted (ricActId : UInt8) : Ie Nat :=
  ⟨.ricActionAdmittedItem, .ignore, ricActId.toNat⟩

def encActionNotAdmitted (src : RicActionNotAdmitted) :
    Except Fault (Ie RicActionNotAdmittedItem) := do
  let cause ← copyCause src.cause
  pure ⟨.ricActionNotAdmittedItem, .reject, ⟨src.ricActId.toNat, cause⟩⟩

/-- `e2ap_enc_subscription_response_asn_pdu`. -/
def e2apEncSubscriptionResponse (sr : RicSubscriptionResponse) : Except Fault Pdu := do
  check (sr.lenNa ≤ sr.notAdmitted.length) .missing
  let notAdmitted ← (sr.notAdmitted.take sr.lenNa).mapM encActionNotAdmitted
  pure ⟨.successfulOutcome, .ricSubscription, .reject, .ricSubscriptionResponse,
    encRicId sr.ricId ++
      [⟨.ricActionsAdmitted, .reject, .ricActionAdmittedList (sr.admitted.map encActionAdmitted)⟩,
       ⟨.ricActionsNotAdmitted, .reject, .ricActionNotAdmittedList notAdmitted⟩]⟩

def decActionAdmitted (ie : Ie Nat) : Except Fault UInt8 := do
  let ricActId ← ie.expect .ricActionAdmittedItem (some .ignore)
  check (ricActId < maxRicActionId) .bound
  pure (UInt8.ofNat ricActId)

def decActionsAdmitted : IeValue → Except Fault (List UInt8)
  | .ricActionAdmittedList items => items.mapM decActionAdmitted
  | _ => .error .present

def decActionNotAdmitted (ie : Ie RicActionNotAdmittedItem) :
    Except Fault RicActionNotAdmitted := do
  let src ← ie.expect .ricActionNotAdmittedItem (some .reject)
  let cause ← decCause src.cause
  pure ⟨UInt8.ofNat src.ricActionId, cause⟩

def decActionsNotAdmitted : IeValue → Except Fault (List RicActionNotAdmitted)
  | .ricActionNotAdmittedList items => do
      check (items.length < 17) .bound
      items.mapM decActionNotAdmitted
  | _ => .error .present

/-- The actions that are not admitted, where there is an element for them. -/
def decOptionalNotAdmitted (ies : List (Ie IeValue)) : Except Fault (List RicActionNotAdmitted) :=
  if 3 < ies.length then do
    let value ← ieAt ies 3 .ricActionsNotAdmitted (some .reject)
    decActionsNotAdmitted value
  else .ok []

/-- `e2ap_dec_subscription_response`. The length of the last list is never set. -/
def e2apDecSubscriptionResponse (pdu : Pdu) : Except Fault E2apMsg := do
  pdu.expect .successfulOutcome .ricSubscription (some .reject) .ricSubscriptionResponse
  let ies := pdu.protocolIEs
  let ricId ← decRicId ies 0 (some .reject) (some maxRicRequestId) (some maxNumRanFuncId)
  let value ← ieAt ies 2 .ricActionsAdmitted (some .reject)
  let admitted ← decActionsAdmitted value
  let notAdmitted ← decOptionalNotAdmitted ies
  pure (.ricSubResp ⟨ricId, admitted, notAdmitted, 0⟩)

/-- `e2ap_enc_subscription_delete_request_asn_pdu`. -/
def e2apEncSubscriptionDeleteRequest (dr : RicSubscriptionDeleteRequest) : Except Fault Pdu :=
  .ok ⟨.initiatingMessage, .ricSubscriptionDelete, .reject, .ricSubscriptionDeleteRequest,
    encRicId dr.ricId⟩

/-- `e2ap_dec_subscription_delete_request`. -/
def e2apDecSubscriptionDeleteRequest (pdu : Pdu) : Except Fault E2apMsg := do
  pdu.expect .initiatingMessage .ricSubscriptionDelete (some .reject) .ricSubscriptionDeleteRequest
  let ricId ← decRicId pdu.protocolIEs 0 (some .reject) none (some maxRanFuncId)
  pure (.ricSubDelReq ⟨ricId⟩)

/-- `e2ap_enc_subscription_delete_response_asn_pdu`. -/
def e2apEncSubscriptionDeleteResponse (dr : RicSubscriptionDeleteResponse) : Except Fault Pdu :=
  .ok ⟨.successfulOutcome, .ricSubscriptionDelete, .reject, .ricSubscriptionDeleteResponse,
    encRicId dr.ricId⟩

/-- `e2ap_dec_subscription_delete_response`. -/
def e2apDecSubscriptionDeleteResponse (pdu : Pdu) : Except Fault E2apMsg := do
  pdu.expect .successfulOutcome .ricSubscriptionDelete (some .reject)
    .ricSubscriptionDeleteResponse
  let ricId ← decRicId pdu.protocolIEs 0 (some .reject) none (some maxRanFuncId)
  pure (.ricSubDelResp ⟨ricId⟩)

end FlexRic.Asn
