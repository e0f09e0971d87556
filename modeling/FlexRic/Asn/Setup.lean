import FlexRic.Asn.Parts

/-! # Setups of nodes

The encoders and decoders of the setup request and its response. After the identity a
decoder goes through the elements from the last one back. Encoder and decoder each
have bounds of their own on the lists.
-/

namespace FlexRic.Asn

open Wire (Bytes)
open GlobalE2NodeIds (NodeId)

/-- The types that the encoder of the setup request admits. -/
def setupTypes : List NgranNode := [.gNB, .gNBCU, .gNBCUCP, .gNBCUUP, .gNBDU, .eNB]

/-- An element with a list, where the list is not empty. -/
def unlessEmpty {α : Type} (items : List α) (element : List α → Ie IeValue) : List (Ie IeValue) :=
  if items = [] then [] else [element items]

/-- `e2ap_enc_setup_request_asn_pdu`. -/
def e2apEncSetupRequest (sr : E2SetupRequest) : Except Fault Pdu := do
  check (sr.id.type ∈ setupTypes) .notImplemented
  check (sr.ranFuncItem.length ≤ maxNumRanFuncId) .bound
  let id ← encGlobalE2nodeId sr.id
  let ranFunctions ← sr.ranFuncItem.mapM copyRanFunction
  check (0 < sr.compConfAdd.length) .bound
  let components ← sr.compConfAdd.mapM encNodeComponentConfAddition
  pure ⟨.initiatingMessage, .e2setup, .reject, .e2setupRequest,
    [⟨.transactionId, .reject, .transactionId sr.transId.toNat⟩,
     ⟨.globalE2nodeId, .reject, .globalE2nodeId id⟩] ++
    unlessEmpty ranFunctions
      (fun items => ⟨.ranFunctionsAdded, .reject, .ranFunctionsList items⟩) ++
    [⟨.e2nodeComponentConfigAddition, .reject, .componentConfigAdditionList components⟩]⟩

def asTransactionId : IeValue → Except Fault Nat
  | .transactionId v => .ok v
  | _ => .error .present

def decTransactionId (ies : List (Ie IeValue)) : Except Fault UInt8 := do
  let transId ← ieAt ies 0 .transactionId (some .reject) >>= asTransactionId
  check (transId < 256) .bound
  pure (UInt8.ofNat transId)

/-- The lists of a setup request as far as they were read: pointers that are null
    before. -/
structure SetupRequestLists where
  ranFuncItem : Option (List RanFunction)
  compConfAdd : Option (List NodeComponentConfigAdd)

/-- One turn of the loop over the elements of a setup request. -/
def decSetupRequestIe (sr : SetupRequestLists) (ie : Ie IeValue) :
    Except Fault SetupRequestLists := do
  match ie.id, ie.value with
  | .ranFunctionsAdded, .ranFunctionsList items =>
      check (ie.criticality = .reject) .criticality
      check (items.length < maxNumRanFuncId) .bound
      check (sr.ranFuncItem = none) .twice
      let ranFuncItem ← items.mapM decRanFunction
      pure { sr with ranFuncItem := some ranFuncItem }
  | .e2nodeComponentConfigAddition, .componentConfigAdditionList items =>
      check (ie.criticality = .reject) .criticality
      check (0 < items.length ∧ items.length < 1024) .bound
      check (sr.compConfAdd = none) .twice
      let compConfAdd ← items.mapM decNodeComponentConfAddition
      pure { sr with compConfAdd := some compConfAdd }
  | _, _ => throw .present

/-- `e2ap_dec_setup_request`. -/
def e2apDecSetupRequest (pdu : Pdu) : Except Fault E2apMsg := do
  pdu.expect .initiatingMessage .e2setup (some .reject) .e2setupRequest
  let ies := pdu.protocolIEs
  check (0 < ies.length ∧ ies.length < 5) .count
  let transId ← decTransactionId ies
  let choice ← ieAt ies 1 .globalE2nodeId (some .reject) >>= asNodeId
  let id ← decGlobalE2nodeId choice
  let lists ← (ies.drop 2).reverse.foldlM decSetupRequestIe ⟨none, none⟩
  pure (.e2StpReq ⟨transId, id, lists.ranFuncItem.getD [], lists.compConfAdd.getD []⟩)

def encAccepted (id : UInt16) : Ie Nat := ⟨.ranFunctionIdItem, .ignore, id.toNat⟩

/-- Its item has the id of an item without a cause. -/
def encRejected (src : RejectedRanFunction) :
    Except Fault (Ie (Option RanFunctionIdCauseItem)) := do
  let cause ← copyCause src.cause
  pure ⟨.ranFunctionIdItem, .ignore, some ⟨src.id.toNat, cause⟩⟩

def encGlobalRicId (id : GlobalRicId) : GlobalRicIdIe :=
  ⟨mccMncToPlmnid id.plmn, macroEnbIdToBitString id.nearRicId⟩

/-- `e2ap_enc_setup_response_asn_pdu`. -/
def e2apEncSetupResponse (sr : E2SetupResponse) : Except Fault Pdu := do
  check (sr.accepted.length ≤ maxNumRanFuncId) .bound
  check (sr.rejected.length ≤ maxNumRanFuncId) .bound
  check (sr.compConfigAddAck.length ≤ maxNumE2NodeComponents) .bound
  let rejected ← sr.rejected.mapM encRejected
  check (0 < sr.compConfigAddAck.length ∧ sr.compConfigAddAck.length < 1025) .bound
  let acks ← sr.compConfigAddAck.mapM encNodeComponentConfAdditionAck
  pure ⟨.successfulOutcome, .e2setup, .reject, .e2setupResponse,
    [⟨.transactionId, .reject, .transactionId sr.transId.toNat⟩,
     ⟨.globalRicId, .reject, .globalRicId (encGlobalRicId sr.id)⟩] ++
    unlessEmpty (sr.accepted.map encAccepted)
      (fun items => ⟨.ranFunctionsAccepted, .reject, .ranFunctionsIdList items⟩) ++
    unlessEmpty rejected
      (fun items => ⟨.ranFunctionsRejected, .reject, .ranFunctionsIdCauseList items⟩) ++
    [⟨.e2nodeComponentConfigAdditionAck, .reject, .componentConfigAdditionAckList acks⟩]⟩

def decAccepted (ie : Ie Nat) : Except Fault UInt16 := do
  let id ← ie.expect .ranFunctionIdItem (some .ignore)
  check (id < maxRanFuncId) .bound
  pure (UInt16.ofNat id)

def decRejected (ie : Ie (Option RanFunctionIdCauseItem)) : Except Fault RejectedRanFunction := do
  match ← ie.expect .ranFunctionIdItem (some .ignore) with
  | none => throw .present
  | some src =>
      check (src.ranFunctionId < maxRanFuncId) .bound
      let cause ← decCause src.cause
      pure ⟨UInt16.ofNat src.ranFunctionId, cause⟩

def asGlobalRicId : IeValue → Except Fault GlobalRicIdIe
  | .globalRicId v => .ok v
  | _ => .error .present

def decGlobalRicId (src : GlobalRicIdIe) : Except Fault GlobalRicId := do
  let plmn ← plmnidToMccMnc src.plmnIdentity
  let nearRicId ← bitStringToMacroEnbId src.ricId
  pure ⟨plmn, nearRicId⟩

/-- The lists of a setup response as far as they were read. -/
structure SetupResponseLists where
  accepted : Option (List UInt16)
  rejected : Option (List RejectedRanFunction)
  compConfigAddAck : Option (List NodeCompConfigAddAck)

/-- One turn of the loop over the elements of a setup response. -/
def decSetupResponseIe (sr : SetupResponseLists) (ie : Ie IeValue) :
    Except Fault SetupResponseLists := do
  match ie.id, ie.value with
  | .ranFunctionsAccepted, .ranFunctionsIdList items =>
      check (ie.criticality = .reject) .criticality
      check (items.length < maxNumRanFuncId) .bound
      check (sr.accepted = none) .twice
      let accepted ← items.mapM decAccepted
      pure { sr with accepted := some accepted }
  | .ranFunctionsRejected, .ranFunctionsIdCauseList items =>
      check (ie.criticality = .reject) .criticality
      check (sr.rejected = none) .twice
      let rejected ← items.mapM decRejected
      pure { sr with rejected := some rejected }
  | .e2nodeComponentConfigAdditionAck, .componentConfigAdditionAckList items =>
      check (ie.criticality = .reject) .criticality
      check (items.length < maxNumE2NodeComponents) .bound
      check (sr.compConfigAddAck = none) .twice
      let acks ← items.mapM decNodeComponentConfAdditionAck
      pure { sr with compConfigAddAck := some acks }
  | _, _ => throw .present

/-- `e2ap_dec_setup_response_success`; the other outcome is not implemented. -/
def e2apDecSetupResponse (pdu : Pdu) : Except Fault E2apMsg := do
  pdu.expect .successfulOutcome .e2setup (some .reject) .e2setupResponse
  let ies := pdu.protocolIEs
  check (0 < ies.length ∧ ies.length < 5) .count
  let transId ← decTransactionId ies
  let ric ← ieAt ies 1 .globalRicId (some .reject) >>= asGlobalRicId
  let id ← decGlobalRicId ric
  let lists ← (ies.drop 2).reverse.foldlM decSetupResponseIe ⟨none, none, none⟩
  pure (.e2StpResp ⟨transId, id, lists.accepted.getD [], lists.rejected.getD [],
    lists.compConfigAddAck.getD []⟩)

end FlexRic.Asn
