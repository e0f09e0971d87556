import FlexRic.Asn.Parts

/-! # Indications and controls

The encoders and decoders of indications, controls and their acknowledgements. After
the ids a decoder goes through the elements in any order, and asserts of each that it
was not there before.
-/

namespace FlexRic.Asn

open Wire (Bytes)

/-- `MAX_RIC_INDICATION_SN`. -/
def maxRicIndicationSn : Nat := 65536

/-- `MAX_RIC_INDICATION_TYPE`. -/
def maxRicIndicationType : Nat := 2

def callProcessIdIe (v : Bytes) : Ie IeValue := ⟨.ricCallProcessId, .reject, .ricCallProcessId v⟩

def snIe (v : UInt16) : Ie IeValue := ⟨.ricIndicationSn, .reject, .ricIndicationSn v.toNat⟩

def ackRequestIe (v : RicControlAckReq) : Ie IeValue :=
  ⟨.ricControlAckRequest, .reject, .ricControlAckRequest v.toNat⟩

def outcomeIe (v : Bytes) : Ie IeValue := ⟨.ricControlOutcome, .reject, .ricControlOutcome v⟩

/-- The element with a call process id, where there is one. -/
def encCallProcessId (callProcessId : Option Bytes) : Except Fault (List (Ie IeValue)) := do
  let os ← callProcessId.mapM copyBaToOstring
  pure (os.toList.map callProcessIdIe)

/-- `e2ap_enc_indication_asn_pdu`. -/
def e2apEncIndication (ind : RicIndication) : Except Fault Pdu := do
  check (ind.hdr ≠ []) .empty
  check (ind.msg ≠ []) .empty
  let hdr ← copyBaToOstring ind.hdr
  let msg ← copyBaToOstring ind.msg
  let callProcessId ← encCallProcessId ind.callProcessId
  pure ⟨.initiatingMessage, .ricIndication, .ignore, .ricIndication,
    encRicId ind.ricId ++ [⟨.ricActionId, .reject, .ricActionId ind.actionId.toNat⟩] ++
      ind.sn.toList.map snIe ++
      [⟨.ricIndicationType, .reject, .ricIndicationType ind.type.toNat⟩,
       ⟨.ricIndicationHeader, .reject, .ricIndicationHeader hdr⟩,
       ⟨.ricIndicationMessage, .reject, .ricIndicationMessage msg⟩] ++
      callProcessId⟩

def indicationTypeOf : Nat → RicIndicationType
  | 0 => .report
  | _ => .insert

/-- One turn of the loop over the elements of an indication. -/
def decIndicationIe (ind : RicIndication) (ie : Ie IeValue) : Except Fault RicIndication := do
  match ie.id, ie.value with
  | .ricIndicationSn, .ricIndicationSn v =>
      check (ie.criticality = .reject) .criticality
      check (ind.sn = none) .twice
      check (v < maxRicIndicationSn) .bound
      pure { ind with sn := some (UInt16.ofNat v) }
  | .ricIndicationType, .ricIndicationType v =>
      check (ie.criticality = .reject) .criticality
      check (v < maxRicIndicationType) .bound
      pure { ind with type := indicationTypeOf v }
  | .ricIndicationHeader, .ricIndicationHeader v =>
      check (ie.criticality = .reject) .criticality
      check (ind.hdr = []) .twice
      let hdr ← copyOstringToBa v
      pure { ind with hdr := hdr }
  | .ricIndicationMessage, .ricIndicationMessage v =>
      check (ie.criticality = .reject) .criticality
      check (ind.msg = []) .twice
      let msg ← copyOstringToBa v
      pure { ind with msg := msg }
  | .ricCallProcessId, .ricCallProcessId v =>
      check (ie.criticality = .reject) .criticality
      check (ind.callProcessId = none) .twice
      let callProcessId ← copyOstringToBa v
      pure { ind with callProcessId := some callProcessId }
  | _, _ => throw .present

def asRicActionId : IeValue → Except Fault Nat
  | .ricActionId v => .ok v
  | _ => .error .present

/-- An indication before the loop: zeroed memory with the ids. -/
def RicIndication.start (ricId : RicGenId) (actionId : UInt8) : RicIndication where
  ricId := ricId
  actionId := actionId
  sn := none
  type := .report
  hdr := []
  msg := []
  callProcessId := none

/-- `e2ap_dec_indication`. -/
def e2apDecIndication (pdu : Pdu) : Except Fault E2apMsg := do
  pdu.expect .initiatingMessage .ricIndication (some .ignore) .ricIndication
  let ies := pdu.protocolIEs
  let ricId ← decRicId ies 0 (some .reject) (some maxRicRequestId) (some maxRanFuncId)
  let actionId ← ieAt ies 2 .ricActionId (some .reject) >>= asRicActionId
  check (actionId < maxRicActionId) .bound
  let ind ← (ies.drop 3).foldlM decIndicationIe (.start ricId (UInt8.ofNat actionId))
  pure (.ricInd ind)

/-- The elements of a control request after the ids. -/
def encControl (req : RicControlRequest) : Except Fault (List (Ie IeValue)) := do
  let callProcessId ← encCallProcessId req.callProcessId
  let hdr ← copyBaToOstring req.hdr
  let msg ← copyBaToOstring req.msg
  pure (callProcessId ++
    [⟨.ricControlHeader, .reject, .ricControlHeader hdr⟩,
     ⟨.ricControlMessage, .reject, .ricControlMessage msg⟩] ++
    req.ackReq.toList.map ackRequestIe)

/-- `e2ap_enc_control_request_asn_pdu`. -/
def e2apEncControlRequest (req : RicControlRequest) : Except Fault Pdu := do
  check (req.hdr ≠ []) .empty
  check (req.msg ≠ []) .empty
  let control ← encControl req
  pure ⟨.initiatingMessage, .ricControl, .reject, .ricControlRequest,
    encRicId req.ricId ++ control⟩

def ackReqOf : Nat → RicControlAckReq
  | 0 => .noAck
  | 1 => .ack
  | _ => .nack

/-- One turn of the loop over the elements of a control request. The criticality is
    ignored for the sake of another RIC. -/
def decControlIe (ctrl : RicControlRequest) (ie : Ie IeValue) :
    Except Fault RicControlRequest := do
  match ie.id, ie.value with
  | .ricCallProcessId, .ricCallProcessId v =>
      check (ctrl.callProcessId = none) .twice
      let callProcessId ← copyOstringToBa v
      pure { ctrl with callProcessId := some callProcessId }
  | .ricControlHeader, .ricControlHeader v =>
      check (ctrl.hdr = []) .twice
      let hdr ← copyOstringToBa v
      pure { ctrl with hdr := hdr }
  | .ricControlMessage, .ricControlMessage v =>
      check (ctrl.msg = []) .twice
      let msg ← copyOstringToBa v
      pure { ctrl with msg := msg }
  | .ricControlAckRequest, .ricControlAckRequest v =>
      check (ctrl.ackReq = none) .twice
      check (v < 3) .bound
      pure { ctrl with ackReq := some (ackReqOf v) }
  | _, _ => throw .present

def RicControlRequest.start (ricId : RicGenId) : RicControlRequest where
  ricId := ricId
  callProcessId := none
  hdr := []
  msg := []
  ackReq := none

/-- The control request in the elements from `first` on. -/
def decControlFrom (ies : List (Ie IeValue)) (first : Nat) : Except Fault RicControlRequest := do
  let ricId ← decRicId ies first none (some maxRicRequestId) (some maxRanFuncId)
  (ies.drop (first + 2)).foldlM decControlIe (.start ricId)

/-- `e2ap_dec_control_request`. -/
def e2apDecControlRequest (pdu : Pdu) : Except Fault E2apMsg := do
  pdu.expect .initiatingMessage .ricControl none .ricControlRequest
  let ctrl ← decControlFrom pdu.protocolIEs 0
  pure (.ricCtrlReq ctrl)

/-- The types that the encoder of the control request admits. -/
def controlTypes : List NgranNode := [.gNB, .gNBCU, .gNBCUUP, .gNBDU, .eNB]

/-- `e2ap_enc_e42_control_request_asn_pdu`. -/
def e2apEncE42ControlRequest (req : E42RicControlRequest) : Except Fault Pdu := do
  check (req.ctrlReq.hdr ≠ []) .empty
  check (req.ctrlReq.msg ≠ []) .empty
  check (req.id.type ∈ controlTypes) .notImplemented
  let id ← encGlobalE2nodeId req.id
  let control ← encControl req.ctrlReq
  pure ⟨.initiatingMessage, .e42RicControl, .reject, .e42RicControlRequest,
    ⟨.xappId, .reject, .xappId req.xappId.toNat⟩ ::
      ⟨.globalE2nodeId, .reject, .globalE2nodeId id⟩ ::
        (encRicId req.ctrlReq.ricId ++ control)⟩

/-- `e2ap_dec_e42_control_request`. -/
def e2apDecE42ControlRequest (pdu : Pdu) : Except Fault E2apMsg := do
  pdu.expect .initiatingMessage .e42RicControl none .e42RicControlRequest
  let ies := pdu.protocolIEs
  let xappId ← ieAt ies 0 .xappId (some .reject) >>= asXappId
  let choice ← ieAt ies 1 .globalE2nodeId (some .reject) >>= asNodeId
  let id ← decGlobalE2nodeId choice
  let ctrl ← decControlFrom ies 2
  pure (.e42RicCtrlReq ⟨UInt16.ofNat xappId, id, ctrl⟩)

/-- `e2ap_enc_control_ack_asn_pdu`. -/
def e2apEncControlAck (ca : RicControlAcknowledge) : Except Fault Pdu := do
  let callProcessId ← encCallProcessId ca.callProcessId
  let outcome ← ca.controlOutcome.mapM copyBaToOstring
  pure ⟨.successfulOutcome, .ricControl, .reject, .ricControlAcknowledge,
    encRicId ca.ricId ++ callProcessId ++ outcome.toList.map outcomeIe⟩

/-- One turn of the loop over the elements of an acknowledgement. -/
def decControlAckIe (ctrl : RicControlAcknowledge) (ie : Ie IeValue) :
    Except Fault RicControlAcknowledge := do
  match ie.id, ie.value with
  | .ricCallProcessId, .ricCallProcessId v =>
      check (ie.criticality = .reject) .criticality
      check (ctrl.callProcessId = none) .twice
      let callProcessId ← copyOstringToBa v
      pure { ctrl with callProcessId := some callProcessId }
  | .ricControlOutcome, .ricControlOutcome v =>
      check (ie.criticality = .reject) .criticality
      check (ctrl.controlOutcome = none) .twice
      let outcome ← copyOstringToBa v
      pure { ctrl with controlOutcome := some outcome }
  | _, _ => throw .present

/-- `e2ap_dec_control_ack`. -/
def e2apDecControlAck (pdu : Pdu) : Except Fault E2apMsg := do
  pdu.expect .successfulOutcome .ricControl (some .reject) .ricControlAcknowledge
  let ies := pdu.protocolIEs
  let ricId ← decRicId ies 0 (some .reject) (some maxRicRequestId) (some maxRanFuncId)
  let ctrl ← (ies.drop 2).foldlM decControlAckIe ⟨ricId, none, none⟩
  pure (.ricCtrlAck ctrl)

end FlexRic.Asn
