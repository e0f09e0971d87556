import FlexRic.Asn.Codec

/-! # Indications and controls, there and back

Whatever optional elements a message has, the loops of the decoders take each of them
up once. Only the type of a CU is not sent with a request of an xApp.
-/

namespace FlexRic.Asn

open Wire (Bytes)
open GlobalE2NodeIds (NodeId)

/-- Where there is an octet string it has octets. -/
def Filled (o : Option Bytes) : Prop := ∀ ba, o = some ba → ba ≠ []

theorem encCallProcessId_eq_ok {o : Option Bytes} {ies : List (Ie IeValue)} :
    encCallProcessId o = .ok ies ↔ Filled o ∧ o.toList.map callProcessIdIe = ies := by
  simp only [encCallProcessId, bind_eq_ok, pure_eq_ok, optional_ostring_eq_ok]
  constructor
  · rintro ⟨os, ⟨filled, rfl⟩, rfl⟩
    exact ⟨filled, rfl⟩
  · rintro ⟨filled, rfl⟩
    exact ⟨o, ⟨filled, rfl⟩, rfl⟩

/-- The ids over the ranges of the protocol. -/
structure IdsInRange (ricId : RicGenId) : Prop where
  request : ricId.ricReqId.toNat < maxRicRequestId
  ranFunc : ricId.ranFuncId.toNat < maxRanFuncId

theorem decRicId_of_inRange {ricId : RicGenId} {criticality : Option Criticality}
    (inRange : IdsInRange ricId)
    (unchecked : criticality = none ∨ criticality = some .reject) (rest : List (Ie IeValue)) :
    decRicId (encRicId ricId ++ rest) 0 criticality (some maxRicRequestId) (some maxRanFuncId) =
      .ok ricId := by
  have instId : ricId.ricInstId.toNat < maxRicRequestId := ricId.ricInstId.toNat_lt
  apply (decRicId_eq_ok unchecked rest).mpr
  simp [inRange.request, instId, inRange.ranFunc]

theorem indicationTypeOf_toNat (type : RicIndicationType) :
    indicationTypeOf type.toNat = type := by
  cases type <;> rfl

theorem indicationType_lt (type : RicIndicationType) : type.toNat < maxRicIndicationType := by
  cases type <;> decide

/-- The elements of an indication after the ids. -/
def indicationIes (ind : RicIndication) : List (Ie IeValue) :=
  ind.sn.toList.map snIe ++
    [⟨.ricIndicationType, .reject, .ricIndicationType ind.type.toNat⟩,
     ⟨.ricIndicationHeader, .reject, .ricIndicationHeader ind.hdr⟩,
     ⟨.ricIndicationMessage, .reject, .ricIndicationMessage ind.msg⟩] ++
    ind.callProcessId.toList.map callProcessIdIe

/-- The loop takes up the elements of the indication one by one. -/
theorem decIndication_loop {ind : RicIndication} (hdr : ind.hdr ≠ []) (msg : ind.msg ≠ [])
    (call : Filled ind.callProcessId) :
    (indicationIes ind).foldlM decIndicationIe (.start ind.ricId ind.actionId) = .ok ind := by
  obtain ⟨ricId, actionId, sn, type, hdrBytes, msgBytes, callProcessId⟩ := ind
  have takeSn : (sn.toList.map snIe).foldlM decIndicationIe (.start ricId actionId) =
      .ok ⟨ricId, actionId, sn, .report, [], [], none⟩ := by
    apply foldlM_optional
    · rintro rfl
      rfl
    · rintro v rfl
      have small : v.toNat < maxRicIndicationSn := v.toNat_lt
      simp [decIndicationIe, snIe, RicIndication.start, check_pass _ small]
  have takeCall : (callProcessId.toList.map callProcessIdIe).foldlM decIndicationIe
      ⟨ricId, actionId, sn, type, hdrBytes, msgBytes, none⟩ =
      .ok ⟨ricId, actionId, sn, type, hdrBytes, msgBytes, callProcessId⟩ := by
    apply foldlM_optional
    · rintro rfl
      rfl
    · rintro v rfl
      simp [decIndicationIe, callProcessIdIe, copyOstringToBa_ok (call v rfl)]
  rw [indicationIes, List.append_assoc, foldlM_append_ok takeSn]
  simp [decIndicationIe, check_pass _ (indicationType_lt type),
    copyOstringToBa_ok hdr, copyOstringToBa_ok msg, indicationTypeOf_toNat, takeCall]

structure RicIndication.WellFormed (ind : RicIndication) : Prop where
  ids : IdsInRange ind.ricId
  hdr : ind.hdr ≠ []
  msg : ind.msg ≠ []
  call : Filled ind.callProcessId

theorem indication_back {ind : RicIndication} (wf : ind.WellFormed) :
    ∃ pdu, e2apEncPdu (.ricInd ind) = .ok pdu ∧ e2apDecPdu pdu = .ok (.ricInd ind) := by
  have call : encCallProcessId ind.callProcessId = .ok _ :=
    encCallProcessId_eq_ok.mpr ⟨wf.call, rfl⟩
  have small : ind.actionId.toNat < maxRicActionId := ind.actionId.toNat_lt
  have loop := decIndication_loop wf.hdr wf.msg wf.call
  refine ⟨⟨.initiatingMessage, .ricIndication, .ignore, .ricIndication,
    encRicId ind.ricId ++ (⟨.ricActionId, .reject, .ricActionId ind.actionId.toNat⟩ ::
      indicationIes ind)⟩, ?_, ?_⟩
  · simp only [e2apEncPdu, e2apEncIndication, check_pass _ wf.hdr, check_pass _ wf.msg, ok_bind,
      copyBaToOstring, call, indicationIes, List.append_assoc]
    rfl
  · simp [e2apDecPdu, e2apGetMsgType, decMsg, e2apDecIndication, asRicActionId,
      decRicId_of_inRange wf.ids (.inr rfl), check_pass _ small, loop]

theorem ackReqOf_toNat (ackReq : RicControlAckReq) : ackReqOf ackReq.toNat = ackReq := by
  cases ackReq <;> rfl

theorem ackReq_lt (ackReq : RicControlAckReq) : ackReq.toNat < 3 := by
  cases ackReq <;> decide

structure RicControlRequest.WellFormed (req : RicControlRequest) : Prop where
  ids : IdsInRange req.ricId
  hdr : req.hdr ≠ []
  msg : req.msg ≠ []
  call : Filled req.callProcessId

/-- The elements of a control request after the ids. -/
def controlIes (req : RicControlRequest) : List (Ie IeValue) :=
  req.callProcessId.toList.map callProcessIdIe ++
    ([⟨.ricControlHeader, .reject, .ricControlHeader req.hdr⟩,
      ⟨.ricControlMessage, .reject, .ricControlMessage req.msg⟩] ++
      req.ackReq.toList.map ackRequestIe)

variable {req : RicControlRequest}

theorem encControl_ok (wf : req.WellFormed) : encControl req = .ok (controlIes req) := by
  have call : encCallProcessId req.callProcessId = .ok _ :=
    encCallProcessId_eq_ok.mpr ⟨wf.call, rfl⟩
  simp only [encControl, call, ok_bind, copyBaToOstring, check_pass _ wf.hdr, check_pass _ wf.msg,
    controlIes, List.append_assoc]
  rfl

/-- The loop takes up the elements of the request one by one. -/
theorem decControl_loop (wf : req.WellFormed) :
    (controlIes req).foldlM decControlIe (.start req.ricId) = .ok req := by
  obtain ⟨ricId, callProcessId, hdrBytes, msgBytes, ackReq⟩ := req
  have takeCall : (callProcessId.toList.map callProcessIdIe).foldlM decControlIe (.start ricId) =
      .ok ⟨ricId, callProcessId, [], [], none⟩ := by
    apply foldlM_optional
    · rintro rfl
      rfl
    · rintro v rfl
      simp [decControlIe, callProcessIdIe, RicControlRequest.start,
        copyOstringToBa_ok (wf.call v rfl)]
  have takeAck : (ackReq.toList.map ackRequestIe).foldlM decControlIe
      ⟨ricId, callProcessId, hdrBytes, msgBytes, none⟩ =
      .ok ⟨ricId, callProcessId, hdrBytes, msgBytes, ackReq⟩ := by
    apply foldlM_optional
    · rintro rfl
      rfl
    · rintro v rfl
      simp [decControlIe, ackRequestIe, check_pass _ (ackReq_lt v), ackReqOf_toNat]
  rw [controlIes, foldlM_append_ok takeCall]
  simp [decControlIe, copyOstringToBa_ok wf.hdr, copyOstringToBa_ok wf.msg, takeAck]

theorem decControlFrom_back (wf : req.WellFormed) :
    decControlFrom (encRicId req.ricId ++ controlIes req) 0 = .ok req := by
  rw [decControlFrom, decRicId_of_inRange wf.ids (.inl rfl), ok_bind, drop_encRicId,
    List.drop_zero, decControl_loop wf]

@[simp] theorem decControlFrom_cons (ie : Ie IeValue) (ies : List (Ie IeValue)) (first : Nat) :
    decControlFrom (ie :: ies) (first + 1) = decControlFrom ies first := rfl

theorem controlRequest_back (wf : req.WellFormed) :
    ∃ pdu, e2apEncPdu (.ricCtrlReq req) = .ok pdu ∧ e2apDecPdu pdu = .ok (.ricCtrlReq req) := by
  refine ⟨⟨.initiatingMessage, .ricControl, .reject, .ricControlRequest,
    encRicId req.ricId ++ controlIes req⟩, ?_, ?_⟩
  · simp only [e2apEncPdu, e2apEncControlRequest, check_pass _ wf.hdr, check_pass _ wf.msg, ok_bind,
      encControl_ok wf]
    rfl
  · simp [e2apDecPdu, e2apGetMsgType, decMsg, e2apDecControlRequest, decControlFrom_back wf]

/-- A CU is written like a gNB that is not split. -/
def cuAsGnb (id : NodeId) : NodeId :=
  if id.type = .gNBCU then { id with type := .gNB, cuDuId := none } else id

theorem heard_eq_cuAsGnb {id : NodeId} (wf : NodeWellFormed id)
    (admitted : id.type ∈ controlTypes) : heard id = cuAsGnb id := by
  by_cases cu : id.type = .gNBCU
  · rw [cuAsGnb, if_pos cu]
    simp [heard, heardType, cu]
  · have kept : heardType id.type = id.type := by
      simp only [controlTypes, List.mem_cons, List.not_mem_nil, or_false, cu, false_or] at admitted
      rcases admitted with type | type | type | type <;> rw [type] <;> rfl
    rw [cuAsGnb, if_neg cu, wf.heard_eq kept]

structure E42RicControlRequest.WellFormed (req : E42RicControlRequest) : Prop where
  node : NodeWellFormed req.id
  admitted : req.id.type ∈ controlTypes
  ctrlReq : req.ctrlReq.WellFormed

/-- A request arrives, under what is heard of its node. -/
theorem e42ControlRequest_arrives {req : E42RicControlRequest} {choice : GlobalE2nodeIdChoice}
    {back : NodeId} (wf : req.ctrlReq.WellFormed) (admitted : req.id.type ∈ controlTypes)
    (encoded : encGlobalE2nodeId req.id = .ok choice)
    (decoded : decGlobalE2nodeId choice = .ok back) :
    ∃ pdu, e2apEncPdu (.e42RicCtrlReq req) = .ok pdu ∧
      e2apDecPdu pdu = .ok (.e42RicCtrlReq { req with id := back }) := by
  refine ⟨⟨.initiatingMessage, .e42RicControl, .reject, .e42RicControlRequest,
    ⟨.xappId, .reject, .xappId req.xappId.toNat⟩ ::
      ⟨.globalE2nodeId, .reject, .globalE2nodeId choice⟩ ::
        (encRicId req.ctrlReq.ricId ++ controlIes req.ctrlReq)⟩, ?_, ?_⟩
  · simp only [e2apEncPdu, e2apEncE42ControlRequest, check_pass _ wf.hdr, check_pass _ wf.msg,
      check_pass _ admitted, ok_bind, encoded, encControl_ok wf]
    rfl
  · simp [e2apDecPdu, e2apGetMsgType, decMsg, e2apDecE42ControlRequest, asXappId, asNodeId, decoded,
      decControlFrom_back wf]

theorem e42ControlRequest_back {req : E42RicControlRequest} (wf : req.WellFormed) :
    ∃ pdu, e2apEncPdu (.e42RicCtrlReq req) = .ok pdu ∧
      e2apDecPdu pdu = .ok (.e42RicCtrlReq { req with id := cuAsGnb req.id }) := by
  obtain ⟨choice, encoded⟩ := wf.node.encodes
  have decoded := wf.node.returns choice encoded
  rw [heard_eq_cuAsGnb wf.node wf.admitted] at decoded
  exact e42ControlRequest_arrives wf.ctrlReq wf.admitted encoded decoded

structure RicControlAcknowledge.WellFormed (ca : RicControlAcknowledge) : Prop where
  ids : IdsInRange ca.ricId
  call : Filled ca.callProcessId
  outcome : Filled ca.controlOutcome

/-- The elements of an acknowledgement after the ids. -/
def controlAckIes (ca : RicControlAcknowledge) : List (Ie IeValue) :=
  ca.callProcessId.toList.map callProcessIdIe ++ ca.controlOutcome.toList.map outcomeIe

/-- The loop takes up what there is of the two elements. -/
theorem decControlAck_loop {ca : RicControlAcknowledge} (wf : ca.WellFormed) :
    (controlAckIes ca).foldlM decControlAckIe ⟨ca.ricId, none, none⟩ = .ok ca := by
  obtain ⟨ricId, callProcessId, outcome⟩ := ca
  have takeCall : (callProcessId.toList.map callProcessIdIe).foldlM decControlAckIe
      ⟨ricId, none, none⟩ = .ok ⟨ricId, callProcessId, none⟩ := by
    apply foldlM_optional
    · rintro rfl
      rfl
    · rintro v rfl
      simp [decControlAckIe, callProcessIdIe, copyOstringToBa_ok (wf.call v rfl)]
  rw [controlAckIes, foldlM_append_ok takeCall]
  apply foldlM_optional
  · rintro rfl
    rfl
  · rintro v rfl
    simp [decControlAckIe, outcomeIe, copyOstringToBa_ok (wf.outcome v rfl)]

theorem controlAck_back {ca : RicControlAcknowledge} (wf : ca.WellFormed) :
    ∃ pdu, e2apEncPdu (.ricCtrlAck ca) = .ok pdu ∧ e2apDecPdu pdu = .ok (.ricCtrlAck ca) := by
  have call : encCallProcessId ca.callProcessId = .ok _ :=
    encCallProcessId_eq_ok.mpr ⟨wf.call, rfl⟩
  have outcome : ca.controlOutcome.mapM copyBaToOstring = .ok _ :=
    optional_ostring_eq_ok.mpr ⟨wf.outcome, rfl⟩
  have loop := decControlAck_loop wf
  refine ⟨⟨.successfulOutcome, .ricControl, .reject, .ricControlAcknowledge,
    encRicId ca.ricId ++ controlAckIes ca⟩, ?_, ?_⟩
  · simp only [e2apEncPdu, e2apEncControlAck, call, outcome, ok_bind, List.append_assoc]
    rfl
  · simp [e2apDecPdu, e2apGetMsgType, decMsg, e2apDecControlAck,
      decRicId_of_inRange wf.ids (.inr rfl), loop]

/-- A message of these kinds, as the standard has it. -/
def ControlMsg : E2apMsg → Prop
  | .ricInd m => m.WellFormed
  | .ricCtrlReq m => m.WellFormed
  | .e42RicCtrlReq m => m.WellFormed
  | .ricCtrlAck m => m.WellFormed
  | _ => False

/-- The message that is received: a CU is a gNB there. -/
def controlHeard : E2apMsg → E2apMsg
  | .e42RicCtrlReq m => .e42RicCtrlReq { m with id := cuAsGnb m.id }
  | msg => msg

variable {aper : Aper}

theorem control_msg_round_trip {msg : E2apMsg} (wellFormed : ControlMsg msg)
    (carries : aper.Carries msg) : ComesBack aper msg (controlHeard msg) := by
  cases msg with
  | ricInd m =>
      obtain ⟨pdu, encoded, decoded⟩ := indication_back wellFormed
      exact (comesBack_of_carries carries encoded).mpr decoded
  | ricCtrlReq m =>
      obtain ⟨pdu, encoded, decoded⟩ := controlRequest_back wellFormed
      exact (comesBack_of_carries carries encoded).mpr decoded
  | e42RicCtrlReq m =>
      obtain ⟨pdu, encoded, decoded⟩ := e42ControlRequest_back wellFormed
      exact (comesBack_of_carries carries encoded).mpr decoded
  | ricCtrlAck m =>
      obtain ⟨pdu, encoded, decoded⟩ := controlAck_back wellFormed
      exact (comesBack_of_carries carries encoded).mpr decoded
  | _ => exact wellFormed.elim

/-- An acknowledgement with all that it may have. -/
def aControlAck : RicControlAcknowledge := ⟨⟨1021, 0, 2⟩, some [0x07], some [0x2A]⟩

def aControlAckPdu : Pdu :=
  ⟨.successfulOutcome, .ricControl, .reject, .ricControlAcknowledge,
    encRicId aControlAck.ricId ++ [callProcessIdIe [0x07], outcomeIe [0x2A]]⟩

/-- The acknowledgement in aligned PER. -/
def aControlAckBytes : Bytes :=
  [0x20, 0x04, 0x00, 0x1E, 0x00, 0x00, 0x04,
   0x00, 0x1D, 0x00, 0x05, 0x00, 0x03, 0xFD, 0x00, 0x00,
   0x00, 0x05, 0x00, 0x02, 0x00, 0x02,
   0x00, 0x14, 0x00, 0x02, 0x01, 0x07,
   0x00, 0x20, 0x00, 0x02, 0x01, 0x2A]

theorem aControlAck_wellFormed : aControlAck.WellFormed := by
  constructor
  · exact ⟨by decide, by decide⟩
  · intro ba here
    cases here
    simp
  · intro ba here
    cases here
    simp

theorem control_msg_round_trip_ack :
    ComesBack (.only aControlAckPdu aControlAckBytes) (.ricCtrlAck aControlAck)
      (controlHeard (.ricCtrlAck aControlAck)) :=
  control_msg_round_trip aControlAck_wellFormed
    (Aper.only_carries rfl (by decide) (by decide))

/-- A CU in a network with a code of two digits. -/
def aCu : NodeId := ⟨.gNBCU, ⟨208, 95, 2⟩, ⟨7, 0⟩, none⟩

def aCuControl : E42RicControlRequest := ⟨7, aCu, ⟨⟨1021, 0, 2⟩, none, [0x01], [0x02], none⟩⟩

def aCuControlPdu : Pdu :=
  ⟨.initiatingMessage, .e42RicControl, .reject, .e42RicControlRequest,
    ⟨.xappId, .reject, .xappId 7⟩ ::
      ⟨.globalE2nodeId, .reject, .globalE2nodeId
        (.gNB ⟨[0x02, 0xF8, 0x59], ⟨[0x00, 0x00, 0x00, 0x07], 0⟩, none, none⟩)⟩ ::
        (encRicId ⟨1021, 0, 2⟩ ++ controlIes aCuControl.ctrlReq)⟩

/-- The request in aligned PER. -/
def aCuControlBytes : Bytes :=
  [0x00, 0x11, 0x00, 0x31, 0x00, 0x00, 0x06,
   0x00, 0x3E, 0x00, 0x02, 0x00, 0x07,
   0x00, 0x03, 0x00, 0x09, 0x00, 0x02, 0xF8, 0x59, 0x50, 0x00, 0x00, 0x00, 0x07,
   0x00, 0x1D, 0x00, 0x05, 0x00, 0x03, 0xFD, 0x00, 0x00,
   0x00, 0x05, 0x00, 0x02, 0x00, 0x02,
   0x00, 0x16, 0x00, 0x02, 0x01, 0x01,
   0x00, 0x17, 0x00, 0x02, 0x01, 0x02]

theorem aCuControl_wellFormed : aCuControl.WellFormed := by
  have unit : GlobalE2NodeIds.WellFormed aCu := ⟨by decide, by decide⟩
  have node : NodeWellFormed aCu := ⟨unit, by decide, fun _ => ⟨by decide, by decide⟩, by decide⟩
  have ids : IdsInRange aCuControl.ctrlReq.ricId := ⟨by decide, by decide⟩
  refine ⟨node, by decide, ids, by decide, by decide, ?_⟩
  intro ba here
  cases here

/-- The CU comes back as a gNB. -/
theorem cu_control_changed :
    ControlMsg (.e42RicCtrlReq aCuControl) ∧
      Aper.Carries (Packing.only aCuControlPdu aCuControlBytes) (.e42RicCtrlReq aCuControl) ∧
      ¬ComesBack (.only aCuControlPdu aCuControlBytes) (.e42RicCtrlReq aCuControl)
        (.e42RicCtrlReq aCuControl) := by
  have carries : Aper.Carries (Packing.only aCuControlPdu aCuControlBytes)
      (.e42RicCtrlReq aCuControl) :=
    Aper.only_carries rfl (by decide) (by decide)
  refine ⟨aCuControl_wellFormed, carries, ?_⟩
  obtain ⟨pdu, encoded, decoded⟩ := e42ControlRequest_back aCuControl_wellFormed
  rw [comesBack_of_carries carries encoded, decoded]
  simp [cuAsGnb, aCuControl, aCu]

end FlexRic.Asn
