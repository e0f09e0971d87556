import FlexRic.Asn.Codec

/-! # Setups, there and back

The decoders stop one short of the maxima of the encoders. Rejected RAN functions do not
arrive at all: their items are written under the id of an item without a cause, so that
the generated decoder passes over their values.
-/

namespace FlexRic.Asn

open Wire (Bytes)
open GlobalE2NodeIds (NodeId)

theorem unlessEmpty_reverse {α : Type} (items : List α) (element : List α → Ie IeValue) :
    (unlessEmpty items element).reverse = unlessEmpty items element := by
  unfold unlessEmpty
  split <;> rfl

@[simp] theorem unlessEmpty_nil {α : Type} (element : List α → Ie IeValue) :
    unlessEmpty [] element = [] := rfl

/-- The pointer to a list after the loop: it stays null for the empty list. -/
def unlessNil {α : Type} (items : List α) : Option (List α) :=
  if items = [] then none else some items

@[simp] theorem unlessNil_getD {α : Type} (items : List α) : (unlessNil items).getD [] = items := by
  unfold unlessNil
  split
  · rename_i empty
    rw [empty]
    rfl
  · rfl

structure E2SetupRequest.WellFormed (sr : E2SetupRequest) : Prop where
  node : NodeWellFormed sr.id
  whole : sr.id.type ≠ .gNBCU ∧ sr.id.type ≠ .gNBCUCP
  functions : ∀ rf ∈ sr.ranFuncItem, rf.InRange

/-- The loop meets the components first. -/
theorem decSetupRequest_loop_iff {items : List (Ie RanFunctionItem)} {rf : List RanFunction}
    {components : List (Ie ComponentConfigAdditionItem)} {cca : List NodeComponentConfigAdd}
    (functions : items.mapM decRanFunction = .ok rf)
    (decoded : components.mapM decNodeComponentConfAddition = .ok cca) (lists : SetupRequestLists) :
    (⟨.e2nodeComponentConfigAddition, .reject, .componentConfigAdditionList components⟩ ::
      unlessEmpty items
        (fun items => ⟨.ranFunctionsAdded, .reject, .ranFunctionsList items⟩)).foldlM
        decSetupRequestIe ⟨none, none⟩ = .ok lists ↔
      (0 < cca.length ∧ cca.length < 1024) ∧ rf.length < maxNumRanFuncId ∧
        ⟨unlessNil rf, some cca⟩ = lists := by
  rw [length_of_mapM decoded, length_of_mapM functions, unlessNil,
    if_congr (eq_nil_of_mapM functions) rfl rfl]
  by_cases empty : items = []
  · simp [unlessEmpty, empty, decSetupRequestIe, bind_eq_ok, decoded, maxNumRanFuncId]
  · simp [unlessEmpty, empty, decSetupRequestIe, bind_eq_ok, decoded, functions]

theorem decTransactionId_back (transId : UInt8) (ies : List (Ie IeValue)) :
    decTransactionId (⟨.transactionId, .reject, .transactionId transId.toNat⟩ :: ies) =
      .ok transId := by
  have small : transId.toNat < 256 := transId.toNat_lt
  simp [decTransactionId, asTransactionId, check_pass _ small]

theorem unlessEmpty_length {α : Type} (items : List α) (element : List α → Ie IeValue) :
    (unlessEmpty items element).length = if items = [] then 0 else 1 := by
  unfold unlessEmpty
  split <;> rfl

/-- The unit of an accepted request is read just below the maxima of the encoder. -/
theorem setupRequest_back_iff {sr : E2SetupRequest} {pdu : Pdu} {back : E2apMsg}
    (wf : sr.WellFormed) (encoded : e2apEncPdu (.e2StpReq sr) = .ok pdu) :
    e2apDecPdu pdu = .ok back ↔
      sr.compConfAdd.length < 1024 ∧ sr.ranFuncItem.length < maxNumRanFuncId ∧
        .e2StpReq sr = back := by
  simp only [e2apEncPdu, e2apEncSetupRequest, bind_eq_ok, check_eq_ok, pure_eq_ok] at encoded
  obtain ⟨_, admitted, _, few, choice, encodedId, items, copied, _, some, components,
    encodedComponents, rfl⟩ := encoded
  have kept : heardType sr.id.type = sr.id.type := by
    simp only [setupTypes, List.mem_cons, List.not_mem_nil, or_false, wf.whole.1, wf.whole.2,
      false_or] at admitted
    rcases admitted with type | type | type | type <;> rw [type] <;> rfl
  have id : decGlobalE2nodeId choice = .ok sr.id := by
    rw [wf.node.returns choice encodedId, wf.node.heard_eq kept]
  have functions := mapM_back copied fun rf mem => ranFunction_returns (wf.functions rf mem)
  have decoded := mapM_back encodedComponents fun cca _ => nodeComponentConfAddition_returns cca
  rw [List.map_id'] at functions decoded
  have count : (unlessEmpty items
      (fun items => ⟨.ranFunctionsAdded, .reject, .ranFunctionsList items⟩)).length + 1 + 1 + 1 <
        5 := by
    rw [unlessEmpty_length]
    split <;> decide
  have lists := decSetupRequest_loop_iff functions decoded
  simp [-List.foldlM_cons, e2apDecPdu, e2apGetMsgType, decMsg, e2apDecSetupRequest,
    decTransactionId_back, asNodeId, id, unlessEmpty_reverse, lists, some, count,
    and_assoc]

structure E2SetupResponse.WellFormed (sr : E2SetupResponse) : Prop where
  network : PlmnFits sr.id.plmn
  accepted : ∀ id ∈ sr.accepted, id.toNat < maxRanFuncId
  rejected : ∀ r ∈ sr.rejected, r.id.toNat < maxRanFuncId

/-- The identity of the RIC with the bits that are sent. -/
def GlobalRicId.sent (id : GlobalRicId) : GlobalRicId :=
  { id with nearRicId := sentBits id.nearRicId }

theorem globalRicId_back {id : GlobalRicId} (network : PlmnFits id.plmn) :
    decGlobalRicId (encGlobalRicId id) = .ok id.sent := by
  simp only [decGlobalRicId, encGlobalRicId, (plmnid_back_iff id.plmn).mpr network,
    macroEnbId_back, ok_bind]
  rfl

theorem accepted_back {accepted : List UInt16} (small : ∀ id ∈ accepted, id.toNat < maxRanFuncId) :
    (accepted.map encAccepted).mapM decAccepted = .ok accepted := by
  induction accepted with
  | nil => rfl
  | cons id rest ih =>
      have here : decAccepted (encAccepted id) = .ok id := by
        simp [decAccepted, encAccepted, check_pass _ (small id List.mem_cons_self)]
      exact mapM_cons_ok here (ih fun id mem => small id (List.mem_cons_of_mem _ mem))

/-- The loop meets the components first and the accepted functions last. -/
theorem decSetupResponse_loop_iff {items : List (Ie Nat)} {accepted : List UInt16}
    {acks : List (Ie ComponentConfigAdditionAckItem)} {ccaa : List NodeCompConfigAddAck}
    (decodedItems : items.mapM decAccepted = .ok accepted)
    (decoded : acks.mapM decNodeComponentConfAdditionAck = .ok ccaa) (lists : SetupResponseLists) :
    (⟨.e2nodeComponentConfigAdditionAck, .reject, .componentConfigAdditionAckList acks⟩ ::
      unlessEmpty items
        (fun items => ⟨.ranFunctionsAccepted, .reject, .ranFunctionsIdList items⟩)).foldlM
        decSetupResponseIe ⟨none, none, none⟩ = .ok lists ↔
      ccaa.length < maxNumE2NodeComponents ∧ accepted.length < maxNumRanFuncId ∧
        ⟨unlessNil accepted, none, some ccaa⟩ = lists := by
  rw [length_of_mapM decoded, length_of_mapM decodedItems, unlessNil,
    if_congr (eq_nil_of_mapM decodedItems) rfl rfl]
  by_cases empty : items = []
  · simp [unlessEmpty, empty, decSetupResponseIe, bind_eq_ok, decoded, maxNumRanFuncId]
  · simp [unlessEmpty, empty, decSetupResponseIe, bind_eq_ok, decoded, decodedItems]

/-- The first rejected function that arrives has no value. -/
theorem rejected_refused {r : RejectedRanFunction} {rest : List RejectedRanFunction}
    {causes : List (Ie (Option RanFunctionIdCauseItem))} {back : List RejectedRanFunction}
    (encoded : (r :: rest).mapM encRejected = .ok causes) :
    (causes.map Ie.received).mapM decRejected ≠ .ok back := by
  simp only [List.mapM_cons, encRejected, bind_eq_ok, pure_eq_ok] at encoded
  obtain ⟨_, ⟨cause, -, rfl⟩, causes, -, rfl⟩ := encoded
  intro decoded
  simp [List.mapM_cons, Ie.received, decRejected, bind_eq_ok] at decoded

/-- The loop stops where these are not read. -/
theorem decSetupResponse_loop_refused {acks : List (Ie ComponentConfigAdditionAckItem)}
    {causes : List (Ie (Option RanFunctionIdCauseItem))} {others : List (Ie IeValue)}
    (refused : ∀ back, causes.mapM decRejected ≠ .ok back) (lists : SetupResponseLists) :
    (⟨.e2nodeComponentConfigAdditionAck, .reject, .componentConfigAdditionAckList acks⟩ ::
      ⟨.ranFunctionsRejected, .reject, .ranFunctionsIdCauseList causes⟩ :: others).foldlM
        decSetupResponseIe ⟨none, none, none⟩ ≠ .ok lists := by
  simp [decSetupResponseIe, bind_eq_ok, refused]

/-- Only the items of rejected functions change on the way. -/
theorem received_unlessEmpty {α : Type} (items : List α) (element arrived : List α → Ie IeValue)
    (same : { element items with value := (element items).value.received } = arrived items) :
    (unlessEmpty items element).map (fun ie => { ie with value := ie.value.received }) =
      unlessEmpty items arrived := by
  unfold unlessEmpty
  split
  · rfl
  · rw [List.map_singleton, same]

/-- The unit of an accepted response is read below the maxima of the encoder, and without
    rejected functions. -/
theorem setupResponse_back_iff {sr : E2SetupResponse} {pdu : Pdu} {back : E2apMsg}
    (wf : sr.WellFormed) (encoded : e2apEncPdu (.e2StpResp sr) = .ok pdu) :
    e2apDecPdu pdu.received = .ok back ↔
      sr.rejected = [] ∧ sr.compConfigAddAck.length < maxNumE2NodeComponents ∧
        sr.accepted.length < maxNumRanFuncId ∧ .e2StpResp { sr with id := sr.id.sent } = back := by
  simp only [e2apEncPdu, e2apEncSetupResponse, bind_eq_ok, check_eq_ok, pure_eq_ok] at encoded
  obtain ⟨_, -, _, -, _, -, causes, encodedCauses, _, some, acks, encodedAcks, rfl⟩ := encoded
  have accepted := accepted_back wf.accepted
  have decoded := mapM_back encodedAcks fun ccaa _ => nodeComponentConfAdditionAck_returns ccaa
  rw [List.map_id'] at decoded
  have acceptedArrive := received_unlessEmpty (sr.accepted.map encAccepted)
    (fun items => ⟨.ranFunctionsAccepted, .reject, .ranFunctionsIdList items⟩)
    (fun items => ⟨.ranFunctionsAccepted, .reject, .ranFunctionsIdList items⟩) rfl
  have causesArrive := received_unlessEmpty causes
    (fun items => ⟨.ranFunctionsRejected, .reject, .ranFunctionsIdCauseList items⟩)
    (fun items => ⟨.ranFunctionsRejected, .reject,
      .ranFunctionsIdCauseList (items.map Ie.received)⟩) rfl
  have empty := eq_nil_of_mapM encodedCauses
  simp only [Pdu.received, List.map_append, acceptedArrive, causesArrive, List.map_cons,
    List.map_nil]
  simp only [IeValue.received]
  cases rejected : sr.rejected with
  | nil =>
      have lists := decSetupResponse_loop_iff accepted decoded
      have count : (unlessEmpty (sr.accepted.map encAccepted)
          (fun items => ⟨.ranFunctionsAccepted, .reject, .ranFunctionsIdList items⟩)).length +
          1 + 1 + 1 < 5 := by
        rw [unlessEmpty_length]
        split <;> decide
      simp [-List.foldlM_cons, empty.mpr rejected, e2apDecPdu, e2apGetMsgType, decMsg,
        e2apDecSetupResponse, decTransactionId_back, asGlobalRicId, globalRicId_back wf.network,
        unlessEmpty_reverse, lists, count, and_assoc]
  | cons r rest =>
      rw [rejected] at encodedCauses
      have some : causes ≠ [] := by
        rw [Ne, empty, rejected]
        exact List.cons_ne_nil r rest
      have refused : ∀ back, (causes.map Ie.received).mapM decRejected ≠ .ok back :=
        fun _ => rejected_refused encodedCauses
      refine iff_of_false ?_ (fun here => List.cons_ne_nil r rest here.1)
      simp [-List.foldlM_cons, unlessEmpty.eq_def causes, some, e2apDecPdu, e2apGetMsgType, decMsg,
        e2apDecSetupResponse, decTransactionId_back, asGlobalRicId, globalRicId_back wf.network,
        unlessEmpty_reverse, bind_eq_ok, decSetupResponse_loop_refused refused]

/-- A setup, as the standard has it. -/
def SetupMsg : E2apMsg → Prop
  | .e2StpReq m => m.WellFormed
  | .e2StpResp m => m.WellFormed
  | _ => False

/-- A setup as far as it is compared: of the identity of the RIC 20 bits. -/
def compared : E2apMsg → E2apMsg
  | .e2StpResp m => .e2StpResp { m with id := m.id.sent }
  | msg => msg

/-- The setups that the decoder takes. -/
def SetupTaken : E2apMsg → Prop
  | .e2StpReq m => m.compConfAdd.length < 1024 ∧ m.ranFuncItem.length < maxNumRanFuncId
  | .e2StpResp m => m.rejected = [] ∧ m.compConfigAddAck.length < maxNumE2NodeComponents ∧
      m.accepted.length < maxNumRanFuncId
  | _ => True

theorem GlobalRicId.sent_sent (id : GlobalRicId) : id.sent.sent = id.sent := by
  have small : id.sent.nearRicId.toNat < 2 ^ 20 := by
    rw [GlobalRicId.sent, sentBits_toNat]
    exact Nat.mod_lt _ (Nat.two_pow_pos 20)
  rw [GlobalRicId.sent, sentBits_of_lt small]

/-- A request arrives as it was sent. -/
theorem setupRequest_received {sr : E2SetupRequest} {pdu : Pdu}
    (encoded : e2apEncPdu (.e2StpReq sr) = .ok pdu) : pdu.received = pdu := by
  simp only [e2apEncPdu, e2apEncSetupRequest, bind_eq_ok, pure_eq_ok] at encoded
  obtain ⟨_, -, _, -, choice, -, items, -, _, -, components, -, rfl⟩ := encoded
  have arrive := received_unlessEmpty items
    (fun items => ⟨.ranFunctionsAdded, .reject, .ranFunctionsList items⟩)
    (fun items => ⟨.ranFunctionsAdded, .reject, .ranFunctionsList items⟩) rfl
  simp only [Pdu.received, List.map_append, arrive]
  rfl

variable {aper : Aper}

/-- What is decoded of the encoder's bytes is what is decoded of the unit that arrives. -/
theorem e2apMsgDecAsn_encoded {msg : E2apMsg} {ba : Bytes}
    (accepted : e2apMsgEncAsn aper msg = .ok ba)
    (delivers : ∀ pdu, e2apEncPdu msg = .ok pdu → aper.Delivers pdu) :
    ∃ pdu, e2apEncPdu msg = .ok pdu ∧ e2apMsgDecAsn aper ba = e2apDecPdu pdu.received := by
  obtain ⟨pdu, encoded, written⟩ := bind_eq_ok.mp accepted
  refine ⟨pdu, encoded, ?_⟩
  rw [e2apMsgDecAsn, created written (delivers pdu encoded), ok_bind]

/-- A setup that the encoder accepts comes back when the decoder has room for its lists, and
    without rejected functions. -/
theorem setup_round_trip_iff {msg : E2apMsg} {ba : Bytes} (wellFormed : SetupMsg msg)
    (accepted : e2apMsgEncAsn aper msg = .ok ba)
    (delivers : ∀ pdu, e2apEncPdu msg = .ok pdu → aper.Delivers pdu) :
    (∃ back, e2apMsgDecAsn aper ba = .ok back ∧ compared back = compared msg) ↔
      SetupTaken msg := by
  obtain ⟨pdu, encoded, decodes⟩ := e2apMsgDecAsn_encoded accepted delivers
  rw [decodes]
  cases msg with
  | e2StpReq m =>
      simp only [setupRequest_received encoded, setupRequest_back_iff wellFormed encoded]
      constructor
      · rintro ⟨back, ⟨components, functions, -⟩, -⟩
        exact ⟨components, functions⟩
      · rintro ⟨components, functions⟩
        exact ⟨_, ⟨components, functions, rfl⟩, rfl⟩
  | e2StpResp m =>
      simp only [setupResponse_back_iff wellFormed encoded]
      constructor
      · rintro ⟨back, ⟨none, components, functions, -⟩, -⟩
        exact ⟨none, components, functions⟩
      · rintro ⟨none, components, functions⟩
        refine ⟨_, ⟨none, components, functions, rfl⟩, ?_⟩
        simp only [compared, GlobalRicId.sent_sent]
  | _ => exact wellFormed.elim

/-- A codec as far as one unit and its bytes go. -/
def Aper.delivering (pdu : Pdu) (ba : Bytes) : Aper :=
  { Packing.only pdu ba with unpack := fun read => if read = ba then some pdu.received else none }

theorem Aper.delivering_accepts {msg : E2apMsg} {pdu : Pdu} (ba : Bytes)
    (encoded : e2apEncPdu msg = .ok pdu) (filled : ba ≠ []) (short : ba.length < bufferLen) :
    e2apMsgEncAsn (.delivering pdu ba) msg = .ok ba ∧
      ∀ other, e2apEncPdu msg = .ok other → (Aper.delivering pdu ba).Delivers other := by
  have written : (Aper.delivering pdu ba).pack pdu = some ba := if_pos ⟨rfl, filled⟩
  constructor
  · simp only [e2apMsgEncAsn, encoded, ok_bind, e2apEncAsnPduBa, written, check_pass _ short]
    rfl
  · intro other encodedOther
    cases encoded.symm.trans encodedOther
    exact ⟨ba, written, if_pos rfl⟩

def aNode : NodeId := ⟨.gNB, ⟨208, 95, 2⟩, ⟨7, 0⟩, none⟩

/-- A node with one RAN function and two components. -/
def aSetupRequest : E2SetupRequest :=
  ⟨1, aNode, [⟨[0x0C], 2, 1, [0x31]⟩],
    [⟨.f1, .f1 5, [0x0A], [0x0B]⟩, ⟨.ng, .ng [0x41], [0x0A], [0x0B]⟩]⟩

def aSetupRequestPdu : Pdu :=
  ⟨.initiatingMessage, .e2setup, .reject, .e2setupRequest,
    [⟨.transactionId, .reject, .transactionId 1⟩,
     ⟨.globalE2nodeId, .reject, .globalE2nodeId
      (.gNB ⟨[0x02, 0xF8, 0x59], ⟨[0x00, 0x00, 0x00, 0x07], 0⟩, none, none⟩)⟩,
     ⟨.ranFunctionsAdded, .reject, .ranFunctionsList
      [⟨.ranFunctionItem, .reject, ⟨2, [0x0C], 1, [0x31]⟩⟩]⟩,
     ⟨.e2nodeComponentConfigAddition, .reject, .componentConfigAdditionList
      [⟨.e2nodeComponentConfigAdditionItem, .reject, ⟨.f1, .f1 5, [0x0A], [0x0B]⟩⟩,
       ⟨.e2nodeComponentConfigAdditionItem, .reject, ⟨.ng, .ng [0x41], [0x0A], [0x0B]⟩⟩]⟩]⟩

/-- The request in aligned PER. -/
def aSetupRequestBytes : Bytes :=
  [0x00, 0x01, 0x00, 0x49, 0x00, 0x00, 0x04,
   0x00, 0x31, 0x00, 0x02, 0x00, 0x01,
   0x00, 0x03, 0x00, 0x09, 0x00, 0x02, 0xF8, 0x59, 0x50, 0x00, 0x00, 0x00, 0x07,
   0x00, 0x0A, 0x00, 0x10, 0x00,
   0x00, 0x08, 0x00, 0x0B, 0x00, 0x00, 0x02, 0x01, 0x0C, 0x00, 0x01, 0x00, 0x00, 0x00, 0x31,
   0x00, 0x32, 0x00, 0x1B, 0x00, 0x01,
   0x00, 0x33, 0x00, 0x08, 0x19, 0x80, 0x05, 0x00, 0x01, 0x0A, 0x01, 0x0B,
   0x00, 0x33, 0x00, 0x09, 0x00, 0x00, 0x00, 0x41, 0x00, 0x01, 0x0A, 0x01, 0x0B]

theorem aNode_wellFormed : NodeWellFormed aNode :=
  ⟨⟨by decide, by decide⟩, by decide, fun _ => ⟨by decide, by decide⟩, by decide⟩

theorem aSetupRequest_wellFormed : aSetupRequest.WellFormed :=
  ⟨aNode_wellFormed, by decide, List.forall_mem_singleton.mpr ⟨by decide, by decide⟩⟩

/-- A response that accepts one function. -/
def aSetupResponse : E2SetupResponse :=
  ⟨1, ⟨⟨208, 95, 2⟩, 19⟩, [2], [], [⟨.f1, .f1 5, .success, none⟩]⟩

def aRicElement : Ie IeValue :=
  ⟨.globalRicId, .reject, .globalRicId ⟨[0x02, 0xF8, 0x59], ⟨[0x00, 0x01, 0x30], 4⟩⟩⟩

def anAckElement : Ie IeValue :=
  ⟨.e2nodeComponentConfigAdditionAck, .reject, .componentConfigAdditionAckList
    [⟨.e2nodeComponentConfigAdditionAckItem, .reject, ⟨.f1, .f1 5, .success, none⟩⟩]⟩

def aSetupResponsePdu : Pdu :=
  ⟨.successfulOutcome, .e2setup, .reject, .e2setupResponse,
    [⟨.transactionId, .reject, .transactionId 1⟩, aRicElement,
     ⟨.ranFunctionsAccepted, .reject, .ranFunctionsIdList [⟨.ranFunctionIdItem, .ignore, 2⟩]⟩,
     anAckElement]⟩

/-- The response in aligned PER. -/
def aSetupResponseBytes : Bytes :=
  [0x20, 0x01, 0x00, 0x30, 0x00, 0x00, 0x04,
   0x00, 0x31, 0x00, 0x02, 0x00, 0x01,
   0x00, 0x04, 0x00, 0x07, 0x00, 0x02, 0xF8, 0x59, 0x00, 0x01, 0x30,
   0x00, 0x09, 0x00, 0x0A, 0x00, 0x00, 0x06, 0x40, 0x05, 0x00, 0x00, 0x02, 0x00, 0x00,
   0x00, 0x34, 0x00, 0x0A, 0x00, 0x00, 0x00, 0x35, 0x00, 0x04, 0x19, 0x80, 0x05, 0x00]

theorem aSetupResponse_wellFormed : aSetupResponse.WellFormed :=
  ⟨by decide, List.forall_mem_singleton.mpr (by decide), List.forall_mem_nil _⟩

theorem aSetupRequest_encoded : e2apEncPdu (.e2StpReq aSetupRequest) = .ok aSetupRequestPdu := rfl

theorem aSetupResponse_encoded :
    e2apEncPdu (.e2StpResp aSetupResponse) = .ok aSetupResponsePdu := rfl

theorem setup_round_trip_iff_both :
    ((∃ back, e2apMsgDecAsn (.delivering aSetupRequestPdu aSetupRequestBytes) aSetupRequestBytes =
        .ok back ∧ compared back = compared (.e2StpReq aSetupRequest)) ↔
      SetupTaken (.e2StpReq aSetupRequest)) ∧
    ((∃ back, e2apMsgDecAsn (.delivering aSetupResponsePdu aSetupResponseBytes)
        aSetupResponseBytes = .ok back ∧ compared back = compared (.e2StpResp aSetupResponse)) ↔
      SetupTaken (.e2StpResp aSetupResponse)) := by
  have request := Aper.delivering_accepts aSetupRequestBytes aSetupRequest_encoded
    (by decide) (by decide)
  have response := Aper.delivering_accepts aSetupResponseBytes aSetupResponse_encoded
    (by decide) (by decide)
  exact ⟨setup_round_trip_iff aSetupRequest_wellFormed request.1 request.2,
    setup_round_trip_iff aSetupResponse_wellFormed response.1 response.2⟩

/-- All RAN functions that the encoder takes are accepted. -/
def aFullResponse : E2SetupResponse :=
  { aSetupResponse with accepted := (List.range 256).map UInt16.ofNat }

def aFullResponsePdu : Pdu :=
  ⟨.successfulOutcome, .e2setup, .reject, .e2setupResponse,
    [⟨.transactionId, .reject, .transactionId 1⟩, aRicElement,
     ⟨.ranFunctionsAccepted, .reject, .ranFunctionsIdList (aFullResponse.accepted.map encAccepted)⟩,
     anAckElement]⟩

def aFullResponseBytes : Bytes :=
  [0x20, 0x01, 0x00, 0x89, 0x28, 0x00, 0x00, 0x04,
   0x00, 0x31, 0x00, 0x02, 0x00, 0x01,
   0x00, 0x04, 0x00, 0x07, 0x00, 0x02, 0xF8, 0x59, 0x00, 0x01, 0x30,
   0x00, 0x09, 0x00, 0x89, 0x01, 0xFF] ++
  (List.range 256).flatMap
    (fun id => [0x00, 0x06, 0x40, 0x05, 0x00, 0x00, UInt8.ofNat id, 0x00, 0x00]) ++
  [0x00, 0x34, 0x00, 0x0A, 0x00, 0x00, 0x00, 0x35, 0x00, 0x04, 0x19, 0x80, 0x05, 0x00]

theorem aFullResponse_wellFormed : aFullResponse.WellFormed := by
  refine ⟨by decide, ?_, List.forall_mem_nil _⟩
  intro id mem
  obtain ⟨n, small, rfl⟩ := List.mem_map.mp mem
  rw [List.mem_range] at small
  calc (UInt16.ofNat n).toNat ≤ n := Nat.mod_le _ _
    _ < maxRanFuncId := by simp only [maxRanFuncId]; omega

theorem aFullResponse_encoded : e2apEncPdu (.e2StpResp aFullResponse) = .ok aFullResponsePdu := by
  have few : aFullResponse.accepted.length ≤ maxNumRanFuncId := by
    simp [aFullResponse, maxNumRanFuncId]
  have some : aFullResponse.accepted.map encAccepted ≠ [] := by simp [aFullResponse]
  simp only [e2apEncPdu, e2apEncSetupResponse, check_pass _ few, unlessEmpty, if_neg some]
  rfl

/-- One function is rejected, by the service. -/
def aRejection : E2SetupResponse :=
  { aSetupResponse with accepted := [], rejected := [⟨3, .ricService 0⟩] }

def aRejectionPdu : Pdu :=
  ⟨.successfulOutcome, .e2setup, .reject, .e2setupResponse,
    [⟨.transactionId, .reject, .transactionId 1⟩, aRicElement,
     ⟨.ranFunctionsRejected, .reject, .ranFunctionsIdCauseList
      [⟨.ranFunctionIdItem, .ignore, some ⟨3, .ricService 0⟩⟩]⟩,
     anAckElement]⟩

def aRejectionBytes : Bytes :=
  [0x20, 0x01, 0x00, 0x2F, 0x00, 0x00, 0x04,
   0x00, 0x31, 0x00, 0x02, 0x00, 0x01,
   0x00, 0x04, 0x00, 0x07, 0x00, 0x02, 0xF8, 0x59, 0x00, 0x01, 0x30,
   0x00, 0x0D, 0x00, 0x09, 0x00, 0x00, 0x06, 0x40, 0x04, 0x00, 0x00, 0x03, 0x10,
   0x00, 0x34, 0x00, 0x0A, 0x00, 0x00, 0x00, 0x35, 0x00, 0x04, 0x19, 0x80, 0x05, 0x00]

/-- The decoder does not take as many accepted functions as the encoder, and no rejected one. -/
theorem full_response_refused :
    (SetupMsg (.e2StpResp aFullResponse) ∧
      e2apMsgEncAsn (.delivering aFullResponsePdu aFullResponseBytes) (.e2StpResp aFullResponse) =
        .ok aFullResponseBytes ∧
      ∀ back, e2apMsgDecAsn (.delivering aFullResponsePdu aFullResponseBytes) aFullResponseBytes ≠
        .ok back) ∧
    SetupMsg (.e2StpResp aRejection) ∧
      e2apMsgEncAsn (.delivering aRejectionPdu aRejectionBytes) (.e2StpResp aRejection) =
        .ok aRejectionBytes ∧
      e2apMsgDecAsn (.delivering aRejectionPdu aRejectionBytes) aRejectionBytes =
        .error .present := by
  obtain ⟨accepted, delivers⟩ := Aper.delivering_accepts aFullResponseBytes
    aFullResponse_encoded (by decide +kernel) (by decide +kernel)
  refine ⟨⟨aFullResponse_wellFormed, accepted, ?_⟩,
    ⟨by decide, List.forall_mem_nil _, List.forall_mem_singleton.mpr (by decide)⟩, rfl, rfl⟩
  intro back decoded
  obtain ⟨pdu, encoded, decodes⟩ := e2apMsgDecAsn_encoded accepted delivers
  rw [decodes, setupResponse_back_iff aFullResponse_wellFormed encoded] at decoded
  have few := decoded.2.2.1
  simp [aFullResponse, maxNumRanFuncId] at few

end FlexRic.Asn
