import FlexRic.Library.Packing
import FlexRic.Library.Translation

/-! # Protocol data units

The E2AP units that the generated APER codec writes and reads, as far as the
modelled messages fill them in. An INTEGER is the number it stands for; its
constraint keeps it from being negative. Which alternative of a CHOICE is present
is its constructor.
-/

namespace FlexRic.Asn

open Wire (Bytes)

/-- What stops an encoder or a decoder. -/
inductive Fault where
  /-- the unit is not the expected message -/
  | message
  /-- the number of information elements -/
  | count
  /-- a place behind the last information element -/
  | missing
  | id
  | criticality
  /-- another alternative of a CHOICE is present -/
  | present
  /-- a number outside of its bounds, or a list that is too long or too short -/
  | bound
  /-- an octet string without octets -/
  | empty
  /-- an information element that was there before -/
  | twice
  /-- a null pointer that is read -/
  | null
  | notImplemented
  /-- an alternative of a union that is not the one that was written -/
  | otherMember
  /-- the generated codec fails, or what it writes does not fit -/
  | aper
  deriving DecidableEq, Repr

inductive Criticality where
  | reject
  | ignore
  | notify
  deriving DecidableEq, Repr

/-- `ProtocolIE_ID_t`. -/
inductive IeId where
  | globalE2nodeId
  | globalRicId
  | ranFunctionId
  | ranFunctionIdItem
  /-- `ProtocolIE_ID_id_RANfunctionIEcause_Item` -/
  | ranFunctionIeCauseItem
  | ranFunctionItem
  | ranFunctionsAccepted
  | ranFunctionsAdded
  | ranFunctionsRejected
  | ricActionAdmittedItem
  | ricActionId
  | ricActionNotAdmittedItem
  | ricActionsAdmitted
  | ricActionsNotAdmitted
  | ricActionToBeSetupItem
  | ricCallProcessId
  | ricControlAckRequest
  | ricControlHeader
  | ricControlMessage
  | ricIndicationHeader
  | ricIndicationMessage
  | ricIndicationSn
  | ricIndicationType
  | ricRequestId
  | ricSubscriptionDetails
  | ricControlOutcome
  | transactionId
  | e2nodeComponentConfigAddition
  | e2nodeComponentConfigAdditionItem
  | e2nodeComponentConfigAdditionAck
  | e2nodeComponentConfigAdditionAckItem
  | xappId
  | e2nodesConnected
  deriving DecidableEq, Repr

/-- An information element, of a message or of a list. -/
structure Ie (α : Type) where
  id : IeId
  criticality : Criticality
  value : α
  deriving DecidableEq, Repr

/-- `BIT_STRING_t`. -/
structure BitString where
  buf : Bytes
  bitsUnused : Nat
  deriving DecidableEq, Repr

structure RicRequestId where
  ricRequestorId : Nat
  ricInstanceId : Nat
  deriving DecidableEq, Repr

/-- `Cause_t`. -/
inductive CauseChoice where
  | nothing
  | ricRequest (v : Nat)
  | ricService (v : Nat)
  | e2Node (v : Nat)
  | transport (v : Nat)
  | protocol (v : Nat)
  | misc (v : Nat)
  deriving DecidableEq, Repr

/-- `RICactionType_t`, and `ric_action_type_t` with the same numbers. -/
inductive RicActionType where
  | report
  | insert
  | policy
  deriving DecidableEq, Repr

/-- `RICsubsequentActionType_t`, and `ric_subseq_action_type_t` with the same numbers. -/
inductive RicSubsequentActionType where
  | continue
  | wait
  deriving DecidableEq, Repr

/-- The time to wait is not optional here. -/
structure RicSubsequentActionIe where
  ricSubsequentActionType : RicSubsequentActionType
  ricTimeToWait : Nat
  deriving DecidableEq, Repr

structure RicActionToBeSetupItem where
  ricActionId : Nat
  ricActionType : RicActionType
  ricActionDefinition : Option Bytes
  ricSubsequentAction : Option RicSubsequentActionIe
  deriving DecidableEq, Repr

structure RicSubscriptionDetails where
  ricEventTriggerDefinition : Bytes
  ricActionToBeSetupList : List (Ie RicActionToBeSetupItem)
  deriving DecidableEq, Repr

structure RicActionNotAdmittedItem where
  ricActionId : Nat
  cause : CauseChoice
  deriving DecidableEq, Repr

structure GlobalE2nodeGnbId where
  plmnId : Bytes
  gnbId : BitString
  gnbCuUpId : Option Nat
  gnbDuId : Option Nat
  deriving DecidableEq, Repr

/-- `ENB_ID_t`. -/
inductive EnbIdChoice where
  | macroEnbId (v : BitString)
  | homeEnbId (v : BitString)
  | shortMacroEnbId (v : BitString)
  | longMacroEnbId (v : BitString)
  deriving DecidableEq, Repr

structure GlobalE2nodeEnbId where
  plmnIdentity : Bytes
  enbId : EnbIdChoice
  deriving DecidableEq, Repr

/-- `GlobalE2node_ID_t`. The decoders refuse the two in the middle. -/
inductive GlobalE2nodeIdChoice where
  | gNB (id : GlobalE2nodeGnbId)
  | enGNB
  | ngENB
  | eNB (id : GlobalE2nodeEnbId)
  deriving DecidableEq, Repr

structure GlobalRicIdIe where
  plmnIdentity : Bytes
  ricId : BitString
  deriving DecidableEq, Repr

structure RanFunctionItem where
  ranFunctionId : Nat
  ranFunctionDefinition : Bytes
  ranFunctionRevision : Nat
  ranFunctionOid : Bytes
  deriving DecidableEq, Repr

structure RanFunctionIdCauseItem where
  ranFunctionId : Nat
  cause : CauseChoice
  deriving DecidableEq, Repr

/-- `E2nodeComponentInterfaceType_t`, and `e2ap_node_comp_interface_type_e` with the
    same numbers. -/
inductive InterfaceType where
  | ng
  | xn
  | e1
  | f1
  | w1
  | s1
  | x2
  deriving DecidableEq, Repr

/-- `E2nodeComponentID_t`. Encoder and decoder stop at Xn and X2. -/
inductive ComponentIdChoice where
  | ng (amfName : Bytes)
  | xn
  | e1 (gnbCuCpId : Nat)
  | f1 (gnbDuId : Nat)
  | w1 (ngEnbDuId : Nat)
  | s1 (mmeName : Bytes)
  | x2
  deriving DecidableEq, Repr

structure ComponentConfigAdditionItem where
  interfaceType : InterfaceType
  componentId : ComponentIdChoice
  requestPart : Bytes
  responsePart : Bytes
  deriving DecidableEq, Repr

/-- `updateOutcome`, and `outcome_e2ap_node_comp_conf_ack_e` with the same numbers. -/
inductive UpdateOutcome where
  | success
  | failure
  deriving DecidableEq, Repr

structure ComponentConfigAdditionAckItem where
  interfaceType : InterfaceType
  componentId : ComponentIdChoice
  updateOutcome : UpdateOutcome
  failureCause : Option CauseChoice
  deriving DecidableEq, Repr

/-- The values of the elements that a connected node is listed with. -/
inductive ConnectedValue where
  | globalE2nodeId (v : GlobalE2nodeIdChoice)
  | componentConfigAdditionList (v : List (Ie ComponentConfigAdditionItem))
  | ranFunctionsList (v : List (Ie RanFunctionItem))
  deriving DecidableEq, Repr

/-- The values of the elements of the messages. -/
inductive IeValue where
  | ricRequestId (v : RicRequestId)
  | ranFunctionId (v : Nat)
  | ricSubscriptionDetails (v : RicSubscriptionDetails)
  | ricActionAdmittedList (v : List (Ie Nat))
  | ricActionNotAdmittedList (v : List (Ie RicActionNotAdmittedItem))
  | ricActionId (v : Nat)
  | ricIndicationSn (v : Nat)
  | ricIndicationType (v : Nat)
  | ricIndicationHeader (v : Bytes)
  | ricIndicationMessage (v : Bytes)
  | ricCallProcessId (v : Bytes)
  | ricControlHeader (v : Bytes)
  | ricControlMessage (v : Bytes)
  | ricControlAckRequest (v : Nat)
  | ricControlOutcome (v : Bytes)
  | transactionId (v : Nat)
  | globalE2nodeId (v : GlobalE2nodeIdChoice)
  | globalRicId (v : GlobalRicIdIe)
  | ranFunctionsList (v : List (Ie RanFunctionItem))
  | ranFunctionsIdList (v : List (Ie Nat))
  /-- Without the value of an item no alternative is present. -/
  | ranFunctionsIdCauseList (v : List (Ie (Option RanFunctionIdCauseItem)))
  | componentConfigAdditionList (v : List (Ie ComponentConfigAdditionItem))
  | componentConfigAdditionAckList (v : List (Ie ComponentConfigAdditionAckItem))
  | xappId (v : Nat)
  | e2nodeConnectedList (v : List (Ie ConnectedValue))
  deriving DecidableEq, Repr

/-- `E2AP_PDU_PR`. -/
inductive Outcome where
  | initiatingMessage
  | successfulOutcome
  | unsuccessfulOutcome
  deriving DecidableEq, Repr

/-- `ProcedureCode_t`. -/
inductive ProcedureCode where
  | e2setup
  | ricControl
  | ricIndication
  | ricSubscription
  | ricSubscriptionDelete
  | e42Setup
  | e42RicSubscription
  | e42RicControl
  /-- of a procedure whose messages are not modelled -/
  | other (code : Nat)
  deriving DecidableEq, Repr

/-- The message that is present in the value of a unit. -/
inductive MessageChoice where
  | ricSubscriptionRequest
  | ricSubscriptionResponse
  | ricSubscriptionDeleteRequest
  | ricSubscriptionDeleteResponse
  | ricIndication
  | ricControlRequest
  | ricControlAcknowledge
  | e2setupRequest
  | e2setupResponse
  | e42setupResponse
  | e42RicSubscriptionRequest
  | e42RicControlRequest
  deriving DecidableEq, Repr

/-- `E2AP_PDU_t`. -/
structure Pdu where
  present : Outcome
  procedureCode : ProcedureCode
  criticality : Criticality
  value : MessageChoice
  protocolIEs : List (Ie IeValue)
  deriving DecidableEq, Repr

/-- The element is the expected one. Some places leave the criticality unchecked. -/
def Ie.expect {α : Type} (ie : Ie α) (id : IeId) (criticality : Option Criticality) :
    Except Fault α := do
  check (ie.id = id) .id
  check (∀ c ∈ criticality, ie.criticality = c) .criticality
  pure ie.value

/-- `protocolIEs.list.array[i]`, and what is asserted of it. -/
def ieAt {α : Type} (ies : List (Ie α)) (i : Nat) (id : IeId)
    (criticality : Option Criticality) : Except Fault α :=
  match ies[i]? with
  | some ie => ie.expect id criticality
  | none => .error .missing

/-- The assertions on the kind of the message. -/
def Pdu.expect (pdu : Pdu) (present : Outcome) (procedureCode : ProcedureCode)
    (criticality : Option Criticality) (value : MessageChoice) : Except Fault Unit := do
  check (pdu.present = present) .message
  check (pdu.procedureCode = procedureCode) .message
  check (∀ c ∈ criticality, pdu.criticality = c) .criticality
  check (pdu.value = value) .message

@[simp] theorem Ie.expect_same {α : Type} (id : IeId) (criticality : Criticality) (value : α) :
    (Ie.mk id criticality value).expect id (some criticality) = .ok value := by
  simp [Ie.expect, check]

@[simp] theorem Ie.expect_any {α : Type} (id : IeId) (criticality : Criticality) (value : α) :
    (Ie.mk id criticality value).expect id none = .ok value := by
  simp [Ie.expect, check]

@[simp] theorem Pdu.expect_same (present : Outcome) (procedureCode : ProcedureCode)
    (criticality : Criticality) (value : MessageChoice) (ies : List (Ie IeValue)) :
    (Pdu.mk present procedureCode criticality value ies).expect present procedureCode
      (some criticality) value = .ok () := by
  simp [Pdu.expect, check]

@[simp] theorem Pdu.expect_any (present : Outcome) (procedureCode : ProcedureCode)
    (criticality : Criticality) (value : MessageChoice) (ies : List (Ie IeValue)) :
    (Pdu.mk present procedureCode criticality value ies).expect present procedureCode none
      value = .ok () := by
  simp [Pdu.expect, check]

/-- `copy_ba_to_ostring`. -/
def copyBaToOstring (ba : Bytes) : Except Fault Bytes := do
  check (ba ≠ []) .empty
  pure ba

/-- `copy_ostring_to_ba`. -/
def copyOstringToBa (src : Bytes) : Except Fault Bytes := do
  check (src ≠ []) .empty
  pure src

@[simp] theorem copyBaToOstring_eq_ok {ba os : Bytes} :
    copyBaToOstring ba = .ok os ↔ ba ≠ [] ∧ ba = os := by
  rw [copyBaToOstring, bind_eq_ok]
  simp

theorem copyOstringToBa_ok {src : Bytes} (some : src ≠ []) : copyOstringToBa src = .ok src := by
  rw [copyOstringToBa, check_pass _ some]
  rfl

/-- Octet strings come back. -/
theorem ostring_returns (ba : Bytes) : Returns copyBaToOstring copyOstringToBa ba ba := by
  intro os copied
  obtain ⟨some, rfl⟩ := copyBaToOstring_eq_ok.mp copied
  exact copyOstringToBa_ok some

/-- Of an octet string that may be left out only the empty one is refused. -/
theorem optional_ostring_eq_ok {o p : Option Bytes} :
    o.mapM copyBaToOstring = .ok p ↔ (∀ ba, o = some ba → ba ≠ []) ∧ o = p := by
  cases o with
  | none => simp
  | some ba => simp

/-- An octet string that may be left out comes back. -/
theorem optional_ostring_back {o : Option Bytes} {p : Option Bytes}
    (copied : o.mapM copyBaToOstring = .ok p) : p.mapM copyOstringToBa = .ok o := by
  have back := optional_back copied fun ba _ => ostring_returns ba
  rwa [Option.map_id'] at back

/-- `asn_encode_e2ap_v2_03_to_buffer` and `asn_decode_e2ap_v2_03` with aligned PER,
    which always takes at least one octet. -/
abbrev Aper := Packing Pdu

/-- The length of the buffer that every unit is encoded into. -/
def bufferLen : Nat := 32 * 1024

/-- The codec writes the unit and reads it back from what it wrote. -/
abbrev Aper.Inverse (aper : Aper) (pdu : Pdu) : Prop := Packing.Inverts aper pdu

/-- An item of the list of rejected functions as it arrives. The generated table has one id
    for its value, and passes over the bytes of a value under another one. -/
def Ie.received (ie : Ie (Option RanFunctionIdCauseItem)) : Ie (Option RanFunctionIdCauseItem) :=
  if ie.id = .ranFunctionIeCauseItem then ie else { ie with value := none }

def IeValue.received : IeValue → IeValue
  | .ranFunctionsIdCauseList items => .ranFunctionsIdCauseList (items.map Ie.received)
  | v => v

/-- A unit as it arrives. -/
def Pdu.received (pdu : Pdu) : Pdu :=
  { pdu with protocolIEs := pdu.protocolIEs.map fun ie => { ie with value := ie.value.received } }

/-- The codec writes the unit, and reads what the table has of it. -/
def Aper.Delivers (aper : Aper) (pdu : Pdu) : Prop :=
  ∃ ba, aper.pack pdu = some ba ∧ aper.unpack ba = some pdu.received

/-- What the codec writes fits the buffer. -/
def Aper.Fits (aper : Aper) (pdu : Pdu) : Prop :=
  ∀ ba, aper.pack pdu = some ba → ba.length < bufferLen

/-- `e2ap_enc_asn_pdu_ba`. -/
def e2apEncAsnPduBa (aper : Aper) (pdu : Pdu) : Except Fault Bytes :=
  match aper.pack pdu with
  | some ba => do
      check (ba.length < bufferLen) .aper
      pure ba
  | none => .error .aper

/-- `e2ap_create_pdu`. -/
def e2apCreatePdu (aper : Aper) (ba : Bytes) : Except Fault Pdu := do
  check (ba ≠ []) .empty
  match aper.unpack ba with
  | some pdu => pure pdu
  | none => throw .aper

variable {aper : Aper} {pdu : Pdu}

theorem fits_of_written {ba : Bytes} (written : e2apEncAsnPduBa aper pdu = .ok ba) :
    aper.Fits pdu := by
  intro ba' encoded
  simp only [e2apEncAsnPduBa, encoded, bind_eq_ok, check_eq_ok] at written
  obtain ⟨_, short, -⟩ := written
  exact short

/-- The units that are created from the encoder's bytes. -/
theorem created {arrived : Pdu} {ba : Bytes} (written : e2apEncAsnPduBa aper pdu = .ok ba)
    (decoded : ∃ ba, aper.pack pdu = some ba ∧ aper.unpack ba = some arrived) :
    e2apCreatePdu aper ba = .ok arrived := by
  obtain ⟨ba', wrote, decoded⟩ := decoded
  have some : ba' ≠ [] := fun empty => aper.pack_ne_nil pdu (empty ▸ wrote)
  simp only [e2apEncAsnPduBa, wrote, bind_eq_ok, check_eq_ok, pure_eq_ok] at written
  obtain ⟨_, _, rfl⟩ := written
  simp only [e2apCreatePdu, check_pass _ some, decoded]
  rfl

/-- A unit that the codec inverts and that fits is created again from its bytes. -/
theorem Aper.Inverse.carried (inverse : aper.Inverse pdu) (fits : aper.Fits pdu) :
    ∃ ba, e2apEncAsnPduBa aper pdu = .ok ba ∧ e2apCreatePdu aper ba = .ok pdu := by
  obtain ⟨ba, encoded, decoded⟩ := inverse
  have written : e2apEncAsnPduBa aper pdu = .ok ba := by
    simp only [e2apEncAsnPduBa, encoded, check_pass _ (fits ba encoded)]
    rfl
  exact ⟨ba, written, created written ⟨ba, encoded, decoded⟩⟩

end FlexRic.Asn
