import FlexRic.Asn.E42
import FlexRic.Asn.Setup

/-! # The codec

A message is encoded by the function of its type, and the bytes that arrive are
decoded by the function of the type that the unit in them has.
-/

namespace FlexRic.Asn

open Wire (Bytes)

/-- The unit of a message, by the table of encoders. -/
def e2apEncPdu : E2apMsg → Except Fault Pdu
  | .ricSubReq m => e2apEncSubscriptionRequest m
  | .ricSubResp m => e2apEncSubscriptionResponse m
  | .ricSubDelReq m => e2apEncSubscriptionDeleteRequest m
  | .ricSubDelResp m => e2apEncSubscriptionDeleteResponse m
  | .ricInd m => e2apEncIndication m
  | .ricCtrlReq m => e2apEncControlRequest m
  | .ricCtrlAck m => e2apEncControlAck m
  | .e2StpReq m => e2apEncSetupRequest m
  | .e2StpResp m => e2apEncSetupResponse m
  | .e42StpResp m => e2apEncE42SetupResponse m
  | .e42RicSubReq m => e2apEncE42SubscriptionRequest m
  | .e42RicCtrlReq m => e2apEncE42ControlRequest m

/-- `e2_msg_type_t`, the types that are modelled. -/
inductive E2MsgType where
  | ricSubscriptionRequest
  | ricSubscriptionResponse
  | ricSubscriptionDeleteRequest
  | ricSubscriptionDeleteResponse
  | ricIndication
  | ricControlRequest
  | ricControlAcknowledge
  | e2SetupRequest
  | e2SetupResponse
  | e42SetupResponse
  | e42RicSubscriptionRequest
  | e42RicControlRequest
  deriving DecidableEq, Repr

/-- `e2ap_get_msg_type`. The answers to the requests of an xApp have the types of those
    to the requests of the RIC. -/
def e2apGetMsgType (pdu : Pdu) : Except Fault E2MsgType :=
  match pdu.procedureCode, pdu.present with
  | .e2setup, .initiatingMessage => .ok .e2SetupRequest
  | .e2setup, .successfulOutcome => .ok .e2SetupResponse
  | .ricControl, .initiatingMessage => .ok .ricControlRequest
  | .ricControl, .successfulOutcome => .ok .ricControlAcknowledge
  | .ricIndication, _ => .ok .ricIndication
  | .ricSubscription, .initiatingMessage => .ok .ricSubscriptionRequest
  | .ricSubscription, .successfulOutcome => .ok .ricSubscriptionResponse
  | .ricSubscriptionDelete, .initiatingMessage => .ok .ricSubscriptionDeleteRequest
  | .ricSubscriptionDelete, .successfulOutcome => .ok .ricSubscriptionDeleteResponse
  | .e42Setup, .successfulOutcome => .ok .e42SetupResponse
  | .e42RicSubscription, .initiatingMessage => .ok .e42RicSubscriptionRequest
  | .e42RicSubscription, .successfulOutcome => .ok .ricSubscriptionResponse
  | .e42RicControl, .initiatingMessage => .ok .e42RicControlRequest
  | .e42RicControl, .successfulOutcome => .ok .ricControlAcknowledge
  | _, _ => .error .notImplemented

/-- The table of decoders. -/
def decMsg : E2MsgType → Pdu → Except Fault E2apMsg
  | .ricSubscriptionRequest => e2apDecSubscriptionRequest
  | .ricSubscriptionResponse => e2apDecSubscriptionResponse
  | .ricSubscriptionDeleteRequest => e2apDecSubscriptionDeleteRequest
  | .ricSubscriptionDeleteResponse => e2apDecSubscriptionDeleteResponse
  | .ricIndication => e2apDecIndication
  | .ricControlRequest => e2apDecControlRequest
  | .ricControlAcknowledge => e2apDecControlAck
  | .e2SetupRequest => e2apDecSetupRequest
  | .e2SetupResponse => e2apDecSetupResponse
  | .e42SetupResponse => e2apDecE42SetupResponse
  | .e42RicSubscriptionRequest => e2apDecE42SubscriptionRequest
  | .e42RicControlRequest => e2apDecE42ControlRequest

/-- The message in a unit. -/
def e2apDecPdu (pdu : Pdu) : Except Fault E2apMsg := do
  let type ← e2apGetMsgType pdu
  decMsg type pdu

/-- The encoder of a message: its unit, in a buffer of 32 KiB. -/
def e2apMsgEncAsn (aper : Aper) (msg : E2apMsg) : Except Fault Bytes := do
  let pdu ← e2apEncPdu msg
  e2apEncAsnPduBa aper pdu

/-- `e2ap_msg_dec_asn`. -/
def e2apMsgDecAsn (aper : Aper) (ba : Bytes) : Except Fault E2apMsg := do
  let pdu ← e2apCreatePdu aper ba
  e2apDecPdu pdu

variable {aper : Aper} {msg back : E2apMsg} {pdu : Pdu}

/-- The message is encoded, and its bytes are decoded as `back`. -/
def ComesBack (aper : Aper) (msg back : E2apMsg) : Prop :=
  ∃ ba, e2apMsgEncAsn aper msg = .ok ba ∧ e2apMsgDecAsn aper ba = .ok back

/-- Bytes make no difference where the generated codec inverts the unit. -/
theorem comesBack_iff (encoded : e2apEncPdu msg = .ok pdu) (inverse : aper.Inverse pdu)
    (fits : aper.Fits pdu) : ComesBack aper msg back ↔ e2apDecPdu pdu = .ok back := by
  constructor
  · rintro ⟨ba, written, read⟩
    rw [e2apMsgEncAsn, encoded, ok_bind] at written
    rwa [e2apMsgDecAsn, created written inverse, ok_bind] at read
  · intro decoded
    obtain ⟨ba, written, created⟩ := inverse.carried fits
    exact ⟨ba, by rwa [e2apMsgEncAsn, encoded, ok_bind],
      by rwa [e2apMsgDecAsn, created, ok_bind]⟩

/-- The generated codec inverts the unit of the message, and it fits the buffer. -/
def Aper.Carries (aper : Aper) (msg : E2apMsg) : Prop :=
  ∀ pdu, e2apEncPdu msg = .ok pdu → aper.Inverse pdu ∧ aper.Fits pdu

theorem comesBack_of_carries (carries : aper.Carries msg) (encoded : e2apEncPdu msg = .ok pdu) :
    ComesBack aper msg back ↔ e2apDecPdu pdu = .ok back :=
  comesBack_iff encoded (carries pdu encoded).1 (carries pdu encoded).2

/-- The generated codec inverts the unit of the message. -/
def Aper.Inverts (aper : Aper) (msg : E2apMsg) : Prop :=
  ∀ pdu, e2apEncPdu msg = .ok pdu → aper.Inverse pdu

/-- The unit of the message fits the buffer. -/
def Aper.Holds (aper : Aper) (msg : E2apMsg) : Prop :=
  ∀ pdu, e2apEncPdu msg = .ok pdu → aper.Fits pdu

/-- Whether a message that is inverted comes back is a matter of its unit. -/
theorem comesBack_iff_unit (inverts : aper.Inverts msg) :
    ComesBack aper msg back ↔
      ∃ pdu, e2apEncPdu msg = .ok pdu ∧ aper.Fits pdu ∧ e2apDecPdu pdu = .ok back := by
  constructor
  · rintro ⟨ba, written, read⟩
    obtain ⟨pdu, encoded, wrote⟩ := bind_eq_ok.mp written
    have fits : aper.Fits pdu := fits_of_written wrote
    exact ⟨pdu, encoded, fits, (comesBack_iff encoded (inverts pdu encoded) fits).mp
      ⟨ba, written, read⟩⟩
  · rintro ⟨pdu, encoded, fits, decoded⟩
    exact (comesBack_iff encoded (inverts pdu encoded) fits).mpr decoded

/-- A message comes back when its unit fits and is decoded. -/
theorem comesBack_iff_decoded (inverts : aper.Inverts msg) (encoded : e2apEncPdu msg = .ok pdu) :
    ComesBack aper msg back ↔ e2apDecPdu pdu = .ok back ∧ aper.Holds msg := by
  rw [comesBack_iff_unit inverts]
  constructor
  · rintro ⟨other, encodedOther, fits, decoded⟩
    cases encoded.symm.trans encodedOther
    refine ⟨decoded, ?_⟩
    intro other encodedOther
    cases encoded.symm.trans encodedOther
    exact fits
  · rintro ⟨decoded, holds⟩
    exact ⟨pdu, encoded, holds pdu encoded, decoded⟩

theorem comesBack_iff_holds {arrived : E2apMsg} (inverts : aper.Inverts msg)
    (encoded : e2apEncPdu msg = .ok pdu) (decoded : e2apDecPdu pdu = .ok arrived) :
    ComesBack aper msg back ↔ aper.Holds msg ∧ arrived = back := by
  rw [comesBack_iff_decoded inverts encoded, decoded, Except.ok.injEq, and_comm]

theorem Aper.only_carries {ba : Bytes} (encoded : e2apEncPdu msg = .ok pdu) (filled : ba ≠ [])
    (short : ba.length < bufferLen) : Aper.Carries (Packing.only pdu ba) msg := by
  intro other encodedOther
  cases encoded.symm.trans encodedOther
  have written : (Packing.only pdu ba).pack pdu = some ba := if_pos ⟨rfl, filled⟩
  refine ⟨⟨ba, written, if_pos rfl⟩, ?_⟩
  intro ba' writtenAs
  cases written.symm.trans writtenAs
  exact short

theorem find_ne_nil (table : List (Pdu × Bytes)) (pdu : Pdu) :
    (table.find? fun e => e.1 = pdu ∧ e.2 ≠ []).map (·.2) ≠ some [] := by
  intro here
  obtain ⟨e, found, empty⟩ := Option.map_eq_some_iff.mp here
  have filled := List.find?_some found
  simp [empty] at filled

/-- A codec as far as a table of units and their bytes goes. -/
def Aper.ofTable (table : List (Pdu × Bytes)) : Aper where
  pack pdu := (table.find? fun e => e.1 = pdu ∧ e.2 ≠ []).map (·.2)
  unpack ba := (table.find? fun e => e.2 = ba).map (·.1)
  pack_ne_nil pdu := find_ne_nil table pdu

theorem Aper.ofTable_holds {table : List (Pdu × Bytes)}
    (short : ∀ e ∈ table, e.2.length < bufferLen) : (Aper.ofTable table).Holds msg := by
  intro pdu _ ba written
  obtain ⟨e, found, rfl⟩ := Option.map_eq_some_iff.mp written
  exact short e (List.mem_of_find?_eq_some found)

theorem inverts_of_inverse (encoded : e2apEncPdu msg = .ok pdu) (inverse : aper.Inverse pdu) :
    aper.Inverts msg := by
  intro other encodedOther
  cases encoded.symm.trans encodedOther
  exact inverse

end FlexRic.Asn
