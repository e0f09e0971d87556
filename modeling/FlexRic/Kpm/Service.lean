import FlexRic.Agent.E2Agent
import FlexRic.Asn.Relay
import FlexRic.Kpm.RoundTrip

/-! # The KPM service model between an xApp and the RAN

A subscription starts a timer of the agent, and what the RAN measures is reported each time that
it ends. There are no controls.
-/

namespace FlexRic.Kpm

open Wire (Bytes)
open Asn (Fault SmRic SmAgent SmSubsData SmIndData Aper Route NodeWellFormed IdsInRange)
open E2sm (Memory UeIdKeptIn ueIdCodec ueIdCodec_keeps aUeIdCodec)

/-- `kpm_event_trigger_def_t`, which has one format. -/
structure EventTriggerDef where
  reportPeriodMs : UInt32

/-- `E2SM_KPM_EventTriggerDefinition_t`. -/
structure EventTriggerDefinition where
  reportingPeriod : UInt64

/-- `kpm_enc_event_trigger_def_frm_1_asn`. -/
def eventTriggerUnit (src : EventTriggerDef) : Except Fault EventTriggerDefinition :=
  pure ⟨src.reportPeriodMs.toUInt64⟩

/-- `kpm_dec_event_trigger_def_frm_1_asn`. -/
def eventTriggerOf (asn : EventTriggerDefinition) : Except Fault EventTriggerDef :=
  pure ⟨asn.reportingPeriod.toUInt32⟩

def kpmEncEventTriggerAsn (p : Packing EventTriggerDefinition) :
    EventTriggerDef → Except Fault Bytes :=
  encodeWith eventTriggerUnit p bufferLen .aper

def kpmDecEventTriggerAsn (p : Packing EventTriggerDefinition) :
    Bytes → Except Fault EventTriggerDef :=
  decodeWith eventTriggerOf p .aper

theorem eventTrigger_back (src : EventTriggerDef) :
    (eventTriggerUnit src >>= eventTriggerOf) = .ok src := by
  simp only [eventTriggerUnit, eventTriggerOf, pure_bind, UInt32.toUInt32_toUInt64]
  rfl

/-- A carried event trigger comes back, whatever its period is. -/
theorem eventTrigger_packed {p : Packing EventTriggerDefinition} {src : EventTriggerDef}
    (carries : p.Carries bufferLen eventTriggerUnit src) :
    (kpmEncEventTriggerAsn p src >>= kpmDecEventTriggerAsn p) = .ok src := by
  rw [kpmEncEventTriggerAsn, kpmDecEventTriggerAsn, packed_back carries]
  exact eventTrigger_back src

/-- `kpm_enc_asn_t`: the generated codecs that the two sides share. -/
structure KpmEncAsn where
  eventTrigger : Packing EventTriggerDefinition
  actionDef : Packing ActionDefinition
  indHdr : Packing IndicationHeader
  indMsg : Packing IndicationMessage

/-- `kpm_sub_data_t`. -/
structure KpmSubData where
  evTrgDef : EventTriggerDef
  ad : List ActDef

/-- `subscribe_timer_t`. -/
structure SubscribeTimer where
  ms : Int
  actDef : ActDef

/-- `kpm_ind_data_t`. -/
structure KpmIndData where
  hdr : IndHdr
  msg : IndMsg

variable (ue : UeIdCodec) (enc : KpmEncAsn)

/-- `on_subscription_kpm_sm_ric`. -/
def onSubscriptionKpmSmRic (src : KpmSubData) : Except Fault SmSubsData :=
  match src.ad with
  | [ad] => do
      let eventTrigger ← kpmEncEventTriggerAsn enc.eventTrigger src.evTrgDef
      let actionDef ← kpmEncActionDefAsn ue enc.actionDef ad
      pure ⟨0, eventTrigger, some actionDef⟩
  | _ => .error .notImplemented

/-- `on_subscription_kpm_sm_ag`. -/
def onSubscriptionKpmSmAg (data : SmSubsData) : Except Fault SubscribeTimer := do
  let evTrgDef ← kpmDecEventTriggerAsn enc.eventTrigger data.eventTrigger
  check (0 < evTrgDef.reportPeriodMs) .bound
  let actDef ← kpmDecActionDefAsn ue enc.actionDef (data.actionDef.getD [])
  pure ⟨evTrgDef.reportPeriodMs.toNat, actDef⟩

/-- `on_indication_kpm_sm_ag`, of what the RAN has measured. -/
def onIndicationKpmSmAg (ind : KpmIndData) : Except Fault SmIndData := do
  let hdr ← kpmEncIndHdrAsn enc.indHdr ind.hdr
  let msg ← kpmEncIndMsgAsn ue enc.indMsg ind.msg
  pure ⟨hdr, msg, none⟩

/-- `on_indication_kpm_sm_ric`. -/
def onIndicationKpmSmRic (data : SmIndData) : Except Fault KpmIndData := do
  let msg ← kpmDecIndMsgAsn ue enc.indMsg data.indMsg
  let hdr ← kpmDecIndHdrAsn enc.indHdr data.indHdr
  pure ⟨hdr, msg⟩

/-- `make_kpm_sm_ric`. -/
def makeKpmSmRic : SmRic KpmSubData KpmIndData Empty where
  onSubscription := onSubscriptionKpmSmRic ue enc
  onIndication := onIndicationKpmSmRic ue enc
  onControlReq := Empty.elim

/-- `make_kpm_sm_agent`. -/
def makeKpmSmAgent : SmAgent SubscribeTimer KpmIndData Empty Empty where
  onSubscription := onSubscriptionKpmSmAg ue enc
  onIndication := onIndicationKpmSmAg ue enc
  onControl _ _ := .error .notImplemented

/-- A codec for one value of each type, as its bytes. -/
def aKpmEnc : KpmEncAsn where
  eventTrigger := .always ⟨10⟩ 0 [9]
  actionDef := .always ⟨2, .format2 ⟨E2sm.aUeid, ⟨[⟨.measId 1, [⟨some 0, none, none, none, .absent,
    none⟩]⟩], 1, none, none⟩⟩⟩ 0 [1, 2, 0x20, 0, 0, 1, 0, 2, 0xF8, 0x39, 1, 0, 0x41, 0, 0, 0,
    0x20, 0, 0, 1, 0x20, 0, 0, 0, 0]
  indHdr := .always ⟨[0, 0, 0, 0], none, none, none, none⟩ 0 [0, 0, 0, 0]
  indMsg := .always (.format3 [⟨E2sm.aUeid, ⟨[⟨[.noValue], none⟩], none, none⟩⟩]) 0x40 [0, 0x13, 0,
    0, 0, 0, 0, 1, 0, 2, 0xF8, 0x39, 1, 0, 0x41, 0, 0, 0, 0, 1, 0x40]

/-- To the RAN function of the service model. -/
def kpmRoute : Route := Asn.aRoute 2

theorem kpmRoute_inRange : IdsInRange kpmRoute.ricId := ⟨by decide, by decide⟩

variable {ue enc} {aper : Aper} {route : Route}

theorem onSubscriptionKpmSmRic_eq_ok {trg : EventTriggerDef} {ad : ActDef} {data : SmSubsData} :
    onSubscriptionKpmSmRic ue enc ⟨trg, [ad]⟩ = .ok data ↔
      ∃ trigger, kpmEncEventTriggerAsn enc.eventTrigger trg = .ok trigger ∧
        ∃ actionDef, kpmEncActionDefAsn ue enc.actionDef ad = .ok actionDef ∧
          ⟨0, trigger, some actionDef⟩ = data := by
  simp only [onSubscriptionKpmSmRic, bind_eq_ok, pure_eq_ok]

theorem onSubscriptionKpmSmAg_eq_ok {number : UInt32} {trigger actionDef : Bytes}
    {timer : SubscribeTimer} :
    onSubscriptionKpmSmAg ue enc ⟨number, trigger, some actionDef⟩ = .ok timer ↔
      ∃ trg, kpmDecEventTriggerAsn enc.eventTrigger trigger = .ok trg ∧ 0 < trg.reportPeriodMs ∧
        ∃ ad, kpmDecActionDefAsn ue enc.actionDef actionDef = .ok ad ∧
          ⟨trg.reportPeriodMs.toNat, ad⟩ = timer := by
  simp only [onSubscriptionKpmSmAg, bind_eq_ok, check_eq_ok, pure_eq_ok, exists_const,
    Option.getD_some]

/-- The action definition is short enough for the xApp. -/
def ActDefShort (ue : UeIdCodec) (enc : KpmEncAsn) (ad : ActDef) : Prop :=
  ∀ ba, kpmEncActionDefAsn ue enc.actionDef ad = .ok ba → ba.length < 2048

def aKpmNode : GlobalE2NodeId := ⟨.gNB, ⟨208, 95, 2⟩, ⟨7, 0⟩, none, by decide⟩

/-- One measurement of a UE. -/
def ueMeasurement : ActDef := .format2 ⟨E2sm.aUeId, firstMeasurement⟩

theorem ueMeasurement_kept : ActDefKept (UeIdKeptIn (.replicate 8 0)) ueMeasurement :=
  { ueId := E2sm.aUeId_kept
    actionDefFormat1 := firstMeasurement_kept }

/-- It is reported every ten milliseconds. -/
def aKpmCommand : KpmSubData := ⟨⟨10⟩, [ueMeasurement]⟩

/-- The action definition in aligned PER. -/
def aKpmActionBytes : Bytes :=
  [0x00, 0x01, 0x02, 0x20, 0x00, 0x00, 0x01, 0x00, 0x02, 0xF8, 0x39, 0x01, 0x00, 0x41, 0x00, 0x00,
   0x00, 0x20, 0x00, 0x00, 0x01, 0x20, 0x00, 0x00, 0x00, 0x00]

def aKpmAsked : Asn.Pdu := Asn.askedSubscription 2 [0, 9] (some aKpmActionBytes)

def aKpmForwarded : Asn.Pdu := Asn.forwardedSubscription 2 [0, 9] (some aKpmActionBytes)

/-- The request in aligned PER, from the xApp and from the RIC. -/
def aKpmAskedBytes : Bytes :=
  [0x00, 0x0F, 0x00, 0x50, 0x00, 0x00, 0x05,
   0x00, 0x3E, 0x00, 0x02, 0x00, 0x07,
   0x00, 0x03, 0x00, 0x09, 0x00, 0x02, 0xF8, 0x59, 0x50, 0x00, 0x00, 0x00, 0x07,
   0x00, 0x1D, 0x00, 0x05, 0x00, 0x03, 0xFD, 0x00, 0x00,
   0x00, 0x05, 0x00, 0x02, 0x00, 0x02,
   0x00, 0x1E, 0x00, 0x27, 0x00, 0x02, 0x00, 0x09,
   0x00, 0x00, 0x13, 0x00, 0x1E, 0x40, 0x00, 0x00, 0x1A] ++ aKpmActionBytes

def aKpmForwardedBytes : Bytes :=
  [0x00, 0x08, 0x00, 0x3D, 0x00, 0x00, 0x03,
   0x00, 0x1D, 0x00, 0x05, 0x00, 0x00, 0x01, 0x00, 0x00,
   0x00, 0x05, 0x00, 0x02, 0x00, 0x02,
   0x00, 0x1E, 0x00, 0x27, 0x00, 0x02, 0x00, 0x09,
   0x00, 0x00, 0x13, 0x00, 0x1E, 0x40, 0x00, 0x00, 0x1A] ++ aKpmActionBytes

def aKpmTable : List (Asn.Pdu × Bytes) :=
  [(aKpmAsked, aKpmAskedBytes), (aKpmForwarded, aKpmForwardedBytes)]

theorem aKpm_carried : Asn.SubscriptionCarried (.ofTable aKpmTable)
    (makeKpmSmRic aUeIdCodec aKpmEnc) kpmRoute aKpmCommand := by
  have generated : Asn.generateSubscriptionRequest kpmRoute.ricId
      (makeKpmSmRic aUeIdCodec aKpmEnc) aKpmCommand =
        .ok (Asn.reportRequest kpmRoute.ricId [0, 9] (some aKpmActionBytes)) := rfl
  apply Asn.subscriptionCarried_of generated
  · exact Asn.carries_of_table (by decide) rfl
      ⟨aKpmAskedBytes, by decide +kernel, by decide +kernel⟩
  · exact Asn.carries_of_table (by decide) rfl
      ⟨aKpmForwardedBytes, by decide +kernel, by decide +kernel⟩

section
variable {ind : KpmIndData}

theorem onIndicationKpmSmAg_eq_ok {data : SmIndData} :
    onIndicationKpmSmAg ue enc ind = .ok data ↔
      ∃ hdr, kpmEncIndHdrAsn enc.indHdr ind.hdr = .ok hdr ∧
        ∃ msg, kpmEncIndMsgAsn ue enc.indMsg ind.msg = .ok msg ∧ ⟨hdr, msg, none⟩ = data := by
  simp only [onIndicationKpmSmAg, bind_eq_ok, pure_eq_ok]

theorem onIndicationKpmSmRic_eq_ok {hdr msg : Bytes} {call : Option Bytes} :
    onIndicationKpmSmRic ue enc ⟨hdr, msg, call⟩ = .ok ind ↔
      kpmDecIndMsgAsn ue enc.indMsg msg = .ok ind.msg ∧
        kpmDecIndHdrAsn enc.indHdr hdr = .ok ind.hdr := by
  simp only [onIndicationKpmSmRic, bind_eq_ok, pure_eq_ok]
  constructor
  · rintro ⟨_, readMsg, _, readHdr, same⟩
    cases same
    exact ⟨readMsg, readHdr⟩
  · rintro ⟨readMsg, readHdr⟩
    exact ⟨_, readMsg, _, readHdr, rfl⟩

/-- A record of a UE without a value. -/
def aKpmReport : KpmIndData :=
  ⟨⟨0, none, none, none, none⟩, .format3 [⟨E2sm.aUeId, ⟨[⟨[.noValue], none⟩], [], none⟩⟩]⟩

def aKpmReportData : SmIndData :=
  ⟨[0, 0, 0, 0, 0], [0x40, 0, 0x13, 0, 0, 0, 0, 0, 1, 0, 2, 0xF8, 0x39, 1, 0, 0x41, 0, 0, 0, 0, 1,
    0x40], none⟩

/-- The indication in aligned PER, from the node and from the RIC. -/
def aKpmReportBytes (high low : UInt8) : Bytes :=
  [0x00, 0x05, 0x40, 0x41, 0x00, 0x00, 0x06,
   0x00, 0x1D, 0x00, 0x05, 0x00, high, low, 0x00, 0x00,
   0x00, 0x05, 0x00, 0x02, 0x00, 0x02,
   0x00, 0x0F, 0x00, 0x01, 0x00,
   0x00, 0x1C, 0x00, 0x01, 0x00,
   0x00, 0x19, 0x00, 0x06, 0x05, 0x00, 0x00, 0x00, 0x00, 0x00,
   0x00, 0x1A, 0x00, 0x17, 0x16, 0x40, 0x00, 0x13, 0x00, 0x00, 0x00, 0x00, 0x00, 0x01, 0x00, 0x02,
   0xF8, 0x39, 0x01, 0x00, 0x41, 0x00, 0x00, 0x00, 0x00, 0x01, 0x40]

def aKpmReportTable : List (Asn.Pdu × Bytes) :=
  [(Asn.reportedIndication kpmRoute.nodeRicId aKpmReportData, aKpmReportBytes 0x00 0x01),
    (Asn.reportedIndication kpmRoute.ricId aKpmReportData, aKpmReportBytes 0x03 0xFD)]

theorem aKpmReport_carried : Asn.ReportCarried (.ofTable aKpmReportTable)
    (makeKpmSmAgent aUeIdCodec aKpmEnc) kpmRoute 0 aKpmReport := by
  have reported : onIndicationKpmSmAg aUeIdCodec aKpmEnc aKpmReport = .ok aKpmReportData := rfl
  apply Asn.reportCarried_of reported
  · exact Asn.carries_of_table (by decide) rfl
      ⟨aKpmReportBytes 0x00 0x01, by decide +kernel, by decide +kernel⟩
  · exact Asn.carries_of_table (by decide) rfl
      ⟨aKpmReportBytes 0x03 0xFD, by decide +kernel, by decide +kernel⟩

theorem aUeRecord_kept : IndMsgKept (UeIdKeptIn (.replicate 8 0)) aKpmReport.msg := by
  have report : MeasReportKept (UeIdKeptIn (.replicate 8 0))
      ⟨E2sm.aUeId, ⟨[⟨[.noValue], none⟩], [], none⟩⟩ :=
    { ueMeasReport := E2sm.aUeId_kept
      indMsgFormat1 := noValue_kept }
  exact ⟨by decide, List.forall_mem_singleton.mpr report⟩

end

end FlexRic.Kpm
