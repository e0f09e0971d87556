import FlexRic.Agent.E2Agent
import FlexRic.Asn.Relay
import FlexRic.Stats.Codec

/-! # The statistics service models between an xApp and the RAN

An xApp names one of four periods and gets the statistics of the RAN. MAC, RLC, PDCP and GTP
differ in what they check.
-/

namespace FlexRic.Stats

open Wire (Bytes Field u32 readU32 length_u32 readU32_run)
open Asn (SmRic SmAgent SmSubsData SmIndData SmCtrlReqData Aper Route NodeWellFormed IdsInRange)

variable {fields : List Field} {Out : Type}

/-- What a reader of statistics stops on. -/
def stopped {α : Type} (read : Except Wire.Fault α) : Except Asn.Fault α :=
  read.mapError fun _ => .bound

theorem stopped_eq_ok {α : Type} {read : Except Wire.Fault α} {a : α} :
    stopped read = .ok a ↔ read = .ok a := by
  cases read with
  | error e =>
      constructor
      · intro here
        cases here
      · intro here
        cases here
  | ok b =>
      constructor
      · intro here
        cases here
        rfl
      · intro here
        cases here
        rfl

/-- `*_dec_event_trigger_plain`: four bytes, whatever comes after them. -/
def decEventTriggerPlain (evTr : Bytes) : Except Asn.Fault UInt32 := do
  let (ms, _) ← stopped (readU32.run evTr)
  pure ms

/-- `*_dec_ind_hdr_plain`, `*_dec_ctrl_hdr_plain` and `*_dec_ctrl_msg_plain`, of types with one
    number. -/
def decNumberPlain (bytes : Bytes) : Except Asn.Fault UInt32 := do
  check (bytes.length = 4) .bound
  let (v, _) ← stopped (readU32.run bytes)
  pure v

theorem decEventTriggerPlain_u32 (ms : UInt32) : decEventTriggerPlain (u32 ms) = .ok ms := by
  have run := readU32_run ms []
  rw [List.append_nil] at run
  rw [decEventTriggerPlain, run]
  rfl

theorem decNumberPlain_u32 (v : UInt32) : decNumberPlain (u32 v) = .ok v := by
  rw [decNumberPlain, check_pass _ (length_u32 v), ok_bind]
  exact decEventTriggerPlain_u32 v

theorem u32_ne_nil (v : UInt32) : u32 v ≠ [] :=
  List.ne_nil_of_length_pos (by simp)

/-- `*_ind_data_t`. -/
structure IndData (fields : List Field) where
  dummy : UInt32
  msg : IndMsg fields

/-- `*_ctrl_req_data_t`. -/
structure CtrlReqData where
  dummy : UInt32
  action : UInt32
  deriving DecidableEq

/-- What the service models differ in. -/
structure PlainSm (fields : List Field) (Out : Type) where
  encIndMsg : IndMsg fields → Except Wire.Fault Bytes
  onIndication : SmIndData → Except Asn.Fault (IndData fields)
  /-- what the xApp checks of a control -/
  checkCtrl : CtrlReqData → Except Asn.Fault Unit
  /-- the only header that the agent takes -/
  dummy : UInt32
  encCtrlOut : Out → Bytes

/-- The command of a subscription, compared with the four periods. -/
def periodOf (cmd : String) : Except Asn.Fault UInt32 :=
  if cmd = "1_ms" then pure 1
  else if cmd = "2_ms" then pure 2
  else if cmd = "5_ms" then pure 5
  else if cmd = "10_ms" then pure 10
  else .error .notImplemented

/-- `on_subscription_*_sm_ric`. -/
def onSubscriptionSmRic (cmd : String) : Except Asn.Fault SmSubsData := do
  let ms ← periodOf cmd
  pure ⟨0, u32 ms, none⟩

/-- `on_subscription_*_sm_ag`. -/
def onSubscriptionSmAg (data : SmSubsData) : Except Asn.Fault UInt32 :=
  decEventTriggerPlain data.eventTrigger

/-- `on_indication_*_sm_ag`, of what the RAN reports. Its header is not used. -/
def onIndicationSmAg (sm : PlainSm fields Out) (msg : IndMsg fields) :
    Except Asn.Fault SmIndData := do
  let ba ← stopped (sm.encIndMsg msg)
  pure ⟨u32 0, ba, none⟩

/-- `*_on_control_req_*_sm_ric`. -/
def onControlReqSmRic (sm : PlainSm fields Out) (req : CtrlReqData) :
    Except Asn.Fault SmCtrlReqData := do
  sm.checkCtrl req
  pure ⟨u32 req.dummy, u32 req.action⟩

/-- `on_control_*_sm_ag`. -/
def onControlSmAg (sm : PlainSm fields Out) (write : CtrlReqData → Out) (data : SmCtrlReqData) :
    Except Asn.Fault (CtrlReqData × Bytes) := do
  let dummy ← decNumberPlain data.ctrlHdr
  check (dummy = sm.dummy) .notImplemented
  let action ← decNumberPlain data.ctrlMsg
  check (action = 42) .notImplemented
  pure (⟨dummy, action⟩, sm.encCtrlOut (write ⟨dummy, action⟩))

/-- `make_*_sm_ric`. -/
def makeSmRic (sm : PlainSm fields Out) : SmRic String (IndData fields) CtrlReqData where
  onSubscription := onSubscriptionSmRic
  onIndication := sm.onIndication
  onControlReq := onControlReqSmRic sm

/-- `make_*_sm_agent`. -/
def makeSmAgent (sm : PlainSm fields Out) : SmAgent UInt32 (IndMsg fields) CtrlReqData Out where
  onSubscription := onSubscriptionSmAg
  onIndication := onIndicationSmAg sm
  onControl := onControlSmAg sm

/-- The control that a service model knows. -/
def knownOnly (dummy : UInt32) (req : CtrlReqData) : Except Asn.Fault Unit := do
  check (req.dummy = dummy) .notImplemented
  check (req.action = 42) .notImplemented

/-- The header is read before the message. -/
def readHdrMsg (dec : Bytes → Except Wire.Fault (IndMsg fields)) (src : SmIndData) :
    Except Asn.Fault (IndData fields) := do
  let dummy ← decNumberPlain src.indHdr
  let msg ← stopped (dec src.indMsg)
  pure ⟨dummy, msg⟩

/-- The message is read before the header. -/
def readMsgHdr (dec : Bytes → Except Wire.Fault (IndMsg fields)) (src : SmIndData) :
    Except Asn.Fault (IndData fields) := do
  let msg ← stopped (dec src.indMsg)
  let dummy ← decNumberPlain src.indHdr
  pure ⟨dummy, msg⟩

/-- `on_indication_mac_sm_ric`. -/
def onIndicationMacSmRic (src : SmIndData) : Except Asn.Fault (IndData macUeStatsImpl) := do
  let ind ← readHdrMsg macDecIndMsgPlain src
  check (src.callProcessId = none) .notImplemented
  pure ind

/-- `on_indication_rlc_sm_ric`. -/
def onIndicationRlcSmRic (src : SmIndData) : Except Asn.Fault (IndData rlcRadioBearerStats) := do
  let ind ← readMsgHdr rlcDecIndMsgPlain src
  check (src.callProcessId = none) .notImplemented
  pure ind

/-- `on_indication_pdcp_sm_ric`. -/
def onIndicationPdcpSmRic (src : SmIndData) : Except Asn.Fault (IndData pdcpRadioBearerStats) :=
  readHdrMsg pdcpDecIndMsgPlain src

/-- `on_indication_gtp_sm_ric`. -/
def onIndicationGtpSmRic (src : SmIndData) : Except Asn.Fault (IndData gtpNguTStats) :=
  readMsgHdr gtpDecIndMsgPlain src

def macSm : PlainSm macUeStatsImpl Unit where
  encIndMsg := macEncIndMsgPlain
  onIndication := onIndicationMacSmRic
  checkCtrl := knownOnly 1
  dummy := 1
  encCtrlOut _ := []

def rlcSm : PlainSm rlcRadioBearerStats Unit where
  encIndMsg := rlcEncIndMsgPlain
  onIndication := onIndicationRlcSmRic
  checkCtrl := knownOnly 0
  dummy := 0
  encCtrlOut _ := []

/-- The xApp does not check its control, and the RAN answers with a number. -/
def pdcpSm : PlainSm pdcpRadioBearerStats UInt32 where
  encIndMsg := pdcpEncIndMsgPlain
  onIndication := onIndicationPdcpSmRic
  checkCtrl _ := pure ()
  dummy := 0
  encCtrlOut := u32

def gtpSm : PlainSm gtpNguTStats Unit where
  encIndMsg := gtpEncIndMsgPlain
  onIndication := onIndicationGtpSmRic
  checkCtrl := knownOnly 0
  dummy := 0
  encCtrlOut _ := []

def onSubscriptionMacSmRic : String → Except Asn.Fault SmSubsData := onSubscriptionSmRic

def ricOnControlReqMacSmRic : CtrlReqData → Except Asn.Fault SmCtrlReqData :=
  onControlReqSmRic macSm

def makeMacSmRic : SmRic String (IndData macUeStatsImpl) CtrlReqData where
  onSubscription := onSubscriptionMacSmRic
  onIndication := onIndicationMacSmRic
  onControlReq := ricOnControlReqMacSmRic

def onSubscriptionMacSmAg : SmSubsData → Except Asn.Fault UInt32 := onSubscriptionSmAg

def onIndicationMacSmAg : MacIndMsg → Except Asn.Fault SmIndData := onIndicationSmAg macSm

def onControlMacSmAg : (CtrlReqData → Unit) → SmCtrlReqData →
    Except Asn.Fault (CtrlReqData × Bytes) :=
  onControlSmAg macSm

def makeMacSmAgent : SmAgent UInt32 MacIndMsg CtrlReqData Unit where
  onSubscription := onSubscriptionMacSmAg
  onIndication := onIndicationMacSmAg
  onControl := onControlMacSmAg

def onSubscriptionRlcSmRic : String → Except Asn.Fault SmSubsData := onSubscriptionSmRic

def ricOnControlReqRlcSmRic : CtrlReqData → Except Asn.Fault SmCtrlReqData :=
  onControlReqSmRic rlcSm

def makeRlcSmRic : SmRic String (IndData rlcRadioBearerStats) CtrlReqData where
  onSubscription := onSubscriptionRlcSmRic
  onIndication := onIndicationRlcSmRic
  onControlReq := ricOnControlReqRlcSmRic

def onSubscriptionRlcSmAg : SmSubsData → Except Asn.Fault UInt32 := onSubscriptionSmAg

def onIndicationRlcSmAg : RlcIndMsg → Except Asn.Fault SmIndData := onIndicationSmAg rlcSm

def onControlRlcSmAg : (CtrlReqData → Unit) → SmCtrlReqData →
    Except Asn.Fault (CtrlReqData × Bytes) :=
  onControlSmAg rlcSm

def makeRlcSmAgent : SmAgent UInt32 RlcIndMsg CtrlReqData Unit where
  onSubscription := onSubscriptionRlcSmAg
  onIndication := onIndicationRlcSmAg
  onControl := onControlRlcSmAg

def onSubscriptionPdcpSmRic : String → Except Asn.Fault SmSubsData := onSubscriptionSmRic

def onControlReqPdcpSmRic : CtrlReqData → Except Asn.Fault SmCtrlReqData :=
  onControlReqSmRic pdcpSm

def makePdcpSmRic : SmRic String (IndData pdcpRadioBearerStats) CtrlReqData where
  onSubscription := onSubscriptionPdcpSmRic
  onIndication := onIndicationPdcpSmRic
  onControlReq := onControlReqPdcpSmRic

def onSubscriptionPdcpSmAg : SmSubsData → Except Asn.Fault UInt32 := onSubscriptionSmAg

def onIndicationPdcpSmAg : PdcpIndMsg → Except Asn.Fault SmIndData := onIndicationSmAg pdcpSm

def onControlPdcpSmAg : (CtrlReqData → UInt32) → SmCtrlReqData →
    Except Asn.Fault (CtrlReqData × Bytes) :=
  onControlSmAg pdcpSm

def makePdcpSmAgent : SmAgent UInt32 PdcpIndMsg CtrlReqData UInt32 where
  onSubscription := onSubscriptionPdcpSmAg
  onIndication := onIndicationPdcpSmAg
  onControl := onControlPdcpSmAg

def onSubscriptionGtpSmRic : String → Except Asn.Fault SmSubsData := onSubscriptionSmRic

def ricOnControlReqGtpSmRic : CtrlReqData → Except Asn.Fault SmCtrlReqData :=
  onControlReqSmRic gtpSm

def makeGtpSmRic : SmRic String (IndData gtpNguTStats) CtrlReqData where
  onSubscription := onSubscriptionGtpSmRic
  onIndication := onIndicationGtpSmRic
  onControlReq := ricOnControlReqGtpSmRic

def onSubscriptionGtpSmAg : SmSubsData → Except Asn.Fault UInt32 := onSubscriptionSmAg

def onIndicationGtpSmAg : GtpIndMsg → Except Asn.Fault SmIndData := onIndicationSmAg gtpSm

def onControlGtpSmAg : (CtrlReqData → Unit) → SmCtrlReqData →
    Except Asn.Fault (CtrlReqData × Bytes) :=
  onControlSmAg gtpSm

def makeGtpSmAgent : SmAgent UInt32 GtpIndMsg CtrlReqData Unit where
  onSubscription := onSubscriptionGtpSmAg
  onIndication := onIndicationGtpSmAg
  onControl := onControlGtpSmAg

variable {sm : PlainSm fields Out} {aper : Aper} {route : Route}

/-- The periods that an xApp may name, in milliseconds. -/
def periods : List (String × UInt32) := [("1_ms", 1), ("2_ms", 2), ("5_ms", 5), ("10_ms", 10)]

theorem periodOf_eq_ok {cmd : String} {ms : UInt32} :
    periodOf cmd = .ok ms ↔ (cmd, ms) ∈ periods := by
  simp only [periodOf, periods, List.mem_cons, Prod.mk.injEq, List.not_mem_nil, or_false]
  constructor
  · intro named
    split at named
    · exact .inl ⟨‹_›, (pure_eq_ok.mp named).symm⟩
    split at named
    · exact .inr (.inl ⟨‹_›, (pure_eq_ok.mp named).symm⟩)
    split at named
    · exact .inr (.inr (.inl ⟨‹_›, (pure_eq_ok.mp named).symm⟩))
    split at named
    · exact .inr (.inr (.inr ⟨‹_›, (pure_eq_ok.mp named).symm⟩))
    · cases named
  · rintro (⟨rfl, rfl⟩ | ⟨rfl, rfl⟩ | ⟨rfl, rfl⟩ | ⟨rfl, rfl⟩) <;> rfl

theorem periods_short {cmd : String} {ms : UInt32} (named : (cmd, ms) ∈ periods) :
    ms.toNat < 10001 := by
  have each : ∀ period ∈ periods, period.2.toNat < 10001 := by decide
  exact each (cmd, ms) named

/-- To the RAN function of MAC. -/
def macRoute : Route := Asn.aRoute 142

theorem macRoute_inRange : IdsInRange macRoute.ricId := ⟨by decide, by decide⟩

/-- The subscription to a report every ten milliseconds in aligned PER, from the xApp and from the
    RIC. -/
def aPeriodAskedBytes : Bytes :=
  [0x00, 0x0F, 0x00, 0x37, 0x00, 0x00, 0x05,
   0x00, 0x3E, 0x00, 0x02, 0x00, 0x07,
   0x00, 0x03, 0x00, 0x09, 0x00, 0x02, 0xF8, 0x59, 0x50, 0x00, 0x00, 0x00, 0x07,
   0x00, 0x1D, 0x00, 0x05, 0x00, 0x03, 0xFD, 0x00, 0x00,
   0x00, 0x05, 0x00, 0x02, 0x00, 0x8E,
   0x00, 0x1E, 0x00, 0x0E, 0x00, 0x04, 0x0A, 0x00, 0x00, 0x00,
   0x00, 0x00, 0x13, 0x00, 0x03, 0x00, 0x00, 0x00]

def aPeriodForwardedBytes : Bytes :=
  [0x00, 0x08, 0x00, 0x24, 0x00, 0x00, 0x03,
   0x00, 0x1D, 0x00, 0x05, 0x00, 0x00, 0x01, 0x00, 0x00,
   0x00, 0x05, 0x00, 0x02, 0x00, 0x8E,
   0x00, 0x1E, 0x00, 0x0E, 0x00, 0x04, 0x0A, 0x00, 0x00, 0x00,
   0x00, 0x00, 0x13, 0x00, 0x03, 0x00, 0x00, 0x00]

def aPeriodTable : List (Asn.Pdu × Bytes) :=
  [(Asn.askedSubscription 142 [10, 0, 0, 0] none, aPeriodAskedBytes),
    (Asn.forwardedSubscription 142 [10, 0, 0, 0] none, aPeriodForwardedBytes)]

theorem aPeriod_carried :
    Asn.SubscriptionCarried (.ofTable aPeriodTable) (makeSmRic macSm) macRoute "10_ms" := by
  have commanded : (makeSmRic macSm).onSubscription "10_ms" = .ok ⟨0, [10, 0, 0, 0], none⟩ :=
    bind_eq_ok.mpr ⟨10, periodOf_eq_ok.mpr (by simp [periods]), rfl⟩
  have generated : Asn.generateSubscriptionRequest macRoute.ricId (makeSmRic macSm) "10_ms" =
      .ok (Asn.reportRequest macRoute.ricId [10, 0, 0, 0] none) := by
    rw [Asn.generateSubscriptionRequest, commanded]
    rfl
  apply Asn.subscriptionCarried_of generated
  · exact Asn.carries_of_table (by decide) rfl
      ⟨aPeriodAskedBytes, by decide +kernel, by decide +kernel⟩
  · exact Asn.carries_of_table (by decide) rfl
      ⟨aPeriodForwardedBytes, by decide +kernel, by decide +kernel⟩

def aStatsNode : GlobalE2NodeId := ⟨.gNB, ⟨208, 95, 2⟩, ⟨7, 0⟩, none, NgranNode.gNB_whole⟩

/-- What the agent sends of a report. -/
def reportOf (msg : IndMsg fields) : SmIndData := ⟨u32 0, indMsgBytes msg, none⟩

/-- What is written just where `written` holds, and is read again, gets to the xApp where it fits
    the buffer. -/
theorem report_read_of (sm : PlainSm fields Out) {msg : IndMsg fields} {actionId : UInt8}
    {written : Prop}
    (inRange : IdsInRange route.ricId)
    (inverted : Asn.ReportInverted aper (makeSmAgent sm) route actionId msg)
    (writes : ∀ bytes, sm.encIndMsg msg = .ok bytes ↔ written ∧ indMsgBytes msg = bytes)
    (reads : sm.onIndication (reportOf msg) = .ok ⟨0, msg⟩) :
    Asn.reportTrip aper (makeSmRic sm) (makeSmAgent sm) route actionId msg = .ok ⟨0, msg⟩ ↔
      written ∧ Asn.ReportHolds aper route actionId (reportOf msg) := by
  rw [Asn.report_within inRange inverted]
  constructor
  · rintro ⟨data, reported, -, holds, -⟩
    obtain ⟨ba, wrote, same⟩ := bind_eq_ok.mp reported
    obtain ⟨fits, rfl⟩ := (writes ba).mp (stopped_eq_ok.mp wrote)
    cases pure_eq_ok.mp same
    exact ⟨fits, holds⟩
  · rintro ⟨fits, holds⟩
    have wrote := stopped_eq_ok.mpr ((writes _).mpr ⟨fits, rfl⟩)
    have reported : onIndicationSmAg sm msg = .ok (reportOf msg) :=
      bind_eq_ok.mpr ⟨_, wrote, rfl⟩
    have filled : indMsgBytes msg ≠ [] := by
      apply List.ne_nil_of_length_pos
      rw [length_indMsgBytes]
      exact Nat.lt_of_lt_of_le (by decide) (least_size msg)
    exact ⟨_, reported, ⟨u32_ne_nil 0, filled, rfl⟩, holds, reads⟩

section
variable {dec : Bytes → Except Wire.Fault (IndMsg fields)} {msg : IndMsg fields} {ba : Bytes}

theorem readHdrMsg_ok (read : dec ba = .ok msg) (dummy : UInt32) (call : Option Bytes) :
    readHdrMsg dec ⟨u32 dummy, ba, call⟩ = .ok ⟨dummy, msg⟩ := by
  rw [readHdrMsg, decNumberPlain_u32, ok_bind, stopped_eq_ok.mpr read]
  rfl

theorem readMsgHdr_ok (read : dec ba = .ok msg) (dummy : UInt32) (call : Option Bytes) :
    readMsgHdr dec ⟨u32 dummy, ba, call⟩ = .ok ⟨dummy, msg⟩ := by
  rw [readMsgHdr, stopped_eq_ok.mpr read, ok_bind, decNumberPlain_u32]
  rfl

end

/-- One UE, all bytes of which are 1, at the time 7. -/
def oneUe : MacIndMsg := ⟨⟨1, .replicate _ (.replicate _ 1)⟩, 7⟩

def oneUeBytes : Bytes :=
  [1, 0, 0, 0] ++ List.replicate 176 1 ++ [7, 0, 0, 0, 0, 0, 0, 0]

def oneUeData : SmIndData := ⟨[0, 0, 0, 0], oneUeBytes, none⟩

/-- The indication in aligned PER, from the node and from the RIC. -/
def oneUeIndBytes (high low : UInt8) : Bytes :=
  [0x00, 0x05, 0x40, 0x80, 0xE8, 0x00, 0x00, 0x06,
   0x00, 0x1D, 0x00, 0x05, 0x00, high, low, 0x00, 0x00,
   0x00, 0x05, 0x00, 0x02, 0x00, 0x8E,
   0x00, 0x0F, 0x00, 0x01, 0x00,
   0x00, 0x1C, 0x00, 0x01, 0x00,
   0x00, 0x19, 0x00, 0x05, 0x04, 0x00, 0x00, 0x00, 0x00,
   0x00, 0x1A, 0x00, 0x80, 0xBE, 0x80, 0xBC] ++ oneUeBytes

def oneUeTable : List (Asn.Pdu × Bytes) :=
  [(Asn.reportedIndication macRoute.nodeRicId oneUeData, oneUeIndBytes 0x00 0x01),
    (Asn.reportedIndication macRoute.ricId oneUeData, oneUeIndBytes 0x03 0xFD)]

theorem oneUe_small : oneUe.size < 2 ^ 32 := by
  decide +kernel

theorem oneUe_inverted :
    Asn.ReportInverted (.ofTable oneUeTable) makeMacSmAgent macRoute 0 oneUe := by
  have wrote : macEncIndMsgPlain oneUe = .ok oneUeBytes :=
    macEncIndMsgPlain_eq_ok.mpr ⟨oneUe_small, by decide +kernel⟩
  have reported : makeMacSmAgent.onIndication oneUe = .ok oneUeData :=
    bind_eq_ok.mpr ⟨_, stopped_eq_ok.mpr wrote, rfl⟩
  apply Asn.reportInverted_of reported
  · exact Asn.inverts_of_inverse rfl
      ⟨oneUeIndBytes 0x00 0x01, by decide +kernel, by decide +kernel⟩
  · exact Asn.inverts_of_inverse rfl
      ⟨oneUeIndBytes 0x03 0xFD, by decide +kernel, by decide +kernel⟩

theorem oneUe_short : ∀ e ∈ oneUeTable, e.2.length < Asn.bufferLen := by
  decide +kernel

/-- A service model admits the control that its agent takes. -/
def PlainSm.Agrees (sm : PlainSm fields Out) : Prop := sm.checkCtrl ⟨sm.dummy, 42⟩ = .ok ()

theorem macSm_agrees : macSm.Agrees := rfl

theorem rlcSm_agrees : rlcSm.Agrees := rfl

theorem pdcpSm_agrees : pdcpSm.Agrees := rfl

theorem gtpSm_agrees : gtpSm.Agrees := rfl

/-- The RAN is given one control only. -/
theorem stats_control_served_iff {write : CtrlReqData → Out} {ctrl : CtrlReqData}
    {ack : Asn.RicControlAcknowledge} (agrees : sm.Agrees) (node : NodeWellFormed route.node)
    (admitted : route.node.type ∈ Asn.controlTypes) (inRange : IdsInRange route.ricId)
    (carried : Asn.ControlCarried aper (makeSmRic sm) (makeSmAgent sm) write route ctrl) :
    Asn.controlTrip aper (makeSmRic sm) (makeSmAgent sm) write route ctrl = .ok (ctrl, ack) ↔
      ctrl = ⟨sm.dummy, 42⟩ ∧ ⟨route.ricId, none, none⟩ = ack := by
  rw [Asn.control_through node admitted inRange carried]
  apply and_congr_left
  intro _
  constructor
  · rintro ⟨data, out, -, -, controlled⟩
    obtain ⟨dummy, -, known⟩ := bind_eq_ok.mp controlled
    obtain ⟨_, same, known⟩ := bind_eq_ok.mp known
    obtain ⟨action, -, known⟩ := bind_eq_ok.mp known
    obtain ⟨_, only, given⟩ := bind_eq_ok.mp known
    cases check_eq_ok.mp same
    cases check_eq_ok.mp only
    cases given
    rfl
  · rintro rfl
    have commanded : onControlReqSmRic sm ⟨sm.dummy, 42⟩ = .ok ⟨u32 sm.dummy, u32 42⟩ := by
      rw [onControlReqSmRic, agrees, ok_bind]
      rfl
    have sendable : Asn.SmCtrlReqData.Sendable ⟨u32 sm.dummy, u32 42⟩ :=
      { hdr := u32_ne_nil _
        msg := u32_ne_nil _
        shortHdr := by simp
        shortMsg := by simp }
    have controlled : onControlSmAg sm write ⟨u32 sm.dummy, u32 42⟩ =
        .ok (⟨sm.dummy, 42⟩, sm.encCtrlOut (write ⟨sm.dummy, 42⟩)) := by
      simp only [onControlSmAg, decNumberPlain_u32, ok_bind, check_pass _ trivial]
      rfl
    exact ⟨_, _, commanded, sendable, controlled⟩

def macControl : CtrlReqData := ⟨1, 42⟩

def macControlData : SmCtrlReqData := ⟨[1, 0, 0, 0], [42, 0, 0, 0]⟩

def macControlAsked : Asn.Pdu :=
  ⟨.initiatingMessage, .e42RicControl, .reject, .e42RicControlRequest,
    Asn.askedIes 142 ++ Asn.controlIes (Asn.ackedRequest macRoute.ricId macControlData)⟩

def macControlForwarded : Asn.Pdu :=
  ⟨.initiatingMessage, .ricControl, .reject, .ricControlRequest,
    Asn.encRicId macRoute.nodeRicId ++
      Asn.controlIes (Asn.ackedRequest macRoute.nodeRicId macControlData)⟩

/-- Without an outcome. -/
def macControlAck (ricId : RicGenId) : Asn.Pdu :=
  ⟨.successfulOutcome, .ricControl, .reject, .ricControlAcknowledge, Asn.encRicId ricId⟩

/-- The request in aligned PER, from the xApp and from the RIC. -/
def macControlAskedBytes : Bytes :=
  [0x00, 0x11, 0x00, 0x3C, 0x00, 0x00, 0x07,
   0x00, 0x3E, 0x00, 0x02, 0x00, 0x07,
   0x00, 0x03, 0x00, 0x09, 0x00, 0x02, 0xF8, 0x59, 0x50, 0x00, 0x00, 0x00, 0x07,
   0x00, 0x1D, 0x00, 0x05, 0x00, 0x03, 0xFD, 0x00, 0x00,
   0x00, 0x05, 0x00, 0x02, 0x00, 0x8E,
   0x00, 0x16, 0x00, 0x05, 0x04, 0x01, 0x00, 0x00, 0x00,
   0x00, 0x17, 0x00, 0x05, 0x04, 0x2A, 0x00, 0x00, 0x00,
   0x00, 0x15, 0x00, 0x01, 0x40]

def macControlForwardedBytes : Bytes :=
  [0x00, 0x04, 0x00, 0x29, 0x00, 0x00, 0x05,
   0x00, 0x1D, 0x00, 0x05, 0x00, 0x00, 0x01, 0x00, 0x00,
   0x00, 0x05, 0x00, 0x02, 0x00, 0x8E,
   0x00, 0x16, 0x00, 0x05, 0x04, 0x01, 0x00, 0x00, 0x00,
   0x00, 0x17, 0x00, 0x05, 0x04, 0x2A, 0x00, 0x00, 0x00,
   0x00, 0x15, 0x00, 0x01, 0x40]

def macControlAckBytes (high low : UInt8) : Bytes :=
  [0x20, 0x04, 0x00, 0x12, 0x00, 0x00, 0x02,
   0x00, 0x1D, 0x00, 0x05, 0x00, high, low, 0x00, 0x00,
   0x00, 0x05, 0x00, 0x02, 0x00, 0x8E]

def macControlTable : List (Asn.Pdu × Bytes) :=
  [(macControlAsked, macControlAskedBytes), (macControlForwarded, macControlForwardedBytes),
    (macControlAck macRoute.nodeRicId, macControlAckBytes 0x00 0x01),
    (macControlAck macRoute.ricId, macControlAckBytes 0x03 0xFD)]

theorem macControl_carried : Asn.ControlCarried (.ofTable macControlTable) (makeSmRic macSm)
    (makeSmAgent macSm) (fun _ => ()) macRoute macControl := by
  have commanded : onControlReqSmRic macSm macControl = .ok macControlData := rfl
  have controlled : onControlSmAg macSm (fun _ => ()) macControlData = .ok (macControl, []) := rfl
  apply Asn.controlCarried_of commanded controlled
  · exact Asn.carries_of_table (by decide) rfl
      ⟨macControlAskedBytes, by decide +kernel, by decide +kernel⟩
  · exact Asn.carries_of_table (by decide) rfl
      ⟨macControlForwardedBytes, by decide +kernel, by decide +kernel⟩
  · exact Asn.carries_of_table (by decide) rfl
      ⟨macControlAckBytes 0x00 0x01, by decide +kernel, by decide +kernel⟩
  · exact Asn.carries_of_table (by decide) rfl
      ⟨macControlAckBytes 0x03 0xFD, by decide +kernel, by decide +kernel⟩

theorem stats_control_served_mac :
    Asn.controlTrip (.ofTable macControlTable) (makeSmRic macSm) (makeSmAgent macSm)
      (fun _ => ()) macRoute macControl = .ok (macControl, ⟨macRoute.ricId, none, none⟩) :=
  (stats_control_served_iff macSm_agrees Asn.aNode_wellFormed (by decide) macRoute_inRange
    macControl_carried).mpr ⟨rfl, rfl⟩

end FlexRic.Stats
