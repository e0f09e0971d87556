import FlexRic.Asn.Relay
import FlexRic.Rc.ActionDefRoundTrip
import FlexRic.Rc.ControlRoundTrip
import FlexRic.Rc.EventTriggerRoundTrip
import FlexRic.Rc.IndicationRoundTrip

/-! # The service model between an xApp and the RAN

What an xApp asks for, or the RAN reports, is served where it is kept by its codec and its bytes
are short enough. The outcome of a control is encoded for nobody.
-/

namespace FlexRic.Rc

open Wire (Bytes)
open Asn (Fault SmRic SmAgent SmSubsData SmIndData SmCtrlReqData Aper Route NodeWellFormed
  IdsInRange)
open E2sm (UeIdE2sm Ueid SharedCodec Memory UeIdKeptIn ueIdCodec ueIdCodec_keeps aUeIdCodec)

/-- `rc_enc_asn_t`: the generated codecs that the two sides share. -/
structure RcEncAsn where
  eventTrigger : Packing EventTriggerAsn
  actionDef : Packing ActionDefinitionAsn
  indHdr : Packing IndicationHeaderAsn
  indMsg : Packing IndicationMessageAsn
  ctrlHdr : Packing ControlHeaderAsn
  ctrlMsg : Packing ControlMessageAsn
  ctrlOut : Packing ControlOutcomeAsn

/-- `rc_sub_data_t`. -/
structure RcSubData where
  et : EventTrigger
  ad : List ActionDef

/-- `wr_rc_sub_data_t`. -/
structure WrRcSubData where
  ricReqId : UInt32
  rc : RcSubData

/-- `rc_ind_data_t`. -/
structure RcIndData where
  hdr : IndHdr
  msg : IndMsg
  procId : Option UInt32

/-- `rc_ctrl_req_data_t`. -/
structure RcCtrlReqData where
  hdr : CtrlHdr
  msg : CtrlMsg

variable (ue : SharedCodec UeIdE2sm Ueid) (enc : RcEncAsn)

/-- `on_subscription_rc_sm_ric`. -/
def onSubscriptionRcSmRic (src : RcSubData) : Except Fault SmSubsData := do
  let eventTrigger ← rcEncEventTriggerAsn enc.eventTrigger src.et
  match src.ad with
  | [ad] => do
      let actionDef ← rcEncActionDefAsn enc.actionDef ad
      check (actionDef.length < 10 * 1024) .bound
      pure ⟨0, eventTrigger, some actionDef⟩
  | _ => .error .notImplemented

/-- `on_subscription_rc_sm_ag`, up to what it gives to the RAN. -/
def onSubscriptionRcSmAg (data : SmSubsData) : Except Fault WrRcSubData := do
  let et ← rcDecEventTriggerAsn enc.eventTrigger data.eventTrigger
  let ad ← rcDecActionDefAsn enc.actionDef (data.actionDef.getD [])
  pure ⟨data.ricReqId, ⟨et, [ad]⟩⟩

/-- `on_indication_rc_sm_ag`. -/
def onIndicationRcSmAg (ind : RcIndData) : Except Fault SmIndData := do
  let hdr ← rcEncIndHdrAsn ue enc.indHdr ind.hdr
  check (hdr.length < 1024) .bound
  let msg ← rcEncIndMsgAsn ue enc.indMsg ind.msg
  check (msg.length < 10 * 1024) .bound
  check (ind.procId = none) .notImplemented
  pure ⟨hdr, msg, none⟩

/-- `on_indication_rc_sm_ric`. -/
def onIndicationRcSmRic (src : SmIndData) : Except Fault RcIndData := do
  let hdr ← rcDecIndHdrAsn ue enc.indHdr src.indHdr
  let msg ← rcDecIndMsgAsn ue enc.indMsg src.indMsg
  check (src.callProcessId = none) .notImplemented
  pure ⟨hdr, msg, none⟩

/-- `ric_on_control_req_rc_sm_ric`. -/
def onControlReqRcSmRic (req : RcCtrlReqData) : Except Fault SmCtrlReqData := do
  let hdr ← rcEncCtrlHdrAsn ue enc.ctrlHdr req.hdr
  let msg ← rcEncCtrlMsgAsn enc.ctrlMsg req.msg
  pure ⟨hdr, msg⟩

/-- `on_control_rc_sm_ag`, with what it gives to the RAN. -/
def onControlRcSmAg (write : RcCtrlReqData → CtrlOut) (data : SmCtrlReqData) :
    Except Fault (RcCtrlReqData × Bytes) := do
  let hdr ← rcDecCtrlHdrAsn ue enc.ctrlHdr data.ctrlHdr
  let msg ← rcDecCtrlMsgAsn enc.ctrlMsg data.ctrlMsg
  let out ← rcEncCtrlOutAsn enc.ctrlOut (write ⟨hdr, msg⟩)
  pure (⟨hdr, msg⟩, out)

/-- `make_rc_sm_ric`. -/
def makeRcSmRic : SmRic RcSubData RcIndData RcCtrlReqData where
  onSubscription := onSubscriptionRcSmRic enc
  onIndication := onIndicationRcSmRic ue enc
  onControlReq := onControlReqRcSmRic ue enc

/-- `make_rc_sm_agent`. -/
def makeRcSmAgent : SmAgent WrRcSubData RcIndData RcCtrlReqData CtrlOut where
  onSubscription := onSubscriptionRcSmAg enc
  onIndication := onIndicationRcSmAg ue enc
  onControl := onControlRcSmAg ue enc

/-- A codec for one value of each type, as its bytes. -/
def anRcEnc : RcEncAsn where
  eventTrigger := .always (.format2 ⟨1, 1, none, none⟩) 8 [0, 0, 0, 0, 0, 0]
  actionDef := .always ⟨1, .format2 [⟨⟨1, none, none⟩, none⟩]⟩ 0 [1, 1, 0x20, 0, 0, 0, 0, 0]
  indHdr := .always (.format1 none) 0 []
  indMsg := aReportPer (.format2 [⟨E2sm.aUeid, [⟨1, .elementTrue (.valueBoolean 1)⟩]⟩])
  ctrlHdr := aHeaderPer (.format1 ⟨E2sm.aUeid, 1, 1, none⟩)
  ctrlMsg := .always (.format2 [⟨1, [⟨1, []⟩]⟩]) 0x20 [0, 1, 1, 0, 0, 0, 0, 0, 0]
  ctrlOut := .always (.format1 []) 0 [0]

/-- To the RAN function of the service model. -/
def rcRoute : Route := Asn.aRoute 3

theorem rcRoute_inRange : IdsInRange rcRoute.ricId := ⟨by decide, by decide⟩

variable {ue enc} {aper : Aper} {route : Route}

theorem onSubscriptionRcSmRic_eq_ok {et : EventTrigger} {ad : ActionDef} {data : SmSubsData} :
    onSubscriptionRcSmRic enc ⟨et, [ad]⟩ = .ok data ↔
      ∃ trigger, rcEncEventTriggerAsn enc.eventTrigger et = .ok trigger ∧
        ∃ actionDef, rcEncActionDefAsn enc.actionDef ad = .ok actionDef ∧
          actionDef.length < 10 * 1024 ∧ ⟨0, trigger, some actionDef⟩ = data := by
  simp only [onSubscriptionRcSmRic, bind_eq_ok, check_eq_ok, pure_eq_ok, exists_const]

theorem onSubscriptionRcSmAg_eq_ok {number : UInt32} {trigger actionDef : Bytes}
    {et : EventTrigger} {ad : ActionDef} :
    onSubscriptionRcSmAg enc ⟨number, trigger, some actionDef⟩ = .ok ⟨number, ⟨et, [ad]⟩⟩ ↔
      rcDecEventTriggerAsn enc.eventTrigger trigger = .ok et ∧
        rcDecActionDefAsn enc.actionDef actionDef = .ok ad := by
  simp only [onSubscriptionRcSmAg, bind_eq_ok, pure_eq_ok, Option.getD_some]
  constructor
  · rintro ⟨_, readEt, _, readAd, same⟩
    cases same
    exact ⟨readEt, readAd⟩
  · rintro ⟨readEt, readAd⟩
    exact ⟨et, readEt, ad, readAd, rfl⟩

/-- The action definition is short enough for the xApp. -/
def ActionDefShort (enc : RcEncAsn) (ad : ActionDef) : Prop :=
  ∀ ba, rcEncActionDefAsn enc.actionDef ad = .ok ba → ba.length < 2048

/-- The RAN gets what the xApp subscribes to, just where it is kept by the codec and the xApp lets
    its bytes pass. -/
theorem rc_subscription_served_iff {et : EventTrigger} {ad : ActionDef}
    (node : NodeWellFormed route.node) (admitted : route.node.type ∈ Asn.subscriptionTypes)
    (small : route.ricId.ricReqId.toNat < Asn.maxRicRequestId)
    (carried : Asn.SubscriptionCarried aper (makeRcSmRic ue enc) route ⟨et, [ad]⟩)
    (carriedEt : enc.eventTrigger.Carries subscriptionRoom eventTriggerUnit et)
    (carriedAd : enc.actionDef.Carries subscriptionRoom actionDefUnit ad) :
    Asn.subscriptionTrip aper (makeRcSmRic ue enc) (makeRcSmAgent ue enc) route ⟨et, [ad]⟩ =
        .ok ⟨route.newRicId.toUInt32, ⟨et, [ad]⟩⟩ ↔
      EventTriggerKept et ∧ ActDefFormatKept ad.format ∧ ActionDefShort enc ad := by
  have keptEt := eventTrigger_packed_iff carriedEt
  have keptAd := actionDef_packed_iff carriedAd
  rw [bind_eq_ok] at keptEt keptAd
  rw [Asn.subscription_through node admitted small carried, ← keptEt, ← keptAd]
  constructor
  · rintro ⟨data, commanded, sendable, got⟩
    obtain ⟨trigger, wroteEt, actionDef, wroteAd, -, rfl⟩ :=
      onSubscriptionRcSmRic_eq_ok.mp commanded
    obtain ⟨readEt, readAd⟩ := onSubscriptionRcSmAg_eq_ok.mp got
    refine ⟨⟨trigger, wroteEt, readEt⟩, ⟨actionDef, wroteAd, readAd⟩, ?_⟩
    intro ba wrote
    cases wroteAd.symm.trans wrote
    exact sendable.short
  · rintro ⟨⟨trigger, wroteEt, readEt⟩, ⟨actionDef, wroteAd, readAd⟩, short⟩
    have brief : actionDef.length < 2048 := short actionDef wroteAd
    have commanded : onSubscriptionRcSmRic enc ⟨et, [ad]⟩ = .ok ⟨0, trigger, some actionDef⟩ :=
      onSubscriptionRcSmRic_eq_ok.mpr
        ⟨trigger, wroteEt, actionDef, wroteAd, Nat.lt_trans brief (by decide), rfl⟩
    refine ⟨_, commanded, ⟨encoded_ne_nil wroteEt, ?_, brief⟩,
      onSubscriptionRcSmAg_eq_ok.mpr ⟨readEt, readAd⟩⟩
    intro ba here
    cases here
    exact encoded_ne_nil wroteAd

/-- The first breakpoint of the first call process, with one policy. -/
def aSubCommand : RcSubData := ⟨.frmt2 ⟨1, 1, none, none⟩, [firstPolicy]⟩

def aSubAsked : Asn.Pdu :=
  Asn.askedSubscription 3 [8, 0, 0, 0, 0, 0, 0] (some [0, 1, 1, 0x20, 0, 0, 0, 0, 0])

def aSubForwarded : Asn.Pdu :=
  Asn.forwardedSubscription 3 [8, 0, 0, 0, 0, 0, 0] (some [0, 1, 1, 0x20, 0, 0, 0, 0, 0])

/-- The request in aligned PER, from the xApp. -/
def aSubAskedBytes : Bytes :=
  [0x00, 0x0F, 0x00, 0x44, 0x00, 0x00, 0x05,
   0x00, 0x3E, 0x00, 0x02, 0x00, 0x07,
   0x00, 0x03, 0x00, 0x09, 0x00, 0x02, 0xF8, 0x59, 0x50, 0x00, 0x00, 0x00, 0x07,
   0x00, 0x1D, 0x00, 0x05, 0x00, 0x03, 0xFD, 0x00, 0x00,
   0x00, 0x05, 0x00, 0x02, 0x00, 0x03,
   0x00, 0x1E, 0x00, 0x1B, 0x00, 0x07, 0x08, 0x00, 0x00, 0x00, 0x00, 0x00, 0x00,
   0x00, 0x00, 0x13, 0x00, 0x0D, 0x40, 0x00, 0x00, 0x09,
   0x00, 0x01, 0x01, 0x20, 0x00, 0x00, 0x00, 0x00, 0x00]

/-- The request in aligned PER, from the RIC. -/
def aSubForwardedBytes : Bytes :=
  [0x00, 0x08, 0x00, 0x31, 0x00, 0x00, 0x03,
   0x00, 0x1D, 0x00, 0x05, 0x00, 0x00, 0x01, 0x00, 0x00,
   0x00, 0x05, 0x00, 0x02, 0x00, 0x03,
   0x00, 0x1E, 0x00, 0x1B, 0x00, 0x07, 0x08, 0x00, 0x00, 0x00, 0x00, 0x00, 0x00,
   0x00, 0x00, 0x13, 0x00, 0x0D, 0x40, 0x00, 0x00, 0x09,
   0x00, 0x01, 0x01, 0x20, 0x00, 0x00, 0x00, 0x00, 0x00]

def aSubTable : List (Asn.Pdu × Bytes) :=
  [(aSubAsked, aSubAskedBytes), (aSubForwarded, aSubForwardedBytes)]

theorem aSub_carried : Asn.SubscriptionCarried (.ofTable aSubTable)
    (makeRcSmRic aUeIdCodec anRcEnc) rcRoute aSubCommand := by
  have generated : Asn.generateSubscriptionRequest rcRoute.ricId (makeRcSmRic aUeIdCodec anRcEnc)
      aSubCommand = .ok (Asn.reportRequest rcRoute.ricId [8, 0, 0, 0, 0, 0, 0]
        (some [0, 1, 1, 0x20, 0, 0, 0, 0, 0])) := rfl
  apply Asn.subscriptionCarried_of generated
  · exact Asn.carries_of_table (by decide) rfl
      ⟨aSubAskedBytes, by decide +kernel, by decide +kernel⟩
  · exact Asn.carries_of_table (by decide) rfl
      ⟨aSubForwardedBytes, by decide +kernel, by decide +kernel⟩

theorem rc_subscription_served_policy :
    Asn.subscriptionTrip (.ofTable aSubTable) (makeRcSmRic aUeIdCodec anRcEnc)
      (makeRcSmAgent aUeIdCodec anRcEnc) rcRoute aSubCommand =
        .ok ⟨1, aSubCommand⟩ := by
  have trigger : EventTriggerKept (.frmt2 ⟨1, 1, none, none⟩) :=
    { callProcTypeId := by decide
      callBreakId := by decide
      assocE2NodeInfo := rfl
      assocUeInfo := rfl }
  have short : ActionDefShort anRcEnc firstPolicy := by
    intro ba wrote
    cases wrote
    decide
  exact (rc_subscription_served_iff Asn.aNode_wellFormed (by decide) (by decide) aSub_carried
    (Packing.always_carries rfl (by decide)) (Packing.always_carries rfl (by decide))).mpr
      ⟨trigger, firstPolicy_kept, short⟩

section
variable {write : RcCtrlReqData → CtrlOut} {ctrl given : RcCtrlReqData} {out : Bytes}

theorem onControlReqRcSmRic_eq_ok {data : SmCtrlReqData} :
    onControlReqRcSmRic ue enc ctrl = .ok data ↔
      ∃ hdr, rcEncCtrlHdrAsn ue enc.ctrlHdr ctrl.hdr = .ok hdr ∧
        ∃ msg, rcEncCtrlMsgAsn enc.ctrlMsg ctrl.msg = .ok msg ∧ ⟨hdr, msg⟩ = data := by
  simp only [onControlReqRcSmRic, bind_eq_ok, pure_eq_ok]

theorem onControlRcSmAg_eq_ok {hdr msg : Bytes} :
    onControlRcSmAg ue enc write ⟨hdr, msg⟩ = .ok (given, out) ↔
      rcDecCtrlHdrAsn ue enc.ctrlHdr hdr = .ok given.hdr ∧
        rcDecCtrlMsgAsn enc.ctrlMsg msg = .ok given.msg ∧
          rcEncCtrlOutAsn enc.ctrlOut (write given) = .ok out := by
  simp only [onControlRcSmAg, bind_eq_ok, pure_eq_ok]
  constructor
  · rintro ⟨_, readHdr, _, readMsg, _, wrote, same⟩
    cases same
    exact ⟨readHdr, readMsg, wrote⟩
  · rintro ⟨readHdr, readMsg, wrote⟩
    exact ⟨_, readHdr, _, readMsg, _, wrote, rfl⟩

/-- The parts of the control are short enough for the xApp. -/
structure ControlShort (ue : SharedCodec UeIdE2sm Ueid) (enc : RcEncAsn) (ctrl : RcCtrlReqData) :
    Prop where
  hdr : ∀ ba, rcEncCtrlHdrAsn ue enc.ctrlHdr ctrl.hdr = .ok ba → ba.length < 2049
  msg : ∀ ba, rcEncCtrlMsgAsn enc.ctrlMsg ctrl.msg = .ok ba → ba.length < 2049

/-- One action without parameters, for a UE. -/
def aCtrlCommand : RcCtrlReqData := ⟨aUeHeader, .frmt2 [⟨1, [⟨1, some []⟩]⟩]⟩

def aCtrlData : SmCtrlReqData :=
  ⟨[0, 0, 0, 1, 0, 2, 0xF8, 0x39, 1, 0, 0x41, 1, 1, 0, 0, 0], [0x20, 0, 1, 1, 0, 0, 0, 0, 0, 0]⟩

def aCtrlAsked : Asn.Pdu :=
  ⟨.initiatingMessage, .e42RicControl, .reject, .e42RicControlRequest,
    Asn.askedIes 3 ++ Asn.controlIes (Asn.ackedRequest rcRoute.ricId aCtrlData)⟩

def aCtrlForwarded : Asn.Pdu :=
  ⟨.initiatingMessage, .ricControl, .reject, .ricControlRequest, Asn.encRicId rcRoute.nodeRicId ++
    Asn.controlIes (Asn.ackedRequest rcRoute.nodeRicId aCtrlData)⟩

def aCtrlAcked : Asn.Pdu :=
  ⟨.successfulOutcome, .ricControl, .reject, .ricControlAcknowledge,
    Asn.encRicId rcRoute.nodeRicId ++ [Asn.outcomeIe [0, 0]]⟩

def aCtrlAnswered : Asn.Pdu :=
  ⟨.successfulOutcome, .ricControl, .reject, .ricControlAcknowledge, Asn.encRicId rcRoute.ricId⟩

/-- The request in aligned PER, from the xApp and from the RIC. -/
def aCtrlAskedBytes : Bytes :=
  [0x00, 0x11, 0x00, 0x4E, 0x00, 0x00, 0x07,
   0x00, 0x3E, 0x00, 0x02, 0x00, 0x07,
   0x00, 0x03, 0x00, 0x09, 0x00, 0x02, 0xF8, 0x59, 0x50, 0x00, 0x00, 0x00, 0x07,
   0x00, 0x1D, 0x00, 0x05, 0x00, 0x03, 0xFD, 0x00, 0x00,
   0x00, 0x05, 0x00, 0x02, 0x00, 0x03,
   0x00, 0x16, 0x00, 0x11, 0x10, 0x00, 0x00, 0x00, 0x01, 0x00, 0x02, 0xF8, 0x39, 0x01, 0x00, 0x41,
   0x01, 0x01, 0x00, 0x00, 0x00,
   0x00, 0x17, 0x00, 0x0B, 0x0A, 0x20, 0x00, 0x01, 0x01, 0x00, 0x00, 0x00, 0x00, 0x00, 0x00,
   0x00, 0x15, 0x00, 0x01, 0x40]

def aCtrlForwardedBytes : Bytes :=
  [0x00, 0x04, 0x00, 0x3B, 0x00, 0x00, 0x05,
   0x00, 0x1D, 0x00, 0x05, 0x00, 0x00, 0x01, 0x00, 0x00,
   0x00, 0x05, 0x00, 0x02, 0x00, 0x03,
   0x00, 0x16, 0x00, 0x11, 0x10, 0x00, 0x00, 0x00, 0x01, 0x00, 0x02, 0xF8, 0x39, 0x01, 0x00, 0x41,
   0x01, 0x01, 0x00, 0x00, 0x00,
   0x00, 0x17, 0x00, 0x0B, 0x0A, 0x20, 0x00, 0x01, 0x01, 0x00, 0x00, 0x00, 0x00, 0x00, 0x00,
   0x00, 0x15, 0x00, 0x01, 0x40]

/-- The acknowledgement in aligned PER, from the node and from the RIC. -/
def aCtrlAckedBytes : Bytes :=
  [0x20, 0x04, 0x00, 0x19, 0x00, 0x00, 0x03,
   0x00, 0x1D, 0x00, 0x05, 0x00, 0x00, 0x01, 0x00, 0x00,
   0x00, 0x05, 0x00, 0x02, 0x00, 0x03,
   0x00, 0x20, 0x00, 0x03, 0x02, 0x00, 0x00]

def aCtrlAnsweredBytes : Bytes :=
  [0x20, 0x04, 0x00, 0x12, 0x00, 0x00, 0x02,
   0x00, 0x1D, 0x00, 0x05, 0x00, 0x03, 0xFD, 0x00, 0x00,
   0x00, 0x05, 0x00, 0x02, 0x00, 0x03]

def aCtrlTable : List (Asn.Pdu × Bytes) :=
  [(aCtrlAsked, aCtrlAskedBytes), (aCtrlForwarded, aCtrlForwardedBytes),
    (aCtrlAcked, aCtrlAckedBytes), (aCtrlAnswered, aCtrlAnsweredBytes)]

/-- The RAN carries the control out, and its outcome is empty. -/
def anOutcome (_ : RcCtrlReqData) : CtrlOut := .frmt1 []

theorem aCtrl_carried : Asn.ControlCarried (.ofTable aCtrlTable)
    (makeRcSmRic aUeIdCodec anRcEnc) (makeRcSmAgent aUeIdCodec anRcEnc) anOutcome rcRoute
    aCtrlCommand := by
  have commanded : onControlReqRcSmRic aUeIdCodec anRcEnc aCtrlCommand = .ok aCtrlData := rfl
  have controlled : onControlRcSmAg aUeIdCodec anRcEnc anOutcome aCtrlData =
      .ok (aCtrlCommand, [0, 0]) := rfl
  apply Asn.controlCarried_of commanded controlled
  · exact Asn.carries_of_table (by decide) rfl
      ⟨aCtrlAskedBytes, by decide +kernel, by decide +kernel⟩
  · exact Asn.carries_of_table (by decide) rfl
      ⟨aCtrlForwardedBytes, by decide +kernel, by decide +kernel⟩
  · exact Asn.carries_of_table (by decide) rfl
      ⟨aCtrlAckedBytes, by decide +kernel, by decide +kernel⟩
  · exact Asn.carries_of_table (by decide) rfl
      ⟨aCtrlAnsweredBytes, by decide +kernel, by decide +kernel⟩

end

section
variable {rep : RcIndData}

theorem onIndicationRcSmAg_eq_ok {data : SmIndData} :
    onIndicationRcSmAg ue enc rep = .ok data ↔
      ∃ hdr, rcEncIndHdrAsn ue enc.indHdr rep.hdr = .ok hdr ∧ hdr.length < 1024 ∧
        ∃ msg, rcEncIndMsgAsn ue enc.indMsg rep.msg = .ok msg ∧ msg.length < 10 * 1024 ∧
          rep.procId = none ∧ ⟨hdr, msg, none⟩ = data := by
  simp only [onIndicationRcSmAg, bind_eq_ok, check_eq_ok, pure_eq_ok, exists_const]

theorem onIndicationRcSmRic_eq_ok {hdr msg : Bytes} :
    onIndicationRcSmRic ue enc ⟨hdr, msg, none⟩ = .ok rep ↔
      rcDecIndHdrAsn ue enc.indHdr hdr = .ok rep.hdr ∧
        rcDecIndMsgAsn ue enc.indMsg msg = .ok rep.msg ∧ rep.procId = none := by
  obtain ⟨repHdr, repMsg, procId⟩ := rep
  simp only [onIndicationRcSmRic, check_pass _ trivial, bind_eq_ok, pure_eq_ok]
  constructor
  · rintro ⟨_, readHdr, _, readMsg, _, -, same⟩
    cases same
    exact ⟨readHdr, readMsg, rfl⟩
  · rintro ⟨readHdr, readMsg, rfl⟩
    exact ⟨_, readHdr, _, readMsg, (), trivial, rfl⟩

/-- The parts of the report are short enough for the agent, and it is of no call. -/
structure ReportShort (ue : SharedCodec UeIdE2sm Ueid) (enc : RcEncAsn) (rep : RcIndData) :
    Prop where
  hdr : ∀ ba, rcEncIndHdrAsn ue enc.indHdr rep.hdr = .ok ba → ba.length < 1024
  msg : ∀ ba, rcEncIndMsgAsn ue enc.indMsg rep.msg = .ok ba → ba.length < 10 * 1024
  procId : rep.procId = none

/-- The xApp gets the report of the RAN just where it is kept by the codec and the agent lets its
    bytes pass. -/
theorem rc_report_read_iff (there here : Memory) {actionId : UInt8}
    (inRange : IdsInRange route.ricId)
    (carried : Asn.ReportCarried aper (makeRcSmAgent (ueIdCodec there here) enc) route actionId rep)
    (carriedHdr : enc.indHdr.Carries indHdrRoom (indHdrUnit (ueIdCodec there here)) rep.hdr)
    (carriedMsg : enc.indMsg.Carries indMsgRoom (indMsgUnit (ueIdCodec there here)) rep.msg) :
    Asn.reportTrip aper (makeRcSmRic (ueIdCodec there here) enc)
        (makeRcSmAgent (ueIdCodec there here) enc) route actionId rep = .ok rep ↔
      IndHdrKept (UeIdKeptIn here) rep.hdr ∧ IndMsgKept (UeIdKeptIn here) rep.msg ∧
        ReportShort (ueIdCodec there here) enc rep := by
  have keptHdr := indHdr_packed_iff (ueIdCodec_keeps there here) carriedHdr
  have keptMsg := indMsg_packed_iff (ueIdCodec_keeps there here) carriedMsg
  rw [bind_eq_ok] at keptHdr keptMsg
  rw [Asn.report_through inRange carried, ← keptHdr, ← keptMsg]
  constructor
  · rintro ⟨data, reported, -, got⟩
    obtain ⟨hdr, wroteHdr, shortHdr, msg, wroteMsg, shortMsg, call, rfl⟩ :=
      onIndicationRcSmAg_eq_ok.mp reported
    obtain ⟨readHdr, readMsg, -⟩ := onIndicationRcSmRic_eq_ok.mp got
    refine ⟨⟨hdr, wroteHdr, readHdr⟩, ⟨msg, wroteMsg, readMsg⟩, ?_, ?_, call⟩
    · intro ba wrote
      cases wroteHdr.symm.trans wrote
      exact shortHdr
    · intro ba wrote
      cases wroteMsg.symm.trans wrote
      exact shortMsg
  · rintro ⟨⟨hdr, wroteHdr, readHdr⟩, ⟨msg, wroteMsg, readMsg⟩, short⟩
    have reported : onIndicationRcSmAg (ueIdCodec there here) enc rep = .ok ⟨hdr, msg, none⟩ :=
      onIndicationRcSmAg_eq_ok.mpr ⟨hdr, wroteHdr, short.hdr hdr wroteHdr, msg, wroteMsg,
        short.msg msg wroteMsg, short.procId, rfl⟩
    have sendable : Asn.SmIndData.Sendable ⟨hdr, msg, none⟩ :=
      { hdr := encoded_ne_nil wroteHdr
        msg := encoded_ne_nil wroteMsg
        call := rfl }
    exact ⟨_, reported, sendable, onIndicationRcSmRic_eq_ok.mpr ⟨readHdr, readMsg, short.procId⟩⟩

/-- A report of the true parameter 1 of a UE. -/
def aReport : RcIndData := ⟨.frmt1 none, aUeReport, none⟩

def aReportData : SmIndData :=
  ⟨[0], [8, 0, 0, 0, 0, 1, 0, 2, 0xF8, 0x39, 1, 0, 0x41, 0, 0, 0, 0, 0, 0x80], none⟩

/-- The indication in aligned PER, from the node and from the RIC. -/
def aReportBytes (high low : UInt8) : Bytes :=
  [0x00, 0x05, 0x40, 0x3A, 0x00, 0x00, 0x06,
   0x00, 0x1D, 0x00, 0x05, 0x00, high, low, 0x00, 0x00,
   0x00, 0x05, 0x00, 0x02, 0x00, 0x03,
   0x00, 0x0F, 0x00, 0x01, 0x00,
   0x00, 0x1C, 0x00, 0x01, 0x00,
   0x00, 0x19, 0x00, 0x02, 0x01, 0x00,
   0x00, 0x1A, 0x00, 0x14, 0x13, 0x08, 0x00, 0x00, 0x00, 0x00, 0x01, 0x00, 0x02, 0xF8, 0x39, 0x01,
   0x00, 0x41, 0x00, 0x00, 0x00, 0x00, 0x00, 0x80]

def aReportTable : List (Asn.Pdu × Bytes) :=
  [(Asn.reportedIndication rcRoute.nodeRicId aReportData, aReportBytes 0x00 0x01),
    (Asn.reportedIndication rcRoute.ricId aReportData, aReportBytes 0x03 0xFD)]

theorem aReport_carried : Asn.ReportCarried (.ofTable aReportTable)
    (makeRcSmAgent aUeIdCodec anRcEnc) rcRoute 0 aReport := by
  have reported : onIndicationRcSmAg aUeIdCodec anRcEnc aReport = .ok aReportData := rfl
  apply Asn.reportCarried_of reported
  · exact Asn.carries_of_table (by decide) rfl
      ⟨aReportBytes 0x00 0x01, by decide +kernel, by decide +kernel⟩
  · exact Asn.carries_of_table (by decide) rfl
      ⟨aReportBytes 0x03 0xFD, by decide +kernel, by decide +kernel⟩

theorem rc_report_read_ue :
    Asn.reportTrip (.ofTable aReportTable) (makeRcSmRic aUeIdCodec anRcEnc)
      (makeRcSmAgent aUeIdCodec anRcEnc) rcRoute 0 aReport = .ok aReport := by
  have hdr : IndHdrKept (UeIdKeptIn (.replicate 8 0)) aReport.hdr := by
    intro x mem
    cases mem
  have short : ReportShort aUeIdCodec anRcEnc aReport := by
    refine ⟨?_, ?_, rfl⟩
    · intro ba wrote
      cases wrote
      decide
    · intro ba wrote
      cases wrote
      decide
  exact (rc_report_read_iff (.replicate 8 0) (.replicate 8 0) rcRoute_inRange aReport_carried
    (Packing.always_carries rfl (by decide)) (Packing.always_carries rfl (by decide))).mpr
      ⟨hdr, aUeReport_kept, short⟩

end

end FlexRic.Rc
