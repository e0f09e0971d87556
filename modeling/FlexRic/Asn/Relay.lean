import FlexRic.Asn.ServiceModel
import FlexRic.Asn.SetupRoundTrip
import FlexRic.Ric.Steps

/-! # Messages through the iApp

The iApp takes messages apart and makes new ones, with the ids of the other side. The bytes of
the service models go through, and what else an answer to a control holds gets lost.
-/

namespace FlexRic.Asn

open Wire (Bytes)
open GlobalE2NodeIds (NodeId)

/-- The ids under which a request goes on. -/
def forwardedId (n : UInt16) (ricId : RicGenId) : RicGenId :=
  { ricId with ricReqId := storeLow16 ricId.ricReqId n }

/-- `fwd_ric_subscription_request` and `fwd_ric_control_request`, as far as the message goes. -/
def forwardRequest (n : UInt16) : E2apMsg → Except Fault E2apMsg
  | .e42RicSubReq req => .ok (.ricSubReq { req.sr with ricId := forwardedId n req.sr.ricId })
  | .e42RicCtrlReq req =>
      .ok (.ricCtrlReq { req.ctrlReq with ricId := forwardedId n req.ctrlReq.ricId })
  | _ => .error .notImplemented

/-- The ids of an answer, which are checked against those of the request. -/
def answeredId (x ricId : RicGenId) : Except Fault RicGenId := do
  check (ricId.ranFuncId = x.ranFuncId) .id
  check (ricId.ricInstId = x.ricInstId) .id
  pure { ricId with ricReqId := x.ricReqId }

/-- The handlers of the answers to a request that an xApp made under the ids `x`. Of the answers
    to a delete and to a control they take the ids only. -/
def forwardAnswer (x : RicGenId) : E2apMsg → Except Fault E2apMsg
  | .ricSubResp resp => do
      let ricId ← answeredId x resp.ricId
      pure (.ricSubResp { resp with ricId := ricId })
  | .ricSubDelResp resp => do
      let _ ← answeredId x resp.ricId
      pure (.ricSubDelResp ⟨x⟩)
  | .ricCtrlAck ack => do
      let _ ← answeredId x ack.ricId
      pure (.ricCtrlAck ⟨x, none, none⟩)
  | .ricInd ind => do
      let ricId ← answeredId x ind.ricId
      pure (.ricInd { ind with ricId := ricId })
  | _ => .error .notImplemented

theorem answeredId_forwarded (n : UInt16) (x : RicGenId) :
    answeredId x (forwardedId n x) = .ok x := by
  cases x
  simp [answeredId, forwardedId]

theorem high_clear {v : UInt32} (small : v.toNat < 65536) : v &&& 0xffff0000 = 0 := by
  apply UInt32.toNat_inj.mp
  apply Nat.eq_of_testBit_eq
  intro i
  have mask : (0xffff0000 : UInt32).toNat = 65535 * 2 ^ 16 := rfl
  rw [UInt32.toNat_and, Nat.testBit_and, mask, Nat.testBit_mul_two_pow]
  by_cases high : 16 ≤ i
  · have below : v.toNat < 2 ^ i :=
      Nat.lt_of_lt_of_le small (Nat.pow_le_pow_right Nat.two_pos high)
    simp [Nat.testBit_lt_two_pow below]
  · simp [high]

/-- The number of a request goes into 16 bits, and no others are set. -/
theorem forwardedId_ricReqId {n : UInt16} {ricId : RicGenId}
    (small : ricId.ricReqId.toNat < maxRicRequestId) :
    (forwardedId n ricId).ricReqId = n.toUInt32 := by
  have cleared : ricId.ricReqId &&& 0xffff0000 = 0 := high_clear small
  simp [forwardedId, storeLow16, cleared]

theorem forwardedId_inRange {n : UInt16} {ricId : RicGenId} (inRange : IdsInRange ricId) :
    IdsInRange (forwardedId n ricId) where
  request := by
    rw [forwardedId_ricReqId inRange.request, UInt16.toNat_toUInt32]
    exact n.toNat_lt
  ranFunc := inRange.ranFunc

/-- The ids under which a request is made, and the number that the RIC gives it. -/
structure Route where
  xappId : UInt16
  node : NodeId
  ricId : RicGenId
  newRicId : UInt16

/-- The ids of the request at the node. -/
def Route.nodeRicId (route : Route) : RicGenId := forwardedId route.newRicId route.ricId

/-- A message from its sender to its receiver. -/
def conveyed (aper : Aper) (msg : E2apMsg) : Except Fault E2apMsg :=
  e2apMsgEncAsn aper msg >>= e2apMsgDecAsn aper

variable {aper : Aper} {msg back arrived : E2apMsg}

theorem carries_of_table {table : List (Pdu × Bytes)} {pdu : Pdu}
    (short : ∀ e ∈ table, e.2.length < bufferLen) (encoded : e2apEncPdu msg = .ok pdu)
    (inverse : (Aper.ofTable table).Inverse pdu) : (Aper.ofTable table).Carries msg := by
  intro other encodedOther
  cases encoded.symm.trans encodedOther
  exact ⟨inverse, Aper.ofTable_holds short pdu encoded⟩

/-- What comes out is what comes out of the unit. -/
theorem conveyed_eq_ok (carries : aper.Carries msg) :
    conveyed aper msg = .ok back ↔ ∃ pdu, e2apEncPdu msg = .ok pdu ∧ e2apDecPdu pdu = .ok back := by
  rw [conveyed, bind_eq_ok]
  change ComesBack aper msg back ↔ _
  constructor
  · intro comes
    obtain ⟨ba, written, read⟩ := comes
    obtain ⟨pdu, encoded, -⟩ := bind_eq_ok.mp written
    exact ⟨pdu, encoded, (comesBack_of_carries carries encoded).mp ⟨ba, written, read⟩⟩
  · rintro ⟨pdu, encoded, decoded⟩
    exact (comesBack_of_carries carries encoded).mpr decoded

/-- A message that meets `sent` arrives, and no other is sent at all. -/
theorem conveyed_iff {sent : Prop} (carries : aper.Carries msg)
    (arrives : sent → ∃ pdu, e2apEncPdu msg = .ok pdu ∧ e2apDecPdu pdu = .ok arrived)
    (refused : ∀ pdu, e2apEncPdu msg = .ok pdu → sent) :
    conveyed aper msg = .ok back ↔ sent ∧ arrived = back := by
  rw [conveyed_eq_ok carries]
  constructor
  · rintro ⟨pdu, encoded, decoded⟩
    have met := refused pdu encoded
    obtain ⟨other, encodedOther, arrivedOther⟩ := arrives met
    cases encoded.symm.trans encodedOther
    exact ⟨met, Except.ok.inj (arrivedOther.symm.trans decoded)⟩
  · rintro ⟨met, rfl⟩
    exact arrives met

/-- A request with the action that reports. -/
def reportRequest (ricId : RicGenId) (eventTrigger : Bytes) (actionDef : Option Bytes) :
    RicSubscriptionRequest :=
  ⟨ricId, eventTrigger, [⟨0, .report, actionDef, none⟩]⟩

variable {Sub Subscribed Rep Ind Ctrl Out : Type}
  {ricId : RicGenId} {trigger : Bytes} {actionDef : Option Bytes} {route : Route}

theorem reportRequest_details {details : Ie IeValue}
    (encoded : encSubscriptionDetails (reportRequest ricId trigger actionDef) = .ok details) :
    trigger ≠ [] ∧ Filled actionDef := by
  simp only [encSubscriptionDetails, reportRequest, bind_eq_ok, copyBaToOstring_eq_ok,
    mapM_cons_eq_ok, encAction, optional_ostring_eq_ok] at encoded
  obtain ⟨_, ⟨filled, -⟩, _, ⟨_, _, ⟨_, ⟨present, -⟩, -⟩, -⟩, -⟩ := encoded
  exact ⟨filled, present⟩

theorem reportRequest_wellFormed (filled : trigger ≠ []) (present : Filled actionDef) :
    (reportRequest ricId trigger actionDef).WellFormed where
  eventTrigger := filled
  filled := Nat.one_pos
  few := by simp [reportRequest, maxNumActionDef]
  each := by
    intro a mem
    cases List.mem_singleton.mp mem
    refine ⟨present, ?_⟩
    intro s ms here
    cases here

/-- The request of an xApp arrives when its parts have octets. -/
theorem e42Request_conveyed (node : NodeWellFormed route.node)
    (admitted : route.node.type ∈ subscriptionTypes)
    (carries : aper.Carries
      (.e42RicSubReq ⟨route.xappId, route.node, reportRequest ricId trigger actionDef⟩)) :
    conveyed aper (.e42RicSubReq ⟨route.xappId, route.node, reportRequest ricId trigger actionDef⟩)
        = .ok back ↔
      (trigger ≠ [] ∧ Filled actionDef) ∧ .e42RicSubReq
        ⟨route.xappId, heard route.node, reportRequest ricId trigger actionDef⟩ = back := by
  apply conveyed_iff carries
  · intro parts
    obtain ⟨choice, encoded⟩ := node.encodes
    exact e42SubscriptionRequest_arrives (reportRequest_wellFormed parts.1 parts.2) admitted encoded
      (node.returns choice encoded)
  · intro pdu encoded
    simp only [e2apEncPdu, e2apEncE42SubscriptionRequest, bind_eq_ok] at encoded
    obtain ⟨_, -, _, -, _, -, _, -, details, encodedDetails, -⟩ := encoded
    exact reportRequest_details encodedDetails

theorem request_conveyed
    (carries : aper.Carries (.ricSubReq (reportRequest ricId trigger actionDef))) :
    conveyed aper (.ricSubReq (reportRequest ricId trigger actionDef)) = .ok back ↔
      (trigger ≠ [] ∧ Filled actionDef) ∧
        .ricSubReq (reportRequest ricId trigger actionDef) = back := by
  apply conveyed_iff carries
  · intro parts
    exact request_back (reportRequest_wellFormed parts.1 parts.2)
  · intro pdu encoded
    simp only [e2apEncPdu, e2apEncSubscriptionRequest, bind_eq_ok] at encoded
    obtain ⟨_, -, _, -, details, encodedDetails, -⟩ := encoded
    exact reportRequest_details encodedDetails

def asSubscriptionRequest : E2apMsg → Except Fault RicSubscriptionRequest
  | .ricSubReq sr => .ok sr
  | _ => .error .message

/-- From the command of an xApp to what the RAN of the node gets. -/
def subscriptionTrip (aper : Aper) (ric : SmRic Sub Ind Ctrl)
    (ag : SmAgent Subscribed Rep Ctrl Out) (route : Route) (cmd : Sub) :
    Except Fault Subscribed := do
  let sr ← generateSubscriptionRequest route.ricId ric cmd
  let asked ← conveyed aper (.e42RicSubReq ⟨route.xappId, route.node, sr⟩)
  let forwarded ← forwardRequest route.newRicId asked
  let arrived ← conveyed aper forwarded >>= asSubscriptionRequest
  let data ← generateSmSubsData arrived
  ag.onSubscription data

/-- The parts have octets, and the xApp admits the action definition. -/
structure SmSubsData.Sendable (data : SmSubsData) : Prop where
  eventTrigger : data.eventTrigger ≠ []
  actionDef : Filled data.actionDef
  short : (data.actionDef.getD []).length < 2048

/-- The codec carries the messages of the request. -/
structure SubscriptionCarried (aper : Aper) (ric : SmRic Sub Ind Ctrl) (route : Route)
    (cmd : Sub) : Prop where
  asked : ∀ sr, generateSubscriptionRequest route.ricId ric cmd = .ok sr →
    aper.Carries (.e42RicSubReq ⟨route.xappId, route.node, sr⟩)
  forwarded : ∀ sr, generateSubscriptionRequest route.ricId ric cmd = .ok sr →
    aper.Carries (.ricSubReq { sr with ricId := route.nodeRicId })

/-- A codec that carries the request made is enough. -/
theorem subscriptionCarried_of {ric : SmRic Sub Ind Ctrl} {cmd : Sub}
    {sr : RicSubscriptionRequest}
    (generated : generateSubscriptionRequest route.ricId ric cmd = .ok sr)
    (asked : aper.Carries (.e42RicSubReq ⟨route.xappId, route.node, sr⟩))
    (forwarded : aper.Carries (.ricSubReq { sr with ricId := route.nodeRicId })) :
    SubscriptionCarried aper ric route cmd := by
  constructor
  · intro other made
    cases generated.symm.trans made
    exact asked
  · intro other made
    cases generated.symm.trans made
    exact forwarded

/-- The node gets what the service model made of the command, under the number of the RIC. -/
theorem subscription_through {ric : SmRic Sub Ind Ctrl} {ag : SmAgent Subscribed Rep Ctrl Out}
    {cmd : Sub} {got : Subscribed} (node : NodeWellFormed route.node)
    (admitted : route.node.type ∈ subscriptionTypes)
    (small : route.ricId.ricReqId.toNat < maxRicRequestId)
    (carried : SubscriptionCarried aper ric route cmd) :
    subscriptionTrip aper ric ag route cmd = .ok got ↔
      ∃ data, ric.onSubscription cmd = .ok data ∧ data.Sendable ∧
        ag.onSubscription { data with ricReqId := route.newRicId.toUInt32 } = .ok got := by
  have number : route.nodeRicId.ricReqId = route.newRicId.toUInt32 := forwardedId_ricReqId small
  simp only [subscriptionTrip, bind_eq_ok]
  constructor
  · rintro ⟨sr, generated, asked, conveyedAsked, forwarded, passed, arrived, taken, data, made, got⟩
    have carriesAsked := carried.asked sr generated
    have carriesForwarded := carried.forwarded sr generated
    simp only [generateSubscriptionRequest, bind_eq_ok, check_eq_ok, pure_eq_ok] at generated
    obtain ⟨data', commanded, _, short, rfl⟩ := generated
    obtain ⟨⟨trigger, definition⟩, rfl⟩ :=
      (e42Request_conveyed node admitted carriesAsked).mp conveyedAsked
    cases passed
    obtain ⟨msg, conveyedForwarded, asked⟩ := taken
    obtain ⟨-, rfl⟩ := (request_conveyed carriesForwarded).mp conveyedForwarded
    cases asked
    simp only [generateSmSubsData, reportRequest, check_pass _ trivial, ok_bind] at made
    cases made
    exact ⟨data', commanded, ⟨trigger, definition, short⟩, number ▸ got⟩
  · rintro ⟨data, commanded, sendable, got⟩
    have generated : generateSubscriptionRequest route.ricId ric cmd =
        .ok (reportRequest route.ricId data.eventTrigger data.actionDef) := by
      simp only [generateSubscriptionRequest, commanded, ok_bind, check_pass _ sendable.short]
      rfl
    have parts := And.intro sendable.eventTrigger sendable.actionDef
    have asked := (e42Request_conveyed node admitted (carried.asked _ generated)).mpr ⟨parts, rfl⟩
    have forwarded := (request_conveyed (carried.forwarded _ generated)).mpr ⟨parts, rfl⟩
    refine ⟨_, generated, _, asked, _, rfl, _, ⟨_, forwarded, rfl⟩, _, rfl, ?_⟩
    rw [← number] at got
    exact got

/-- A request whose outcome is acknowledged. -/
def ackedRequest (ricId : RicGenId) (data : SmCtrlReqData) : RicControlRequest :=
  ⟨ricId, none, data.ctrlHdr, data.ctrlMsg, some .ack⟩

variable {data : SmCtrlReqData}

theorem ackedRequest_wellFormed (inRange : IdsInRange ricId)
    (parts : data.ctrlHdr ≠ [] ∧ data.ctrlMsg ≠ []) : (ackedRequest ricId data).WellFormed where
  ids := inRange
  hdr := parts.1
  msg := parts.2
  call := by
    intro ba here
    cases here

theorem e42Control_conveyed (node : NodeWellFormed route.node)
    (admitted : route.node.type ∈ controlTypes) (inRange : IdsInRange ricId)
    (carries : aper.Carries
      (.e42RicCtrlReq ⟨route.xappId, route.node, ackedRequest ricId data⟩)) :
    conveyed aper (.e42RicCtrlReq ⟨route.xappId, route.node, ackedRequest ricId data⟩) =
        .ok back ↔
      (data.ctrlHdr ≠ [] ∧ data.ctrlMsg ≠ []) ∧ .e42RicCtrlReq
        ⟨route.xappId, heard route.node, ackedRequest ricId data⟩ = back := by
  apply conveyed_iff carries
  · intro parts
    obtain ⟨choice, encoded⟩ := node.encodes
    exact e42ControlRequest_arrives (ackedRequest_wellFormed inRange parts) admitted encoded
      (node.returns choice encoded)
  · intro pdu encoded
    simp only [e2apEncPdu, e2apEncE42ControlRequest, bind_eq_ok, check_eq_ok] at encoded
    obtain ⟨_, hdr, _, msg, -⟩ := encoded
    exact ⟨hdr, msg⟩

theorem control_conveyed (inRange : IdsInRange ricId)
    (carries : aper.Carries (.ricCtrlReq (ackedRequest ricId data))) :
    conveyed aper (.ricCtrlReq (ackedRequest ricId data)) = .ok back ↔
      (data.ctrlHdr ≠ [] ∧ data.ctrlMsg ≠ []) ∧ .ricCtrlReq (ackedRequest ricId data) = back := by
  apply conveyed_iff carries
  · intro parts
    exact controlRequest_back (ackedRequest_wellFormed inRange parts)
  · intro pdu encoded
    simp only [e2apEncPdu, e2apEncControlRequest, bind_eq_ok, check_eq_ok] at encoded
    obtain ⟨_, hdr, _, msg, -⟩ := encoded
    exact ⟨hdr, msg⟩

theorem baFromCtrlOut_filled (out : Bytes) : Filled (baFromCtrlOut out) := by
  intro ba here
  rw [baFromCtrlOut] at here
  split at here
  · rename_i some
    cases here
    exact List.length_pos_iff.mp some
  · cases here

/-- An acknowledgement with no call process id or an outcome without octets arrives. -/
theorem ack_conveyed {out : Option Bytes} (inRange : IdsInRange ricId) (filled : Filled out)
    (carries : aper.Carries (.ricCtrlAck ⟨ricId, none, out⟩)) :
    conveyed aper (.ricCtrlAck ⟨ricId, none, out⟩) = .ok (.ricCtrlAck ⟨ricId, none, out⟩) := by
  apply (conveyed_eq_ok carries).mpr
  apply controlAck_back
  refine ⟨inRange, ?_, filled⟩
  intro ba here
  cases here

theorem forwardAnswer_ack (route : Route) (call out : Option Bytes) :
    forwardAnswer route.ricId (.ricCtrlAck ⟨route.nodeRicId, call, out⟩) =
      .ok (.ricCtrlAck ⟨route.ricId, none, none⟩) := by
  simp only [forwardAnswer, Route.nodeRicId, answeredId_forwarded, ok_bind]
  rfl

def asControlRequest : E2apMsg → Except Fault RicControlRequest
  | .ricCtrlReq req => .ok req
  | _ => .error .message

def asControlAck : E2apMsg → Except Fault RicControlAcknowledge
  | .ricCtrlAck ack => .ok ack
  | _ => .error .message

/-- From the control of an xApp to what the RAN is given and what the xApp hears of it. -/
def controlTrip (aper : Aper) (ric : SmRic Sub Ind Ctrl) (ag : SmAgent Subscribed Rep Ctrl Out)
    (write : Ctrl → Out) (route : Route) (ctrl : Ctrl) :
    Except Fault (Ctrl × RicControlAcknowledge) := do
  let req ← generateRicControlRequest route.ricId ric ctrl
  let asked ← conveyed aper (.e42RicCtrlReq ⟨route.xappId, route.node, req⟩)
  let forwarded ← forwardRequest route.newRicId asked
  let arrived ← conveyed aper forwarded >>= asControlRequest
  let (given, ack) ← controlAcknowledge ag write arrived
  let acked ← conveyed aper (.ricCtrlAck ack)
  let answer ← forwardAnswer route.ricId acked
  let heard ← conveyed aper answer >>= asControlAck
  pure (given, heard)

/-- The parts have octets, and the xApp admits them. -/
structure SmCtrlReqData.Sendable (data : SmCtrlReqData) : Prop where
  hdr : data.ctrlHdr ≠ []
  msg : data.ctrlMsg ≠ []
  shortHdr : data.ctrlHdr.length < 2049
  shortMsg : data.ctrlMsg.length < 2049

/-- The codec carries the messages of the control. -/
structure ControlCarried (aper : Aper) (ric : SmRic Sub Ind Ctrl)
    (ag : SmAgent Subscribed Rep Ctrl Out) (write : Ctrl → Out) (route : Route) (ctrl : Ctrl) :
    Prop where
  asked : ∀ data, ric.onControlReq ctrl = .ok data →
    aper.Carries (.e42RicCtrlReq ⟨route.xappId, route.node, ackedRequest route.ricId data⟩)
  forwarded : ∀ data, ric.onControlReq ctrl = .ok data →
    aper.Carries (.ricCtrlReq (ackedRequest route.nodeRicId data))
  acked : ∀ data given out, ric.onControlReq ctrl = .ok data →
    ag.onControl write data = .ok (given, out) →
      aper.Carries (.ricCtrlAck ⟨route.nodeRicId, none, baFromCtrlOut out⟩)
  answered : aper.Carries (.ricCtrlAck ⟨route.ricId, none, none⟩)

theorem controlCarried_of {ric : SmRic Sub Ind Ctrl} {ag : SmAgent Subscribed Rep Ctrl Out}
    {write : Ctrl → Out} {ctrl given : Ctrl} {out : Bytes}
    (commanded : ric.onControlReq ctrl = .ok data)
    (controlled : ag.onControl write data = .ok (given, out))
    (asked : aper.Carries
      (.e42RicCtrlReq ⟨route.xappId, route.node, ackedRequest route.ricId data⟩))
    (forwarded : aper.Carries (.ricCtrlReq (ackedRequest route.nodeRicId data)))
    (acked : aper.Carries (.ricCtrlAck ⟨route.nodeRicId, none, baFromCtrlOut out⟩))
    (answered : aper.Carries (.ricCtrlAck ⟨route.ricId, none, none⟩)) :
    ControlCarried aper ric ag write route ctrl := by
  constructor
  · intro other made
    cases commanded.symm.trans made
    exact asked
  · intro other made
    cases commanded.symm.trans made
    exact forwarded
  · intro other _ _ made gave
    cases commanded.symm.trans made
    cases controlled.symm.trans gave
    exact acked
  · exact answered

/-- The RAN is given what the service model made of the control, and the xApp hears that it was,
    but not what came of it. -/
theorem control_through {ric : SmRic Sub Ind Ctrl} {ag : SmAgent Subscribed Rep Ctrl Out}
    {write : Ctrl → Out} {ctrl given : Ctrl} {ack : RicControlAcknowledge}
    (node : NodeWellFormed route.node) (admitted : route.node.type ∈ controlTypes)
    (inRange : IdsInRange route.ricId) (carried : ControlCarried aper ric ag write route ctrl) :
    controlTrip aper ric ag write route ctrl = .ok (given, ack) ↔
      (∃ data out, ric.onControlReq ctrl = .ok data ∧ data.Sendable ∧
        ag.onControl write data = .ok (given, out)) ∧ ⟨route.ricId, none, none⟩ = ack := by
  have nodeInRange : IdsInRange route.nodeRicId := forwardedId_inRange inRange
  have answered := ack_conveyed inRange (by intro ba here; cases here) carried.answered
  simp only [controlTrip, bind_eq_ok]
  constructor
  · rintro ⟨req, generated, asked, conveyedAsked, forwarded, passed, arrived, taken, pair, made,
      acked, conveyedAck, answer, answers, heard, conveyedAnswer, done⟩
    simp only [generateRicControlRequest, bind_eq_ok, check_eq_ok, pure_eq_ok] at generated
    obtain ⟨data, commanded, _, shortHdr, _, shortMsg, rfl⟩ := generated
    obtain ⟨parts, rfl⟩ :=
      (e42Control_conveyed node admitted inRange (carried.asked data commanded)).mp conveyedAsked
    cases passed
    obtain ⟨msg, conveyedForwarded, same⟩ := taken
    obtain ⟨-, rfl⟩ :=
      (control_conveyed nodeInRange (carried.forwarded data commanded)).mp conveyedForwarded
    cases same
    simp only [controlAcknowledge, ackedRequest, check_pass _ trivial, ok_bind, bind_eq_ok,
      pure_eq_ok] at made
    obtain ⟨given, controlled, rfl⟩ := made
    have acknowledged := ack_conveyed nodeInRange (baFromCtrlOut_filled given.2)
      (carried.acked data given.1 given.2 commanded controlled)
    cases acknowledged.symm.trans conveyedAck
    cases (forwardAnswer_ack route none _).symm.trans answers
    obtain ⟨last, conveyedLast, same⟩ := conveyedAnswer
    cases answered.symm.trans conveyedLast
    cases same
    cases done
    exact ⟨⟨data, given.2, commanded, ⟨parts.1, parts.2, shortHdr, shortMsg⟩, controlled⟩, rfl⟩
  · rintro ⟨⟨data, out, commanded, sendable, controlled⟩, rfl⟩
    have generated : generateRicControlRequest route.ricId ric ctrl =
        .ok (ackedRequest route.ricId data) := by
      simp only [generateRicControlRequest, commanded, ok_bind, check_pass _ sendable.shortHdr,
        check_pass _ sendable.shortMsg]
      rfl
    have parts := And.intro sendable.hdr sendable.msg
    have asked := (e42Control_conveyed node admitted inRange
      (carried.asked data commanded)).mpr ⟨parts, rfl⟩
    have forwarded := (control_conveyed nodeInRange
      (carried.forwarded data commanded)).mpr ⟨parts, rfl⟩
    have made : controlAcknowledge ag write (ackedRequest route.nodeRicId data) =
        .ok (given, ⟨route.nodeRicId, none, baFromCtrlOut out⟩) := by
      simp only [controlAcknowledge, ackedRequest, check_pass _ trivial, ok_bind, controlled]
      rfl
    have acknowledged := ack_conveyed nodeInRange (baFromCtrlOut_filled out)
      (carried.acked data given out commanded controlled)
    exact ⟨_, generated, _, asked, _, rfl, _, ⟨_, forwarded, rfl⟩, _, made, _, acknowledged, _,
      forwardAnswer_ack route none _, _, ⟨_, answered, rfl⟩, rfl⟩

/-- An indication that reports. -/
def reportIndication (ricId : RicGenId) (actionId : UInt8) (data : SmIndData) : RicIndication :=
  ⟨ricId, actionId, none, .report, data.indHdr, data.indMsg, none⟩

/-- It is sent where its parts have octets and it fits the buffer. -/
theorem indication_conveyed {actionId : UInt8} {data : SmIndData} (inRange : IdsInRange ricId)
    (inverts : aper.Inverts (.ricInd (reportIndication ricId actionId data))) :
    conveyed aper (.ricInd (reportIndication ricId actionId data)) = .ok back ↔
      (data.indHdr ≠ [] ∧ data.indMsg ≠ []) ∧
        aper.Holds (.ricInd (reportIndication ricId actionId data)) ∧
          .ricInd (reportIndication ricId actionId data) = back := by
  have comes (hdr : data.indHdr ≠ []) (msg : data.indMsg ≠ []) :
      ComesBack aper (.ricInd (reportIndication ricId actionId data)) back ↔
        aper.Holds (.ricInd (reportIndication ricId actionId data)) ∧
          .ricInd (reportIndication ricId actionId data) = back := by
    have wellFormed : (reportIndication ricId actionId data).WellFormed := by
      refine ⟨inRange, hdr, msg, ?_⟩
      intro ba here
      cases here
    obtain ⟨pdu, encoded, decoded⟩ := indication_back wellFormed
    exact comesBack_iff_holds inverts encoded decoded
  rw [conveyed, bind_eq_ok]
  change ComesBack aper _ back ↔ _
  constructor
  · rintro ⟨ba, written, read⟩
    obtain ⟨pdu, encoded, -⟩ := bind_eq_ok.mp written
    simp only [e2apEncPdu, e2apEncIndication, bind_eq_ok, check_eq_ok] at encoded
    obtain ⟨_, hdr, _, msg, -⟩ := encoded
    exact ⟨⟨hdr, msg⟩, (comes hdr msg).mp ⟨ba, written, read⟩⟩
  · rintro ⟨⟨hdr, msg⟩, sent⟩
    exact (comes hdr msg).mpr sent

def asIndication : E2apMsg → Except Fault RicIndication
  | .ricInd ind => .ok ind
  | _ => .error .message

/-- From what the RAN reports to what the xApp gets of it. The RIC decodes it as well, for its
    own listeners. -/
def reportTrip (aper : Aper) (ric : SmRic Sub Ind Ctrl) (ag : SmAgent Subscribed Rep Ctrl Out)
    (route : Route) (actionId : UInt8) (rep : Rep) : Except Fault Ind := do
  let data ← ag.onIndication rep
  let ind ← generateIndication route.nodeRicId actionId data
  let arrived ← conveyed aper (.ricInd ind) >>= asIndication
  let _ ← ric.onIndication ⟨arrived.hdr, arrived.msg, arrived.callProcessId⟩
  let answer ← forwardAnswer route.ricId (.ricInd arrived)
  let told ← conveyed aper answer >>= asIndication
  let payload ← indSmPayload told
  ric.onIndication payload

/-- The parts have octets, and there is no call process id. -/
structure SmIndData.Sendable (data : SmIndData) : Prop where
  hdr : data.indHdr ≠ []
  msg : data.indMsg ≠ []
  call : data.callProcessId = none

/-- The codec inverts the messages of the report. -/
structure ReportInverted (aper : Aper) (ag : SmAgent Subscribed Rep Ctrl Out) (route : Route)
    (actionId : UInt8) (rep : Rep) : Prop where
  sent : ∀ data, ag.onIndication rep = .ok data →
    aper.Inverts (.ricInd (reportIndication route.nodeRicId actionId data))
  told : ∀ data, ag.onIndication rep = .ok data →
    aper.Inverts (.ricInd (reportIndication route.ricId actionId data))

/-- Both of them fit the buffer. -/
structure ReportHolds (aper : Aper) (route : Route) (actionId : UInt8) (data : SmIndData) :
    Prop where
  sent : aper.Holds (.ricInd (reportIndication route.nodeRicId actionId data))
  told : aper.Holds (.ricInd (reportIndication route.ricId actionId data))

/-- The codec carries the messages of the report. -/
structure ReportCarried (aper : Aper) (ag : SmAgent Subscribed Rep Ctrl Out) (route : Route)
    (actionId : UInt8) (rep : Rep) : Prop where
  sent : ∀ data, ag.onIndication rep = .ok data →
    aper.Carries (.ricInd (reportIndication route.nodeRicId actionId data))
  told : ∀ data, ag.onIndication rep = .ok data →
    aper.Carries (.ricInd (reportIndication route.ricId actionId data))

section
variable {ag : SmAgent Subscribed Rep Ctrl Out} {actionId : UInt8} {rep : Rep} {data : SmIndData}

theorem ReportCarried.inverted (carried : ReportCarried aper ag route actionId rep) :
    ReportInverted aper ag route actionId rep where
  sent data reported pdu encoded := (carried.sent data reported pdu encoded).1
  told data reported pdu encoded := (carried.told data reported pdu encoded).1

theorem ReportCarried.holds (carried : ReportCarried aper ag route actionId rep)
    (reported : ag.onIndication rep = .ok data) : ReportHolds aper route actionId data where
  sent pdu encoded := (carried.sent data reported pdu encoded).2
  told pdu encoded := (carried.told data reported pdu encoded).2

theorem reportInverted_of (reported : ag.onIndication rep = .ok data)
    (sent : aper.Inverts (.ricInd (reportIndication route.nodeRicId actionId data)))
    (told : aper.Inverts (.ricInd (reportIndication route.ricId actionId data))) :
    ReportInverted aper ag route actionId rep := by
  constructor
  · intro other made
    cases reported.symm.trans made
    exact sent
  · intro other made
    cases reported.symm.trans made
    exact told

end

theorem reportCarried_of {ag : SmAgent Subscribed Rep Ctrl Out} {actionId : UInt8} {rep : Rep}
    {data : SmIndData} (reported : ag.onIndication rep = .ok data)
    (sent : aper.Carries (.ricInd (reportIndication route.nodeRicId actionId data)))
    (told : aper.Carries (.ricInd (reportIndication route.ricId actionId data))) :
    ReportCarried aper ag route actionId rep := by
  constructor
  · intro other made
    cases reported.symm.trans made
    exact sent
  · intro other made
    cases reported.symm.trans made
    exact told

theorem forwardAnswer_report (route : Route) (actionId : UInt8) (data : SmIndData) :
    forwardAnswer route.ricId (.ricInd (reportIndication route.nodeRicId actionId data)) =
      .ok (.ricInd (reportIndication route.ricId actionId data)) := by
  simp only [forwardAnswer, reportIndication, Route.nodeRicId, answeredId_forwarded, ok_bind]
  rfl

/-- The xApp gets what the service model made of the report, where that fits the buffer. -/
theorem report_within {ric : SmRic Sub Ind Ctrl} {ag : SmAgent Subscribed Rep Ctrl Out}
    {actionId : UInt8} {rep : Rep} {got : Ind} (inRange : IdsInRange route.ricId)
    (inverted : ReportInverted aper ag route actionId rep) :
    reportTrip aper ric ag route actionId rep = .ok got ↔
      ∃ data, ag.onIndication rep = .ok data ∧ data.Sendable ∧
        ReportHolds aper route actionId data ∧ ric.onIndication data = .ok got := by
  have nodeInRange : IdsInRange route.nodeRicId := forwardedId_inRange inRange
  simp only [reportTrip, bind_eq_ok]
  constructor
  · rintro ⟨data, reported, ind, generated, arrived, taken, seen, _, answer, answers, told, tells,
      payload, read, got⟩
    simp only [generateIndication, bind_eq_ok, check_eq_ok, pure_eq_ok] at generated
    obtain ⟨_, call, rfl⟩ := generated
    obtain ⟨msg, conveyedInd, same⟩ := taken
    obtain ⟨parts, sent, rfl⟩ :=
      (indication_conveyed nodeInRange (inverted.sent data reported)).mp conveyedInd
    cases same
    cases (forwardAnswer_report route actionId data).symm.trans answers
    obtain ⟨last, conveyedTold, same⟩ := tells
    obtain ⟨-, toldHolds, rfl⟩ :=
      (indication_conveyed inRange (inverted.told data reported)).mp conveyedTold
    cases same
    simp only [indSmPayload, reportIndication, bind_eq_ok, pure_eq_ok] at read
    obtain ⟨_, -, rfl⟩ := read
    rw [← call] at got
    exact ⟨data, reported, ⟨parts.1, parts.2, call⟩, ⟨sent, toldHolds⟩, got⟩
  · rintro ⟨data, reported, sendable, holds, got⟩
    have generated : generateIndication route.nodeRicId actionId data =
        .ok (reportIndication route.nodeRicId actionId data) := by
      simp only [generateIndication, check_pass _ sendable.call, ok_bind]
      rfl
    have parts := And.intro sendable.hdr sendable.msg
    have sent := (indication_conveyed nodeInRange (inverted.sent data reported)).mpr
      ⟨parts, holds.sent, rfl⟩
    have told := (indication_conveyed inRange (inverted.told data reported)).mpr
      ⟨parts, holds.told, rfl⟩
    have payload : indSmPayload (reportIndication route.ricId actionId data) =
        .ok ⟨data.indHdr, data.indMsg, none⟩ := rfl
    rw [show data = ⟨data.indHdr, data.indMsg, none⟩ by rw [← sendable.call]] at got
    exact ⟨data, reported, _, generated, _, ⟨_, sent, rfl⟩, _, got, _,
      forwardAnswer_report route actionId data, _, ⟨_, told, rfl⟩, _, payload, got⟩

theorem report_through {ric : SmRic Sub Ind Ctrl} {ag : SmAgent Subscribed Rep Ctrl Out}
    {actionId : UInt8} {rep : Rep} {got : Ind} (inRange : IdsInRange route.ricId)
    (carried : ReportCarried aper ag route actionId rep) :
    reportTrip aper ric ag route actionId rep = .ok got ↔
      ∃ data, ag.onIndication rep = .ok data ∧ data.Sendable ∧ ric.onIndication data = .ok got := by
  rw [report_within inRange carried.inverted]
  refine exists_congr fun data => and_congr_right fun reported => and_congr_right fun _ => ?_
  exact and_iff_right (carried.holds reported)

/-- From the seventh xApp to a RAN function of the gNB, as the first request of the RIC. -/
def aRoute (ranFuncId : UInt16) : Route := ⟨7, aNode, ⟨1021, 0, ranFuncId⟩, 1⟩

/-- What the xApp puts first in its requests. -/
def askedIes (ranFuncId : UInt16) : List (Ie IeValue) :=
  ⟨.xappId, .reject, .xappId 7⟩ :: ⟨.globalE2nodeId, .reject, .globalE2nodeId aChoice⟩ ::
    encRicId (aRoute ranFuncId).ricId

def reportDetails (trigger : Bytes) (actionDef : Option Bytes) : Ie IeValue :=
  ⟨.ricSubscriptionDetails, .reject, .ricSubscriptionDetails
    ⟨trigger, [⟨.ricActionToBeSetupItem, .reject, ⟨0, .report, actionDef, none⟩⟩]⟩⟩

/-- The subscription of the xApp, and as the RIC forwards it. -/
def askedSubscription (ranFuncId : UInt16) (trigger : Bytes) (actionDef : Option Bytes) :
    Pdu :=
  ⟨.initiatingMessage, .e42RicSubscription, .reject, .e42RicSubscriptionRequest,
    askedIes ranFuncId ++ [reportDetails trigger actionDef]⟩

def forwardedSubscription (ranFuncId : UInt16) (trigger : Bytes) (actionDef : Option Bytes) :
    Pdu :=
  ⟨.initiatingMessage, .ricSubscription, .reject, .ricSubscriptionRequest,
    encRicId (aRoute ranFuncId).nodeRicId ++ [reportDetails trigger actionDef]⟩

/-- An indication for the first action. -/
def reportedIndication (ricId : RicGenId) (data : SmIndData) : Pdu :=
  ⟨.initiatingMessage, .ricIndication, .ignore, .ricIndication,
    encRicId ricId ++ (⟨.ricActionId, .reject, .ricActionId 0⟩ ::
      indicationIes (reportIndication ricId 0 data))⟩

end FlexRic.Asn
