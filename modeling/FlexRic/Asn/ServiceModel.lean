import FlexRic.Asn.ControlRoundTrip
import FlexRic.Asn.NodeAddressing

/-! # Service models

A service model has a side in the agent and a side in the RIC and the xApps. The two sides
exchange bytes that only they understand: a message carries them as they are.
-/

namespace FlexRic.Asn

open Wire (Bytes)

/-- `sm_subs_data_t`. -/
structure SmSubsData where
  ricReqId : UInt32
  eventTrigger : Bytes
  actionDef : Option Bytes
  deriving DecidableEq, Repr

/-- `sm_ind_data_t`. -/
structure SmIndData where
  indHdr : Bytes
  indMsg : Bytes
  callProcessId : Option Bytes
  deriving DecidableEq, Repr

/-- `sm_ctrl_req_data_t`. -/
structure SmCtrlReqData where
  ctrlHdr : Bytes
  ctrlMsg : Bytes
  deriving DecidableEq, Repr

/-- `sm_ric_t`: what an xApp asks for is made bytes, and an indication is made of them. -/
structure SmRic (Sub Ind Ctrl : Type) where
  onSubscription : Sub → Except Fault SmSubsData
  onIndication : SmIndData → Except Fault Ind
  onControlReq : Ctrl → Except Fault SmCtrlReqData

/-- `sm_agent_t`: what the RAN is asked for is made of bytes, and what it reports is made them.
    A control is given to the RAN, which answers it. -/
structure SmAgent (Sub Rep Ctrl Out : Type) where
  onSubscription : SmSubsData → Except Fault Sub
  onIndication : Rep → Except Fault SmIndData
  onControl : (Ctrl → Out) → SmCtrlReqData → Except Fault (Ctrl × Bytes)

variable {Sub Subscribed Rep Ind Ctrl Out : Type}

/-- `generate_subscription_request`: one action, which reports. -/
def generateSubscriptionRequest (ricId : RicGenId) (sm : SmRic Sub Ind Ctrl) (cmd : Sub) :
    Except Fault RicSubscriptionRequest := do
  let data ← sm.onSubscription cmd
  check ((data.actionDef.getD []).length < 2048) .bound
  pure ⟨ricId, data.eventTrigger, [⟨0, .report, data.actionDef, none⟩]⟩

/-- `generate_ric_control_request`. -/
def generateRicControlRequest (ricId : RicGenId) (sm : SmRic Sub Ind Ctrl) (ctrl : Ctrl) :
    Except Fault RicControlRequest := do
  let data ← sm.onControlReq ctrl
  check (data.ctrlHdr.length < 2049) .bound
  check (data.ctrlMsg.length < 2049) .bound
  pure ⟨ricId, none, data.ctrlHdr, data.ctrlMsg, some .ack⟩

/-- `ind_sm_payload`. -/
def indSmPayload (src : RicIndication) : Except Fault SmIndData := do
  check (src.callProcessId ≠ some []) .empty
  pure ⟨src.hdr, src.msg, src.callProcessId⟩

/-- `generate_sm_subs_data`, of a request that `supported_ric_subscription_request` admits. -/
def generateSmSubsData (sr : RicSubscriptionRequest) : Except Fault SmSubsData :=
  match sr.action with
  | [action] => do
      check (action.type = .report) .notImplemented
      pure ⟨sr.ricId.ricReqId, sr.eventTrigger, action.definition⟩
  | _ => .error .notImplemented

/-- `ba_from_ctrl_out`. -/
def baFromCtrlOut (out : Bytes) : Option Bytes :=
  if 0 < out.length then some out else none

/-- `e2ap_handle_control_request_agent`, with what the RAN is given. -/
def controlAcknowledge (sm : SmAgent Subscribed Rep Ctrl Out) (write : Ctrl → Out)
    (req : RicControlRequest) : Except Fault (Ctrl × RicControlAcknowledge) := do
  check (req.ackReq = some .ack) .notImplemented
  let (given, out) ← sm.onControl write ⟨req.hdr, req.msg⟩
  pure (given, ⟨req.ricId, none, baFromCtrlOut out⟩)

/-- `generate_indication` and `generate_aindication`. The memory that is allocated for a call
    process id is smaller than the array that is written to it. -/
def generateIndication (ricId : RicGenId) (actionId : UInt8) (data : SmIndData) :
    Except Fault RicIndication := do
  check (data.callProcessId = none) .bound
  pure ⟨ricId, actionId, none, .report, data.indHdr, data.indMsg, none⟩

end FlexRic.Asn
