import FlexRic.E2sm.UeId
import FlexRic.Library.Packing
import FlexRic.Rc.Values

/-! # The codec of controls

The header, the message and the outcome of a control, and the id of a call process. Both
sides agree on the lengths of the lists of a message, and not on those of an outcome.
-/

namespace FlexRic.Rc

open Asn (Fault)
open E2sm (UeIdE2sm Ueid SharedCodec Unread longOf16 low16 longOf32 low32)
open Wire (Bytes)

/-- `ric_ctrl_decision_e`, and `ric_ctrl_dec_ctrl_hdr_frmt_2_e`. -/
inductive RicCtrlDecision where
  | accept
  | reject
  deriving DecidableEq

/-- `e2sm_rc_ctrl_hdr_frmt_1_t`. -/
structure CtrlHdrFrmt1 where
  ueId : UeIdE2sm
  ricStyleType : UInt32
  ctrlActId : UInt16
  ricCtrlDecision : Option RicCtrlDecision

/-- `e2sm_rc_ctrl_hdr_frmt_2_t`. -/
structure CtrlHdrFrmt2 where
  ueId : Option UeIdE2sm
  ricCtrlDec : Option RicCtrlDecision

/-- `e2sm_rc_ctrl_hdr_t`. -/
inductive CtrlHdr where
  | frmt1 (frmt1 : CtrlHdrFrmt1)
  | frmt2 (frmt2 : CtrlHdrFrmt2)

/-- `seq_ctrl_act_t`. The parameters are behind a pointer. -/
structure SeqCtrlAct where
  ctrlActId : UInt16
  ctrlMsgFrmt1 : Option (List SeqRanParam)

/-- `seq_ctrl_sma_t`. -/
structure SeqCtrlSma where
  ctrlStyle : UInt32
  seqCtrlAct : List SeqCtrlAct

/-- `e2sm_rc_ctrl_msg_t`. -/
inductive CtrlMsg where
  | frmt1 (ranParam : List SeqRanParam)
  | frmt2 (action : List SeqCtrlSma)

/-- `seq_ran_param_2_t`. -/
structure SeqRanParam2 where
  ranParamId : UInt32
  ranParamValue : RanParameterValue
  deriving DecidableEq

/-- `seq_ctrl_act_out_t`. -/
structure SeqCtrlActOut where
  ctrlActId : UInt16
  ranParam : List SeqRanParam2
  deriving DecidableEq

/-- `seq_ctrl_sty_mul_out_t`. -/
structure SeqCtrlStyMulOut where
  indCtrlStyle : UInt32
  seqCtrlActOut : List SeqCtrlActOut
  deriving DecidableEq

/-- `e2sm_rc_ctrl_out_t`. -/
inductive CtrlOut where
  | frmt1 (ranParam : List SeqRanParam2)
  | frmt2 (seqCtrlStyMulOut : List SeqCtrlStyMulOut)
  | frmt3 (ranParam : List SeqRanParam)

/-- `E2SM_RC_ControlHeader_Format1_t`. -/
structure ControlHeaderFormat1 where
  ueId : Ueid
  ricStyleType : Int64
  ricControlActionId : Int64
  ricControlDecision : Option Unread

/-- `E2SM_RC_ControlHeader_Format2_t`. -/
structure ControlHeaderFormat2 where
  ueId : Option Ueid
  ricControlDecision : Option Unread

/-- `E2SM_RC_ControlHeader_t`. -/
inductive ControlHeaderAsn where
  | format1 (controlHeaderFormat1 : ControlHeaderFormat1)
  | format2 (controlHeaderFormat2 : ControlHeaderFormat2)

/-- `E2SM_RC_ControlMessage_Format2_ControlAction_Item_t`. -/
structure ControlMessageFormat2ControlActionItem where
  ricControlActionId : Int64
  ranPList : List RanParameterItem

/-- `E2SM_RC_ControlMessage_Format2_Style_Item_t`. -/
structure ControlMessageFormat2StyleItem where
  indicatedControlStyleType : Int64
  ricControlActionList : List ControlMessageFormat2ControlActionItem

/-- `E2SM_RC_ControlMessage_t`. -/
inductive ControlMessageAsn where
  | format1 (ranPList : List RanParameterItem)
  | format2 (ricControlStyleList : List ControlMessageFormat2StyleItem)

/-- `E2SM_RC_ControlOutcome_Format1_Item_t`, and the items of the lists of the second format. -/
structure OutcomeParamItem where
  ranParameterId : UInt64
  ranParameterValue : RanParameterValueAsn
  deriving DecidableEq

/-- `E2SM_RC_ControlOutcome_Format2_ControlOutcome_Item_t`. -/
structure ControlOutcomeFormat2ControlOutcomeItem where
  ricControlActionId : Int64
  ranPList : List OutcomeParamItem
  deriving DecidableEq

/-- `E2SM_RC_ControlOutcome_Format2_Style_Item_t`. -/
structure ControlOutcomeFormat2StyleItem where
  indicatedControlStyleType : Int64
  ricControlOutcomeList : List ControlOutcomeFormat2ControlOutcomeItem
  deriving DecidableEq

/-- `E2SM_RC_ControlOutcome_t`. -/
inductive ControlOutcomeAsn where
  | format1 (ranPList : List OutcomeParamItem)
  | format2 (ricControlStyleList : List ControlOutcomeFormat2StyleItem)
  | format3 (ranPList : List RanParameterItem)

section
variable (ue : SharedCodec UeIdE2sm Ueid)

def encCtrlHdrFrmt1 (src : CtrlHdrFrmt1) : Except Fault ControlHeaderFormat1 := do
  let ueId ← ue.enc src.ueId
  check (0 < src.ctrlActId) .bound
  check (src.ricCtrlDecision = none) .notImplemented
  pure {
    ueId
    ricStyleType := longOf32 src.ricStyleType
    ricControlActionId := longOf16 src.ctrlActId
    ricControlDecision := none }

def encCtrlHdrFrmt2 (src : CtrlHdrFrmt2) : Except Fault ControlHeaderFormat2 := do
  let ueId ← src.ueId.mapM ue.enc
  check (src.ricCtrlDec = none) .notImplemented
  pure { ueId, ricControlDecision := none }

/-- The unit of `rc_enc_ctrl_hdr_asn`. -/
def ctrlHdrUnit : CtrlHdr → Except Fault ControlHeaderAsn
  | .frmt1 hdr => ControlHeaderAsn.format1 <$> encCtrlHdrFrmt1 ue hdr
  | .frmt2 hdr => ControlHeaderAsn.format2 <$> encCtrlHdrFrmt2 ue hdr

end

/-- `enc_ctrl_msg_frmt_1_it` does what `enc_ran_param_struct` does. -/
def encCtrlMsgFrmt1It (src : SeqRanParam) : Except Fault RanParameterItem := encRanParamStruct src

def encCtrlMsgFrmt1 (src : List SeqRanParam) : Except Fault (List RanParameterItem) :=
  mapMWithin 0 65535 .bound encCtrlMsgFrmt1It src

def encCtrlMsgFrmt2CtrlActIt (src : SeqCtrlAct) :
    Except Fault ControlMessageFormat2ControlActionItem := do
  check (0 < src.ctrlActId) .bound
  match src.ctrlMsgFrmt1 with
  | none => throw .null
  | some params =>
      let ranPList ← encCtrlMsgFrmt1 params
      pure { ricControlActionId := longOf16 src.ctrlActId, ranPList }

def encCtrlMsgFrmt2It (src : SeqCtrlSma) : Except Fault ControlMessageFormat2StyleItem := do
  let ricControlActionList ← mapMWithin 1 63 .bound encCtrlMsgFrmt2CtrlActIt src.seqCtrlAct
  pure { indicatedControlStyleType := longOf32 src.ctrlStyle, ricControlActionList }

def encCtrlMsgFrmt2 (src : List SeqCtrlSma) : Except Fault (List ControlMessageFormat2StyleItem) :=
  mapMWithin 1 63 .bound encCtrlMsgFrmt2It src

/-- The unit of `rc_enc_ctrl_msg_asn`. -/
def ctrlMsgUnit : CtrlMsg → Except Fault ControlMessageAsn
  | .frmt1 msg => ControlMessageAsn.format1 <$> encCtrlMsgFrmt1 msg
  | .frmt2 msg => ControlMessageAsn.format2 <$> encCtrlMsgFrmt2 msg

def encCtrlOutFrmt1It (src : SeqRanParam2) : Except Fault OutcomeParamItem := do
  check (0 < src.ranParamId) .bound
  pure {
    ranParameterId := src.ranParamId.toUInt64
    ranParameterValue := cpRanParamVal src.ranParamValue }

def encCtrlOutFrmt1 (src : List SeqRanParam2) : Except Fault (List OutcomeParamItem) :=
  mapMWithin 0 255 .bound encCtrlOutFrmt1It src

/-- `enc_ctrl_out_frmt_2_ran_it` does what `enc_ctrl_out_frmt_1_it` does. -/
def encCtrlOutFrmt2RanIt (src : SeqRanParam2) : Except Fault OutcomeParamItem :=
  encCtrlOutFrmt1It src

def encCtrlOutFrmt2CtrlOut (src : SeqCtrlActOut) :
    Except Fault ControlOutcomeFormat2ControlOutcomeItem := do
  check (0 < src.ctrlActId) .bound
  let ranPList ← mapMWithin 1 255 .bound encCtrlOutFrmt2RanIt src.ranParam
  pure { ricControlActionId := longOf16 src.ctrlActId, ranPList }

/-- There may be any number of outcomes. -/
def encCtrlOutFrmt2It (src : SeqCtrlStyMulOut) : Except Fault ControlOutcomeFormat2StyleItem := do
  let ricControlOutcomeList ← src.seqCtrlActOut.mapM encCtrlOutFrmt2CtrlOut
  pure { indicatedControlStyleType := longOf32 src.indCtrlStyle, ricControlOutcomeList }

def encCtrlOutFrmt2 (src : List SeqCtrlStyMulOut) :
    Except Fault (List ControlOutcomeFormat2StyleItem) :=
  mapMWithin 1 63 .bound encCtrlOutFrmt2It src

/-- `enc_ctrl_out_frmt_3_it` does what `enc_ran_param_struct` does. -/
def encCtrlOutFrmt3It (src : SeqRanParam) : Except Fault RanParameterItem := encRanParamStruct src

def encCtrlOutFrmt3 (src : List SeqRanParam) : Except Fault (List RanParameterItem) :=
  mapMWithin 0 255 .bound encCtrlOutFrmt3It src

/-- The unit of `rc_enc_ctrl_out_asn`. -/
def ctrlOutUnit : CtrlOut → Except Fault ControlOutcomeAsn
  | .frmt1 out => ControlOutcomeAsn.format1 <$> encCtrlOutFrmt1 out
  | .frmt2 out => ControlOutcomeAsn.format2 <$> encCtrlOutFrmt2 out
  | .frmt3 out => ControlOutcomeAsn.format3 <$> encCtrlOutFrmt3 out

/-- The unit of `rc_enc_cpid_asn`, the id of a call process. -/
def cpidUnit (ricCpid : UInt32) : Except Fault UInt64 := do
  check (0 < ricCpid) .bound
  pure ricCpid.toUInt64

section
variable (ue : SharedCodec UeIdE2sm Ueid)

def decCtrlHdrFrmt1 (src : ControlHeaderFormat1) : Except Fault CtrlHdrFrmt1 := do
  let ueId ← ue.dec src.ueId
  check (0 < src.ricControlActionId ∧ src.ricControlActionId < 65536) .bound
  check (src.ricControlDecision = none) .notImplemented
  pure {
    ueId
    ricStyleType := low32 src.ricStyleType
    ctrlActId := low16 src.ricControlActionId
    ricCtrlDecision := none }

def decCtrlHdrFrmt2 (src : ControlHeaderFormat2) : Except Fault CtrlHdrFrmt2 := do
  let ueId ← src.ueId.mapM ue.dec
  check (src.ricControlDecision = none) .notImplemented
  pure { ueId, ricCtrlDec := none }

/-- The header that `rc_dec_ctrl_hdr_asn` takes a unit for. -/
def ctrlHdrOf : ControlHeaderAsn → Except Fault CtrlHdr
  | .format1 hdr => CtrlHdr.frmt1 <$> decCtrlHdrFrmt1 ue hdr
  | .format2 hdr => CtrlHdr.frmt2 <$> decCtrlHdrFrmt2 ue hdr

end

def decCtrlMsgFrmt1It (src : RanParameterItem) : Except Fault SeqRanParam :=
  decRanParamBelow 4294967296 src

def decCtrlMsgFrmt1 (src : List RanParameterItem) : Except Fault (List SeqRanParam) :=
  mapMWithin 0 65535 .bound decCtrlMsgFrmt1It src

def decCtrlMsgSeqCtrlAct (src : ControlMessageFormat2ControlActionItem) :
    Except Fault SeqCtrlAct := do
  check (0 < src.ricControlActionId ∧ src.ricControlActionId < 65536) .bound
  let params ← decCtrlMsgFrmt1 src.ranPList
  pure { ctrlActId := low16 src.ricControlActionId, ctrlMsgFrmt1 := some params }

def decCtrlMsgSeqCtrlSma (src : ControlMessageFormat2StyleItem) : Except Fault SeqCtrlSma := do
  let seqCtrlAct ← mapMWithin 1 63 .bound decCtrlMsgSeqCtrlAct src.ricControlActionList
  pure { ctrlStyle := low32 src.indicatedControlStyleType, seqCtrlAct }

def decCtrlMsgFrmt2 (src : List ControlMessageFormat2StyleItem) : Except Fault (List SeqCtrlSma) :=
  mapMWithin 1 63 .bound decCtrlMsgSeqCtrlSma src

/-- The message that `rc_dec_ctrl_msg_asn` takes a unit for. -/
def ctrlMsgOf : ControlMessageAsn → Except Fault CtrlMsg
  | .format1 msg => CtrlMsg.frmt1 <$> decCtrlMsgFrmt1 msg
  | .format2 msg => CtrlMsg.frmt2 <$> decCtrlMsgFrmt2 msg

def decCtrlOutFrmt1It (src : OutcomeParamItem) : Except Fault SeqRanParam2 := do
  check (0 < src.ranParameterId) .bound
  let ranParamValue ← decRanParamVal src.ranParameterValue
  pure { ranParamId := src.ranParameterId.toUInt32, ranParamValue }

def decCtrlOutFrmt1 (src : List OutcomeParamItem) : Except Fault (List SeqRanParam2) :=
  mapMWithin 0 255 .bound decCtrlOutFrmt1It src

/-- Here the id is bounded from above. -/
def decCtrlOutFrmt2RanIt (src : OutcomeParamItem) : Except Fault SeqRanParam2 := do
  check (0 < src.ranParameterId ∧ src.ranParameterId < 4294967296) .bound
  let ranParamValue ← decRanParamVal src.ranParameterValue
  pure { ranParamId := src.ranParameterId.toUInt32, ranParamValue }

def decCtrlOutFrmt2CtrlOutIt (src : ControlOutcomeFormat2ControlOutcomeItem) :
    Except Fault SeqCtrlActOut := do
  check (0 < src.ricControlActionId ∧ src.ricControlActionId < 65536) .bound
  let ranParam ← mapMWithin 1 255 .bound decCtrlOutFrmt2RanIt src.ranPList
  pure { ctrlActId := low16 src.ricControlActionId, ranParam }

def decCtrlOutFrmt2StyIt (src : ControlOutcomeFormat2StyleItem) :
    Except Fault SeqCtrlStyMulOut := do
  let seqCtrlActOut ← mapMWithin 1 63 .bound decCtrlOutFrmt2CtrlOutIt src.ricControlOutcomeList
  pure { indCtrlStyle := low32 src.indicatedControlStyleType, seqCtrlActOut }

def decCtrlOutFrmt2 (src : List ControlOutcomeFormat2StyleItem) :
    Except Fault (List SeqCtrlStyMulOut) :=
  mapMWithin 1 63 .bound decCtrlOutFrmt2StyIt src

/-- `dec_ctr_out_frmt_3_it` does what `dec_seq_ran_param_strc_it` does. -/
def decCtrOutFrmt3It (src : RanParameterItem) : Except Fault SeqRanParam := decSeqRanParamStrcIt src

def decCtrlOutFrmt3 (src : List RanParameterItem) : Except Fault (List SeqRanParam) :=
  mapMWithin 0 255 .bound decCtrOutFrmt3It src

/-- The outcome that `rc_dec_ctrl_out_asn` takes a unit for. -/
def ctrlOutOf : ControlOutcomeAsn → Except Fault CtrlOut
  | .format1 out => CtrlOut.frmt1 <$> decCtrlOutFrmt1 out
  | .format2 out => CtrlOut.frmt2 <$> decCtrlOutFrmt2 out
  | .format3 out => CtrlOut.frmt3 <$> decCtrlOutFrmt3 out

/-- The id that `rc_dec_cpid_asn` takes a unit for. -/
def cpidOf (ricCallProcessId : UInt64) : Except Fault UInt32 := do
  check (0 < ricCallProcessId ∧ ricCallProcessId < 4294967296) .bound
  pure ricCallProcessId.toUInt32

/-- Room for the bytes of each part of a control. -/
def controlRoom : Nat := 16 * 1024

def rcEncCtrlHdrAsn (ue : SharedCodec UeIdE2sm Ueid) (p : Packing ControlHeaderAsn) :
    CtrlHdr → Except Fault Bytes :=
  encodeWith (ctrlHdrUnit ue) p controlRoom .aper

def rcDecCtrlHdrAsn (ue : SharedCodec UeIdE2sm Ueid) (p : Packing ControlHeaderAsn) :
    Bytes → Except Fault CtrlHdr :=
  decodeWith (ctrlHdrOf ue) p .aper

def rcEncCtrlMsgAsn (p : Packing ControlMessageAsn) : CtrlMsg → Except Fault Bytes :=
  encodeWith ctrlMsgUnit p controlRoom .aper

def rcDecCtrlMsgAsn (p : Packing ControlMessageAsn) : Bytes → Except Fault CtrlMsg :=
  decodeWith ctrlMsgOf p .aper

def rcEncCtrlOutAsn (p : Packing ControlOutcomeAsn) : CtrlOut → Except Fault Bytes :=
  encodeWith ctrlOutUnit p controlRoom .aper

def rcDecCtrlOutAsn (p : Packing ControlOutcomeAsn) : Bytes → Except Fault CtrlOut :=
  decodeWith ctrlOutOf p .aper

def rcEncCpidAsn (p : Packing UInt64) : UInt32 → Except Fault Bytes :=
  encodeWith cpidUnit p controlRoom .aper

def rcDecCpidAsn (p : Packing UInt64) : Bytes → Except Fault UInt32 :=
  decodeWith cpidOf p .aper

end FlexRic.Rc
