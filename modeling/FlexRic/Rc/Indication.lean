import FlexRic.E2sm.Fields
import FlexRic.Library.Packing
import FlexRic.Rc.Messages

/-! # The codec of indications

Three formats of a header, and six of a message. How a UE is written is left to the
functions of a codec of its own.
-/

namespace FlexRic.Rc

open Asn (Fault)
open E2sm (UeIdE2sm Ueid Cgi SharedCodec Unread longOf16 low16 longOf32 low32 encCellGlobalIdAsn
  decCellGlobalIdAsn)
open Wire (Bytes)

/-- `e2sm_rc_ind_hdr_frmt_2_t`. -/
structure IndHdrFrmt2 where
  ueId : UeIdE2sm
  ricStyleType : UInt32
  insIndId : UInt16

/-- `e2sm_rc_ind_hdr_frmt_3_t`. -/
structure IndHdrFrmt3 where
  evTriggerCond : Option UInt16
  ueId : Option UeIdE2sm

/-- `e2sm_rc_ind_hdr_t`. -/
inductive IndHdr where
  | frmt1 (evTriggerId : Option UInt16)
  | frmt2 (frmt2 : IndHdrFrmt2)
  | frmt3 (frmt3 : IndHdrFrmt3)

/-- `E2SM_RC_IndicationHeader_Format2_t`. -/
structure IndicationHeaderFormat2 where
  ueId : Ueid
  ricInsertStyleType : Int64
  ricInsertIndicationId : Int64

/-- `E2SM_RC_IndicationHeader_Format3_t`. -/
structure IndicationHeaderFormat3 where
  ricEventTriggerConditionId : Option Int64
  ueId : Option Ueid

/-- `E2SM_RC_IndicationHeader_t`. -/
inductive IndicationHeaderAsn where
  | format1 (ricEventTriggerConditionId : Option Int64)
  | format2 (indicationHeaderFormat2 : IndicationHeaderFormat2)
  | format3 (indicationHeaderFormat3 : IndicationHeaderFormat3)

/-- `E2SM_RC_IndicationMessage_Format2_Item_t`. -/
structure IndicationMessageFormat2Item where
  ueId : Ueid
  ranPList : List RanParameterItem

/-- `E2SM_RC_IndicationMessage_Format3_Item_t`. -/
structure IndicationMessageFormat3Item where
  cellGlobalId : Cgi
  cellContextInfo : Option Bytes
  cellDeleted : Option Bool
  neighborRelationTable : Option Unread

/-- `E2SM_RC_IndicationMessage_Format4_ItemUE_t`. -/
structure IndicationMessageFormat4ItemUe where
  ueId : Ueid
  ueContextInfo : Option Bytes
  cellGlobalId : Cgi

/-- `E2SM_RC_IndicationMessage_Format4_ItemCell_t`. -/
structure IndicationMessageFormat4ItemCell where
  cellGlobalId : Cgi
  cellContextInfo : Option Bytes
  neighborRelationTable : Option Unread

/-- `E2SM_RC_IndicationMessage_Format4_t`. -/
structure IndicationMessageFormat4 where
  ueInfoList : List IndicationMessageFormat4ItemUe
  cellInfoList : List IndicationMessageFormat4ItemCell

/-- `E2SM_RC_IndicationMessage_Format6_Indication_Item_t`. -/
structure IndicationMessageFormat6IndicationItem where
  ricInsertIndicationId : Int64
  ranPInsertIndicationList : List RanParameterItem

/-- `E2SM_RC_IndicationMessage_Format6_Style_Item_t`. -/
structure IndicationMessageFormat6StyleItem where
  indicatedInsertStyleType : Int64
  ricInsertIndicationList : List IndicationMessageFormat6IndicationItem

/-- `E2SM_RC_IndicationMessage_t`. -/
inductive IndicationMessageAsn where
  | format1 (ranPReportedList : List RanParameterItem)
  | format2 (ueParameterList : List IndicationMessageFormat2Item)
  | format3 (cellInfoList : List IndicationMessageFormat3Item)
  | format4 (indicationMessageFormat4 : IndicationMessageFormat4)
  | format5 (ranPRequestedList : List RanParameterItem)
  | format6 (ricInsertStyleList : List IndicationMessageFormat6StyleItem)

/-- The id of an event trigger condition. -/
def encEvTriggerCondId (id : UInt16) : Except Fault Int64 := do
  check (0 < id) .bound
  pure (longOf16 id)

/-- `enc_ind_msg_frmt_1_it` does what `enc_ran_param_struct` does. -/
def encIndMsgFrmt1It (src : SeqRanParam) : Except Fault RanParameterItem := encRanParamStruct src

def encIndMsgFrmt1 (src : List SeqRanParam) : Except Fault (List RanParameterItem) :=
  mapMWithin 1 65535 .bound encIndMsgFrmt1It src

/-- `enc_ind_msg_frmt_2_ran_param` does it too. -/
def encIndMsgFrmt2RanParam (src : SeqRanParam) : Except Fault RanParameterItem :=
  encRanParamStruct src

def encIndMsgFrmt3It (src : SeqCellInfo) : Except Fault IndicationMessageFormat3Item := do
  let cellGlobalId ← encCellGlobalIdAsn src.cellGlobalId
  check (src.cellCtxInfo = none) .notImplemented
  check (src.cellDel = none) .notImplemented
  check (src.neighbourRelaTbl = none) .notImplemented
  pure { cellGlobalId, cellContextInfo := none, cellDeleted := none, neighborRelationTable := none }

def encIndMsgFrmt3 (src : List SeqCellInfo) : Except Fault (List IndicationMessageFormat3Item) :=
  mapMWithin 1 65535 .bound encIndMsgFrmt3It src

def encIndMsgFrmt4ItCell (src : SeqCellInfo2) : Except Fault IndicationMessageFormat4ItemCell := do
  let cellGlobalId ← encCellGlobalIdAsn src.cellGlobalId
  check (src.cellCtxInfo = none) .notImplemented
  check (src.neighbourRelaTbl = none) .notImplemented
  pure { cellGlobalId, cellContextInfo := none, neighborRelationTable := none }

/-- `enc_ind_msg_frmt_5_it` does it too. -/
def encIndMsgFrmt5It (src : SeqRanParam) : Except Fault RanParameterItem := encRanParamStruct src

/-- There may be any number of parameters. -/
def encIndMsgFrmt5 (src : List SeqRanParam) : Except Fault (List RanParameterItem) :=
  src.mapM encIndMsgFrmt5It

def encIndMsgFrmt6Ran (src : RanParamReq) : Except Fault RanParameterItem :=
  encRanParamStruct ⟨src.ranParamId, src.ranParam⟩

/-- Here too there may be any number of parameters. -/
def encIndMsgFrmt6IndIt (src : SeqInsIndAct2) :
    Except Fault IndicationMessageFormat6IndicationItem := do
  check (0 < src.insIndId) .bound
  let ranPInsertIndicationList ← src.ranParamReq.mapM encIndMsgFrmt6Ran
  pure { ricInsertIndicationId := longOf16 src.insIndId, ranPInsertIndicationList }

def encIndMsgFrmt6It (src : SeqInsStyle2) : Except Fault IndicationMessageFormat6StyleItem := do
  let ricInsertIndicationList ← mapMWithin 1 63 .bound encIndMsgFrmt6IndIt src.seqInsIndAct
  pure { indicatedInsertStyleType := longOf32 src.indInsStyle, ricInsertIndicationList }

def encIndMsgFrmt6 (src : List SeqInsStyle2) :
    Except Fault (List IndicationMessageFormat6StyleItem) :=
  mapMWithin 1 63 .bound encIndMsgFrmt6It src

section
variable (ue : SharedCodec UeIdE2sm Ueid)

def cpIndHdrFrmt2 (src : IndHdrFrmt2) : Except Fault IndicationHeaderFormat2 := do
  let ueId ← ue.enc src.ueId
  check (0 < src.insIndId) .bound
  pure {
    ueId
    ricInsertStyleType := longOf32 src.ricStyleType
    ricInsertIndicationId := longOf16 src.insIndId }

def cpIndHdrFrmt3 (src : IndHdrFrmt3) : Except Fault IndicationHeaderFormat3 := do
  let ricEventTriggerConditionId ← src.evTriggerCond.mapM encEvTriggerCondId
  let ueId ← src.ueId.mapM ue.enc
  pure { ricEventTriggerConditionId, ueId }

/-- The unit of `rc_enc_ind_hdr_asn`. -/
def indHdrUnit : IndHdr → Except Fault IndicationHeaderAsn
  | .frmt1 id => IndicationHeaderAsn.format1 <$> id.mapM encEvTriggerCondId
  | .frmt2 hdr => IndicationHeaderAsn.format2 <$> cpIndHdrFrmt2 ue hdr
  | .frmt3 hdr => IndicationHeaderAsn.format3 <$> cpIndHdrFrmt3 ue hdr

def encIndMsgFrmt2It (src : SeqUeId) : Except Fault IndicationMessageFormat2Item := do
  let ueId ← ue.enc src.ueId
  let ranPList ← mapMWithin 1 65535 .bound encIndMsgFrmt2RanParam src.seqRanParam
  pure { ueId, ranPList }

def encIndMsgFrmt2 (src : List SeqUeId) : Except Fault (List IndicationMessageFormat2Item) :=
  mapMWithin 1 65535 .bound (encIndMsgFrmt2It ue) src

def encIndMsgFrmt4ItUe (src : SeqUeInfo) : Except Fault IndicationMessageFormat4ItemUe := do
  let ueId ← ue.enc src.ueId
  check (src.ueCtxInfo = none) .notImplemented
  let cellGlobalId ← encCellGlobalIdAsn src.cellGlobalId
  pure { ueId, ueContextInfo := none, cellGlobalId }

/-- Neither list is bounded. -/
def encIndMsgFrmt4 (src : IndMsgFrmt4) : Except Fault IndicationMessageFormat4 := do
  let ueInfoList ← src.seqUeInfo.mapM (encIndMsgFrmt4ItUe ue)
  let cellInfoList ← src.seqCellInfo2.mapM encIndMsgFrmt4ItCell
  pure { ueInfoList, cellInfoList }

/-- The unit of `rc_enc_ind_msg_asn`. -/
def indMsgUnit : IndMsg → Except Fault IndicationMessageAsn
  | .frmt1 msg => IndicationMessageAsn.format1 <$> encIndMsgFrmt1 msg
  | .frmt2 msg => IndicationMessageAsn.format2 <$> encIndMsgFrmt2 ue msg
  | .frmt3 msg => IndicationMessageAsn.format3 <$> encIndMsgFrmt3 msg
  | .frmt4 msg => IndicationMessageAsn.format4 <$> encIndMsgFrmt4 ue msg
  | .frmt5 msg => IndicationMessageAsn.format5 <$> encIndMsgFrmt5 msg
  | .frmt6 msg => IndicationMessageAsn.format6 <$> encIndMsgFrmt6 msg

end

def decEvTriggerCondId (id : Int64) : Except Fault UInt16 := do
  check (0 < id ∧ id < 65536) .bound
  pure (low16 id)

/-- `dec_ind_msg_frmt_1_it` does what `dec_seq_ran_param_strc_it` does. -/
def decIndMsgFrmt1It (src : RanParameterItem) : Except Fault SeqRanParam := decSeqRanParamStrcIt src

def decIndMsgFrmt1 (src : List RanParameterItem) : Except Fault (List SeqRanParam) :=
  mapMWithin 1 65535 .bound decIndMsgFrmt1It src

/-- `dec_frmt_2_ran_param` does it too. -/
def decFrmt2RanParam (src : RanParameterItem) : Except Fault SeqRanParam := decSeqRanParamStrcIt src

def decIndMsgFrmt3It (src : IndicationMessageFormat3Item) : Except Fault SeqCellInfo := do
  let cellGlobalId ← decCellGlobalIdAsn src.cellGlobalId
  check (src.cellContextInfo = none) .notImplemented
  check (src.cellDeleted = none) .notImplemented
  check (src.neighborRelationTable = none) .notImplemented
  pure { cellGlobalId, cellCtxInfo := none, cellDel := none, neighbourRelaTbl := none }

def decIndMsgFrmt3 (src : List IndicationMessageFormat3Item) : Except Fault (List SeqCellInfo) :=
  mapMWithin 1 65535 .bound decIndMsgFrmt3It src

def decIndMsgFrmt4ItDellInfo (src : IndicationMessageFormat4ItemCell) :
    Except Fault SeqCellInfo2 := do
  let cellGlobalId ← decCellGlobalIdAsn src.cellGlobalId
  check (src.cellContextInfo = none) .notImplemented
  check (src.neighborRelationTable = none) .notImplemented
  pure { cellGlobalId, cellCtxInfo := none, neighbourRelaTbl := none }

/-- `dec_ind_msg_frmt_5_it` does it too. -/
def decIndMsgFrmt5It (src : RanParameterItem) : Except Fault SeqRanParam := decSeqRanParamStrcIt src

def decIndMsgFrmt5 (src : List RanParameterItem) : Except Fault (List SeqRanParam) :=
  mapMWithin 0 65535 .bound decIndMsgFrmt5It src

def decRanParamReq (src : RanParameterItem) : Except Fault RanParamReq :=
  (fun param => ⟨param.ranParamId, param.ranParamVal⟩) <$> decRanParamBelow 4294967296 src

def decSeqInsIndAct (src : IndicationMessageFormat6IndicationItem) :
    Except Fault SeqInsIndAct2 := do
  check (0 < src.ricInsertIndicationId ∧ src.ricInsertIndicationId < 65536) .bound
  let ranParamReq ← src.ranPInsertIndicationList.mapM decRanParamReq
  pure { insIndId := low16 src.ricInsertIndicationId, ranParamReq }

def decSeqInsStyle (src : IndicationMessageFormat6StyleItem) : Except Fault SeqInsStyle2 := do
  let seqInsIndAct ← mapMWithin 1 63 .bound decSeqInsIndAct src.ricInsertIndicationList
  pure { indInsStyle := low32 src.indicatedInsertStyleType, seqInsIndAct }

def decIndMsgFrmt6 (src : List IndicationMessageFormat6StyleItem) :
    Except Fault (List SeqInsStyle2) :=
  mapMWithin 1 63 .bound decSeqInsStyle src

section
variable (ue : SharedCodec UeIdE2sm Ueid)

/-- Here the id is not bounded from above. -/
def decIndHdrFrmt2 (src : IndicationHeaderFormat2) : Except Fault IndHdrFrmt2 := do
  let ueId ← ue.dec src.ueId
  check (0 < src.ricInsertIndicationId) .bound
  pure {
    ueId
    ricStyleType := low32 src.ricInsertStyleType
    insIndId := low16 src.ricInsertIndicationId }

def decIndHdrFrmt3 (src : IndicationHeaderFormat3) : Except Fault IndHdrFrmt3 := do
  let evTriggerCond ← src.ricEventTriggerConditionId.mapM decEvTriggerCondId
  let ueId ← src.ueId.mapM ue.dec
  pure { evTriggerCond, ueId }

/-- The header that `rc_dec_ind_hdr_asn` takes a unit for. -/
def indHdrOf : IndicationHeaderAsn → Except Fault IndHdr
  | .format1 id => IndHdr.frmt1 <$> id.mapM decEvTriggerCondId
  | .format2 hdr => IndHdr.frmt2 <$> decIndHdrFrmt2 ue hdr
  | .format3 hdr => IndHdr.frmt3 <$> decIndHdrFrmt3 ue hdr

def decSeqUeId (src : IndicationMessageFormat2Item) : Except Fault SeqUeId := do
  let ueId ← ue.dec src.ueId
  let seqRanParam ← mapMWithin 1 65535 .bound decFrmt2RanParam src.ranPList
  pure { ueId, seqRanParam }

def decIndMsgFrmt2 (src : List IndicationMessageFormat2Item) : Except Fault (List SeqUeId) :=
  mapMWithin 1 65535 .bound (decSeqUeId ue) src

def decIndMsgFrmt4ItUeInfo (src : IndicationMessageFormat4ItemUe) : Except Fault SeqUeInfo := do
  let ueId ← ue.dec src.ueId
  check (src.ueContextInfo = none) .notImplemented
  let cellGlobalId ← decCellGlobalIdAsn src.cellGlobalId
  pure { ueId, ueCtxInfo := none, cellGlobalId }

def decIndMsgFrmt4 (src : IndicationMessageFormat4) : Except Fault IndMsgFrmt4 := do
  let seqUeInfo ← mapMWithin 0 65535 .bound (decIndMsgFrmt4ItUeInfo ue) src.ueInfoList
  let seqCellInfo2 ← mapMWithin 0 65535 .bound decIndMsgFrmt4ItDellInfo src.cellInfoList
  pure { seqUeInfo, seqCellInfo2 }

/-- The message that `rc_dec_ind_msg_asn` takes a unit for. -/
def indMsgOf : IndicationMessageAsn → Except Fault IndMsg
  | .format1 msg => IndMsg.frmt1 <$> decIndMsgFrmt1 msg
  | .format2 msg => IndMsg.frmt2 <$> decIndMsgFrmt2 ue msg
  | .format3 msg => IndMsg.frmt3 <$> decIndMsgFrmt3 msg
  | .format4 msg => IndMsg.frmt4 <$> decIndMsgFrmt4 ue msg
  | .format5 msg => IndMsg.frmt5 <$> decIndMsgFrmt5 msg
  | .format6 msg => IndMsg.frmt6 <$> decIndMsgFrmt6 msg

/-- Room for the bytes of a header. -/
def indHdrRoom : Nat := 1024

/-- Room for the bytes of a message. -/
def indMsgRoom : Nat := 128 * 1024

def rcEncIndHdrAsn (p : Packing IndicationHeaderAsn) : IndHdr → Except Fault Bytes :=
  encodeWith (indHdrUnit ue) p indHdrRoom .aper

def rcDecIndHdrAsn (p : Packing IndicationHeaderAsn) : Bytes → Except Fault IndHdr :=
  decodeWith (indHdrOf ue) p .aper

def rcEncIndMsgAsn (p : Packing IndicationMessageAsn) : IndMsg → Except Fault Bytes :=
  encodeWith (indMsgUnit ue) p indMsgRoom .aper

def rcDecIndMsgAsn (p : Packing IndicationMessageAsn) : Bytes → Except Fault IndMsg :=
  decodeWith (indMsgOf ue) p .aper

end

end FlexRic.Rc
