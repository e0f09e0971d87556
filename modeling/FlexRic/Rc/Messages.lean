import FlexRic.E2sm.CellGlobalId
import FlexRic.E2sm.UeId
import FlexRic.Rc.Definitions
import FlexRic.Rc.ParamTests

/-! # Action definitions and indication messages

What an action of a subscription is, in four formats, and what a node then reports, in
six. The parts that are not implemented are kept only so far that it is known whether
they are there.
-/

namespace FlexRic.Rc

open E2sm (CellGlobalId UeIdE2sm Unread)
open Wire (Bytes)

/-- `param_report_def_t`. -/
structure ParamReportDef where
  ranParamId : UInt32
  ranParamDef : Option RanParamDef

/-- `ric_pol_decision_e`. -/
inductive RicPolDecision where
  | accept
  | reject
  deriving DecidableEq

/-- `policy_action_t`. -/
structure PolicyAction where
  policyActId : UInt16
  seqRanParam : List SeqRanParam
  polDec : Option RicPolDecision

/-- `policy_cond_t`. -/
structure PolicyCond where
  polAct : PolicyAction
  pol : Option (List RanParamTest)

/-- `ran_param_ins_t`. -/
structure RanParamIns where
  ranId : UInt32
  ranDef : Option RanParamDef

/-- `e2sm_rc_act_def_frmt_3_t`. -/
structure ActDefFrmt3 where
  id : UInt16
  ranParam : List RanParamIns
  ueId : Option UeIdE2sm

/-- `ran_param_ins_ind_t`. -/
structure RanParamInsInd where
  ranParamId : UInt32
  ranParamDef : Option RanParamDef

/-- `seq_ins_ind_act_def_t`. -/
structure SeqInsIndActDef where
  indId : UInt16
  ranParamInsInd : List RanParamInsInd

/-- `seq_ins_style_t`. -/
structure SeqInsStyle where
  reqInsertStyle : UInt32
  seqInsIndActDef : List SeqInsIndActDef

/-- `e2sm_rc_act_def_frmt_4_t`. -/
structure ActDefFrmt4 where
  seqInsStyle : List SeqInsStyle
  ueId : Option UeIdE2sm

/-- The union of `e2sm_rc_action_def_t`. -/
inductive ActDefFormat where
  | frmt1 (paramReportDef : List ParamReportDef)
  | frmt2 (policyCond : List PolicyCond)
  | frmt3 (frmt3 : ActDefFrmt3)
  | frmt4 (frmt4 : ActDefFrmt4)

/-- `e2sm_rc_action_def_t`. -/
structure ActionDef where
  ricStyleType : UInt32
  format : ActDefFormat

/-- `seq_ue_id_t`. -/
structure SeqUeId where
  ueId : UeIdE2sm
  seqRanParam : List SeqRanParam

/-- `seq_cell_info_t`. -/
structure SeqCellInfo where
  cellGlobalId : CellGlobalId
  cellCtxInfo : Option Bytes
  cellDel : Option Bool
  neighbourRelaTbl : Option Unread

/-- `seq_ue_info_t`. -/
structure SeqUeInfo where
  ueId : UeIdE2sm
  ueCtxInfo : Option Bytes
  cellGlobalId : CellGlobalId

/-- `seq_cell_info_2_t`. -/
structure SeqCellInfo2 where
  cellGlobalId : CellGlobalId
  cellCtxInfo : Option Bytes
  neighbourRelaTbl : Option Unread

/-- `e2sm_rc_ind_msg_frmt_4_t`. -/
structure IndMsgFrmt4 where
  seqUeInfo : List SeqUeInfo
  seqCellInfo2 : List SeqCellInfo2

/-- `ran_param_req_t`. -/
structure RanParamReq where
  ranParamId : UInt32
  ranParam : RanParamValType

/-- `seq_ins_ind_act_2_t`. -/
structure SeqInsIndAct2 where
  insIndId : UInt16
  ranParamReq : List RanParamReq

/-- `seq_ins_style_2_t`. -/
structure SeqInsStyle2 where
  indInsStyle : UInt32
  seqInsIndAct : List SeqInsIndAct2

/-- `e2sm_rc_ind_msg_t`. -/
inductive IndMsg where
  | frmt1 (seqRanParam : List SeqRanParam)
  | frmt2 (seqUeId : List SeqUeId)
  | frmt3 (seqCellInfo : List SeqCellInfo)
  | frmt4 (frmt4 : IndMsgFrmt4)
  | frmt5 (seqRanParam : List SeqRanParam)
  | frmt6 (seqInsStyle : List SeqInsStyle2)

end FlexRic.Rc
