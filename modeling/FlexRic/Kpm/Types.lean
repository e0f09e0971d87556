import FlexRic.E2sm.CellGlobalId
import FlexRic.E2sm.UeId

/-! # What the KPM service model knows

Measurements, the labels and conditions that select them, and the messages that carry
them. Where the source has a pointer that may be NULL there is an optional value, and
a list where it has a pointer and a length.
-/

namespace FlexRic.Kpm

open E2sm (CellGlobalId UeIdE2sm)
open Wire (Bytes)

/-- A `double`, as its eight bytes. -/
abbrev Double := UInt64

/-- `enum_value_e`. -/
inductive EnumValue where
  | trueEnumValue
  deriving DecidableEq

/-- `meas_type_t`. -/
inductive MeasType where
  | name (name : Bytes)
  | id (id : UInt16)
  deriving DecidableEq

/-- `s_nssai_e2sm_t`. -/
structure SNssai where
  sst : UInt8
  sd : Option UInt32
  deriving DecidableEq

/-- `start_end_ind_e`. -/
inductive StartEndInd where
  | startInd
  | endInd
  deriving DecidableEq

/-- The parts of `label_info_lst_t` that the encoder refuses. -/
structure RefusedLabels where
  qFI : Option UInt8
  qCI : Option UInt8
  qCImax : Option UInt8
  qCImin : Option UInt8
  aRPmax : Option UInt8
  aRPmin : Option UInt8
  bitrateRange : Option UInt16
  layerMuMimo : Option UInt16
  sUM : Option EnumValue
  distBinX : Option UInt16
  distBinY : Option UInt16
  distBinZ : Option UInt16
  preLabelOverride : Option EnumValue
  startEndInd : Option StartEndInd
  min : Option EnumValue
  max : Option EnumValue
  deriving DecidableEq

/-- None of them. -/
def RefusedLabels.absent : RefusedLabels :=
  ⟨none, none, none, none, none, none, none, none, none, none, none, none, none, none, none, none⟩

/-- The parts of `label_info_lst_t` that the encoder does not look at. -/
structure IgnoredLabels where
  ssbIndex : Option UInt16
  nonGoBBeamformModeIndex : Option UInt16
  mimoModeIndex : Option UInt8
  deriving DecidableEq

def IgnoredLabels.absent : IgnoredLabels := ⟨none, none, none⟩

/-- `label_info_lst_t`. -/
structure LabelInfo where
  noLabel : Option EnumValue
  plmnId : Option Plmn
  sliceId : Option SNssai
  fiveQI : Option UInt8
  refused : RefusedLabels
  avg : Option EnumValue
  ignored : IgnoredLabels
  deriving DecidableEq

/-- `bin_range_value_t`. -/
inductive BinRangeValue where
  | integer (value : UInt64)
  | real (value : Double)
  deriving DecidableEq

/-- `bin_distr_t`. -/
structure BinDistr where
  binIndex : UInt16
  startValue : BinRangeValue
  endValue : BinRangeValue
  deriving DecidableEq

/-- `bin_range_def_t`. -/
structure BinRangeDef where
  binX : List BinDistr
  binY : List BinDistr
  binZ : List BinDistr
  deriving DecidableEq

/-- `meas_bin_range_info_lst_t`. -/
structure MeasBinRangeInfo where
  measType : MeasType
  binRangeDef : BinRangeDef
  deriving DecidableEq

/-- `test_cond_type_e`. What each of them carries has one value. -/
inductive TestCondType where
  | gbr | ambr | isStat | isCatM | dlRsrp | dlRsrq | ulRsrp | cqi | fiveQI | qci | sNssai
  deriving DecidableEq

/-- `test_cond_e`. -/
inductive TestCond where
  | equal | greaterthan | lessthan | contains | present
  deriving DecidableEq

/-- `test_cond_value_t`. -/
inductive TestCondValue where
  | integer (value : Int64)
  | enumerated (value : Int64)
  | boolean (value : Bool)
  | bitString (value : Bytes)
  | octetString (value : Bytes)
  | printableString (value : Bytes)
  | real (value : Double)
  deriving DecidableEq

/-- `test_info_lst_t`. -/
structure TestInfo where
  testCondType : TestCondType
  testCond : Option TestCond
  testCondValue : Option TestCondValue
  deriving DecidableEq

/-- The type and the union of `matching_condition_format_3_lst_t`. -/
inductive Condition where
  | label (info : LabelInfo)
  | test (info : TestInfo)
  deriving DecidableEq

/-- `matching_condition_format_3_lst_t`. -/
structure MatchingCondFormat3 where
  cond : Condition
  logicalOr : Option EnumValue
  deriving DecidableEq

/-- `matching_condition_format_4_lst_t`. -/
structure MatchingCondFormat4 where
  testInfo : TestInfo
  logicalOr : Option EnumValue
  deriving DecidableEq

/-- `meas_info_format_1_lst_t`. -/
structure MeasInfoFormat1 where
  measType : MeasType
  labelInfoLst : List LabelInfo
  deriving DecidableEq

/-- `meas_info_format_3_lst_t`. -/
structure MeasInfoFormat3 where
  measType : MeasType
  matchingCondLst : List MatchingCondFormat3
  binRangeDef : Option BinRangeDef
  deriving DecidableEq

/-- `kpm_act_def_format_1_t`. -/
structure ActDefFormat1 where
  measInfoLst : List MeasInfoFormat1
  granPeriodMs : UInt32
  cellGlobalId : Option CellGlobalId
  measBinInfoLst : List MeasBinRangeInfo
  deriving DecidableEq

/-- `kpm_act_def_format_2_t`. -/
structure ActDefFormat2 where
  ueId : UeIdE2sm
  actionDefFormat1 : ActDefFormat1
  deriving DecidableEq

/-- `kpm_act_def_format_3_t`. -/
structure ActDefFormat3 where
  measInfoLst : List MeasInfoFormat3
  granPeriodMs : UInt32
  cellGlobalId : Option CellGlobalId
  deriving DecidableEq

/-- `kpm_act_def_format_4_t`. -/
structure ActDefFormat4 where
  matchingCondLst : List MatchingCondFormat4
  actionDefFormat1 : ActDefFormat1
  deriving DecidableEq

/-- `kpm_act_def_format_5_t`. -/
structure ActDefFormat5 where
  ueIdLst : List UeIdE2sm
  actionDefFormat1 : ActDefFormat1
  deriving DecidableEq

/-- `kpm_act_def_t`. -/
inductive ActDef where
  | format1 (frm : ActDefFormat1)
  | format2 (frm : ActDefFormat2)
  | format3 (frm : ActDefFormat3)
  | format4 (frm : ActDefFormat4)
  | format5 (frm : ActDefFormat5)
  deriving DecidableEq

/-- `kpm_ind_hdr_t`, which has one format. -/
structure IndHdr where
  collectStartTime : UInt32
  fileformatVersion : Option Bytes
  senderName : Option Bytes
  senderType : Option Bytes
  vendorName : Option Bytes
  deriving DecidableEq

/-- `meas_record_lst_t`. -/
inductive MeasRecord where
  | integer (value : UInt32)
  | real (value : Double)
  | noValue
  deriving DecidableEq

/-- `meas_data_lst_t`. -/
structure MeasData where
  measRecordLst : List MeasRecord
  incompleteFlag : Option EnumValue
  deriving DecidableEq

/-- `ue_id_gran_period_lst_t`. -/
inductive UeIdGranPeriod where
  | noneMatched
  | oneOrMore (ueLst : List UeIdE2sm)
  deriving DecidableEq

/-- `meas_info_cond_ue_lst_t`. -/
structure MeasInfoCondUe where
  measType : MeasType
  matchingCondLst : List MatchingCondFormat3
  ueIdMatchedLst : List UeIdE2sm
  ueIdGranPeriodLst : List UeIdGranPeriod
  deriving DecidableEq

/-- `kpm_ind_msg_format_1_t`. -/
structure IndMsgFormat1 where
  measDataLst : List MeasData
  measInfoLst : List MeasInfoFormat1
  granPeriodMs : Option UInt32
  deriving DecidableEq

/-- `kpm_ind_msg_format_2_t`. -/
structure IndMsgFormat2 where
  measDataLst : List MeasData
  measInfoCondUeLst : List MeasInfoCondUe
  granPeriodMs : Option UInt32
  deriving DecidableEq

/-- `meas_report_per_ue_t`. -/
structure MeasReportPerUe where
  ueMeasReport : UeIdE2sm
  indMsgFormat1 : IndMsgFormat1
  deriving DecidableEq

/-- `kpm_ind_msg_t`. -/
inductive IndMsg where
  | format1 (frm : IndMsgFormat1)
  | format2 (frm : IndMsgFormat2)
  | format3 (measReportPerUe : List MeasReportPerUe)
  deriving DecidableEq

end FlexRic.Kpm
