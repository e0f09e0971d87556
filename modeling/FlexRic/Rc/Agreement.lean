import FlexRic.E2sm.UeIdSameness
import FlexRic.Rc.Equality
import FlexRic.Rc.ValueSameness

/-! # Agreement of subscriptions and indications

What it means for two messages to agree, what the comparison admits, and what it says
differs. Real values agree as numbers, and UEs by their identities.
-/

namespace FlexRic.Rc

open E2sm (UeIdE2sm)

def UeInfoChngTrigger.Agree : UeInfoChngTrigger → UeInfoChngTrigger → Prop
  | .rrcState state0, .rrcState state1 => state0 = state1
  | .ueIdChng id0, .ueIdChng id1 => id0 = id1
  | .l2State test0, .l2State test1 => List.Forall₂ RanParamTest.Agree test0 test1
  | _, _ => False

structure UeInfoChng.Agree (m0 m1 : UeInfoChng) : Prop where
  evTrigCondId : m0.evTrigCondId = m1.evTrigCondId
  trigger : m0.trigger.Agree m1.trigger
  assocUeInfo : m0.assocUeInfo = m1.assocUeInfo
  logOr : m0.logOr = m1.logOr

def EventTrigger.Agree : EventTrigger → EventTrigger → Prop
  | .frmt1 m0, .frmt1 m1 => m0 = m1
  | .frmt2 m0, .frmt2 m1 => m0 = m1
  | .frmt3 lst0, .frmt3 lst1 => lst0 = lst1
  | .frmt4 lst0, .frmt4 lst1 => List.Forall₂ UeInfoChng.Agree lst0 lst1
  | .frmt5 m0, .frmt5 m1 => m0 = m1
  | _, _ => False

structure PolicyAction.Agree (m0 m1 : PolicyAction) : Prop where
  policyActId : m0.policyActId = m1.policyActId
  seqRanParam : List.Forall₂ SeqRanParam.Agree m0.seqRanParam m1.seqRanParam
  polDec : m0.polDec = m1.polDec

structure PolicyCond.Agree (m0 m1 : PolicyCond) : Prop where
  polAct : m0.polAct.Agree m1.polAct
  pol : Option.Rel (List.Forall₂ RanParamTest.Agree) m0.pol m1.pol

structure ActDefFrmt3.Agree (m0 m1 : ActDefFrmt3) : Prop where
  id : m0.id = m1.id
  ranParam : m0.ranParam = m1.ranParam
  ueId : Option.Rel E2sm.Same m0.ueId m1.ueId

structure ActDefFrmt4.Agree (m0 m1 : ActDefFrmt4) : Prop where
  seqInsStyle : m0.seqInsStyle = m1.seqInsStyle
  ueId : Option.Rel E2sm.Same m0.ueId m1.ueId

def ActDefFormat.Agree : ActDefFormat → ActDefFormat → Prop
  | .frmt1 lst0, .frmt1 lst1 => lst0 = lst1
  | .frmt2 lst0, .frmt2 lst1 => List.Forall₂ PolicyCond.Agree lst0 lst1
  | .frmt3 m0, .frmt3 m1 => m0.Agree m1
  | .frmt4 m0, .frmt4 m1 => m0.Agree m1
  | _, _ => False

structure ActionDef.Agree (m0 m1 : ActionDef) : Prop where
  ricStyleType : m0.ricStyleType = m1.ricStyleType
  format : m0.format.Agree m1.format

structure SeqUeId.Agree (m0 m1 : SeqUeId) : Prop where
  ueId : E2sm.Same m0.ueId m1.ueId
  seqRanParam : List.Forall₂ SeqRanParam.Agree m0.seqRanParam m1.seqRanParam

structure SeqUeInfo.Agree (m0 m1 : SeqUeInfo) : Prop where
  ueId : E2sm.Same m0.ueId m1.ueId
  ueCtxInfo : m0.ueCtxInfo = m1.ueCtxInfo
  cellGlobalId : m0.cellGlobalId = m1.cellGlobalId

structure IndMsgFrmt4.Agree (m0 m1 : IndMsgFrmt4) : Prop where
  seqUeInfo : List.Forall₂ SeqUeInfo.Agree m0.seqUeInfo m1.seqUeInfo
  seqCellInfo2 : m0.seqCellInfo2 = m1.seqCellInfo2

structure RanParamReq.Agree (m0 m1 : RanParamReq) : Prop where
  ranParamId : m0.ranParamId = m1.ranParamId
  ranParam : m0.ranParam.Agree m1.ranParam

structure SeqInsIndAct2.Agree (m0 m1 : SeqInsIndAct2) : Prop where
  insIndId : m0.insIndId = m1.insIndId
  ranParamReq : List.Forall₂ RanParamReq.Agree m0.ranParamReq m1.ranParamReq

structure SeqInsStyle2.Agree (m0 m1 : SeqInsStyle2) : Prop where
  indInsStyle : m0.indInsStyle = m1.indInsStyle
  seqInsIndAct : List.Forall₂ SeqInsIndAct2.Agree m0.seqInsIndAct m1.seqInsIndAct

def IndMsg.Agree : IndMsg → IndMsg → Prop
  | .frmt1 lst0, .frmt1 lst1 => List.Forall₂ SeqRanParam.Agree lst0 lst1
  | .frmt2 lst0, .frmt2 lst1 => List.Forall₂ SeqUeId.Agree lst0 lst1
  | .frmt3 lst0, .frmt3 lst1 => lst0 = lst1
  | .frmt4 m0, .frmt4 m1 => m0.Agree m1
  | .frmt5 lst0, .frmt5 lst1 => List.Forall₂ SeqRanParam.Agree lst0 lst1
  | .frmt6 lst0, .frmt6 lst1 => List.Forall₂ SeqInsStyle2.Agree lst0 lst1
  | _, _ => False

/-! Every id and every length is in its range, and what is not implemented is missing.
-/

def MsgTypeEvTrg.Admitted : MsgTypeEvTrg → Prop
  | .net m => m.niId = none ∧ m.niMsgId = none
  | .rrcMsg _ => True

structure MsgEvTrg.Admitted (m : MsgEvTrg) : Prop where
  msgType : m.msgType.Admitted
  msgDir : m.msgDir = none
  assocUeInfo : m.assocUeInfo = none
  logOr : m.logOr = none

structure EvTrgFrmt1.Admitted (m : EvTrgFrmt1) : Prop where
  size : SizeIn 1 65535 m.msgEvTrg
  msgEvTrg : ∀ item ∈ m.msgEvTrg, item.Admitted
  globalAssocUeInfo : m.globalAssocUeInfo = none

structure EvTrgFrmt2.Admitted (m : EvTrgFrmt2) : Prop where
  callProcTypeId : 0 < m.callProcTypeId
  callBreakId : 0 < m.callBreakId
  assocE2NodeInfo : m.assocE2NodeInfo = none
  assocUeInfo : m.assocUeInfo = none

structure E2NodeInfoChng.Admitted (m : E2NodeInfoChng) : Prop where
  evTriggerCondId : 0 < m.evTriggerCondId
  e2NodeInfoChngId : 0 < m.e2NodeInfoChngId ∧ m.e2NodeInfoChngId < 513
  evTriggerCellInfo : m.evTriggerCellInfo = none
  logOr : m.logOr = none

def UeInfoChngTrigger.Admitted : UeInfoChngTrigger → Prop
  | .rrcState state => ∀ s ∈ state, s.logOr = none
  | .ueIdChng _ => True
  | .l2State test => ∀ t ∈ test, t.Plain

structure UeInfoChng.Admitted (m : UeInfoChng) : Prop where
  evTrigCondId : 0 < m.evTrigCondId
  trigger : m.trigger.Admitted
  assocUeInfo : m.assocUeInfo = none
  logOr : m.logOr = none

structure EvTrgFrmt5.Admitted (m : EvTrgFrmt5) : Prop where
  assocUeInfo : m.assocUeInfo = none
  assocCellInfo : m.assocCellInfo = none

def EventTrigger.Admitted : EventTrigger → Prop
  | .frmt1 m => m.Admitted
  | .frmt2 m => m.Admitted
  | .frmt3 lst => SizeIn 1 65535 lst ∧ ∀ m ∈ lst, m.Admitted
  | .frmt4 lst => SizeIn 1 65535 lst ∧ ∀ m ∈ lst, m.Admitted
  | .frmt5 m => m.Admitted

structure ParamReportDef.Admitted (m : ParamReportDef) : Prop where
  ranParamId : 0 < m.ranParamId
  ranParamDef : ∀ d ∈ m.ranParamDef, d.Flat

structure PolicyAction.Admitted (m : PolicyAction) : Prop where
  policyActId : 0 < m.policyActId
  size : SizeIn 0 65534 m.seqRanParam
  seqRanParam : ∀ p ∈ m.seqRanParam, p.ranParamVal.Sized
  polDec : m.polDec = none

structure PolicyCond.Admitted (m : PolicyCond) : Prop where
  polAct : m.polAct.Admitted
  pol : m.pol = none

structure ActDefFrmt3.Admitted (m : ActDefFrmt3) : Prop where
  size : 0 < m.ranParam.length
  ranParam : ∀ p ∈ m.ranParam, p.ranDef = none
  ueId : m.ueId = none

structure RanParamInsInd.Admitted (m : RanParamInsInd) : Prop where
  ranParamId : 0 < m.ranParamId
  ranParamDef : m.ranParamDef = none

structure SeqInsIndActDef.Admitted (m : SeqInsIndActDef) : Prop where
  indId : 0 < m.indId
  ranParamInsInd : ∀ p ∈ m.ranParamInsInd, p.Admitted

structure SeqInsStyle.Admitted (m : SeqInsStyle) : Prop where
  size : SizeIn 1 63 m.seqInsIndActDef
  seqInsIndActDef : ∀ d ∈ m.seqInsIndActDef, d.Admitted

structure ActDefFrmt4.Admitted (m : ActDefFrmt4) : Prop where
  size : SizeIn 1 4 m.seqInsStyle
  seqInsStyle : ∀ style ∈ m.seqInsStyle, style.Admitted
  ueId : m.ueId = none

def ActDefFormat.Admitted : ActDefFormat → Prop
  | .frmt1 lst => 0 < lst.length ∧ ∀ m ∈ lst, m.Admitted
  | .frmt2 lst => SizeIn 1 65535 lst ∧ ∀ m ∈ lst, m.Admitted
  | .frmt3 m => m.Admitted
  | .frmt4 m => m.Admitted

/-- What is read of the UE is there. -/
def UeRead (ueId : UeIdE2sm) : Prop := E2sm.Readable ueId ueId

structure SeqUeId.Admitted (m : SeqUeId) : Prop where
  ueId : UeRead m.ueId
  size : SizeIn 1 65535 m.seqRanParam
  seqRanParam : ∀ p ∈ m.seqRanParam, p.ranParamVal.Sized

structure SeqCellInfo.Admitted (m : SeqCellInfo) : Prop where
  cellCtxInfo : m.cellCtxInfo = none
  cellDel : m.cellDel = none
  neighbourRelaTbl : m.neighbourRelaTbl = none

structure SeqUeInfo.Admitted (m : SeqUeInfo) : Prop where
  ueId : UeRead m.ueId
  ueCtxInfo : m.ueCtxInfo = none

structure SeqCellInfo2.Admitted (m : SeqCellInfo2) : Prop where
  cellCtxInfo : m.cellCtxInfo = none
  neighbourRelaTbl : m.neighbourRelaTbl = none

structure IndMsgFrmt4.Admitted (m : IndMsgFrmt4) : Prop where
  ueSize : SizeIn 0 65535 m.seqUeInfo
  seqUeInfo : ∀ ue ∈ m.seqUeInfo, ue.Admitted
  cellSize : SizeIn 0 65535 m.seqCellInfo2
  seqCellInfo2 : ∀ cell ∈ m.seqCellInfo2, cell.Admitted

structure RanParamReq.Admitted (m : RanParamReq) : Prop where
  ranParamId : 0 < m.ranParamId
  ranParam : m.ranParam.Sized

structure SeqInsIndAct2.Admitted (m : SeqInsIndAct2) : Prop where
  size : SizeIn 0 65535 m.ranParamReq
  ranParamReq : ∀ req ∈ m.ranParamReq, req.Admitted

structure SeqInsStyle2.Admitted (m : SeqInsStyle2) : Prop where
  size : SizeIn 1 63 m.seqInsIndAct
  seqInsIndAct : ∀ act ∈ m.seqInsIndAct, act.Admitted

def IndMsg.Admitted : IndMsg → Prop
  | .frmt1 lst | .frmt5 lst => ∀ p ∈ lst, p.ranParamVal.Sized
  | .frmt2 lst => ∀ m ∈ lst, m.Admitted
  | .frmt3 lst => ∀ m ∈ lst, m.Admitted
  | .frmt4 m => m.Admitted
  | .frmt6 lst => SizeIn 1 63 lst ∧ ∀ m ∈ lst, m.Admitted

/-! Most items that differ end the comparison. It is the formats, the lengths and the ids in
front that are said to differ, and the items of two formats of event triggers.
-/

def MsgTypeEvTrg.Apart : MsgTypeEvTrg → MsgTypeEvTrg → Prop
  | .net net0, .net net1 => net0.niType ≠ net1.niType
  | .rrcMsg rrcMsg0, .rrcMsg rrcMsg1 => rrcMsg0 ≠ rrcMsg1
  | _, _ => True

def MsgEvTrg.Apart (m0 m1 : MsgEvTrg) : Prop :=
  m0.evTriggerCondId ≠ m1.evTriggerCondId ∨ m0.msgType.Apart m1.msgType

/-- The triggers are of two types. -/
def UeInfoChngTrigger.Apart : UeInfoChngTrigger → UeInfoChngTrigger → Prop
  | .rrcState _, .rrcState _ | .ueIdChng _, .ueIdChng _ | .l2State _, .l2State _ => False
  | _, _ => True

structure UeInfoChng.Apart (m0 m1 : UeInfoChng) : Prop where
  here : 0 < m0.evTrigCondId
  there : 0 < m1.evTrigCondId
  differ : m0.evTrigCondId ≠ m1.evTrigCondId ∨ m0.trigger.Apart m1.trigger

/-- Both lengths are in their range, and they differ. -/
structure SizesApart {α : Type} (least most : Nat) (as bs : List α) : Prop where
  here : SizeIn least most as
  there : SizeIn least most bs
  differ : as.length ≠ bs.length

structure SomeApart {α : Type} (as bs : List α) : Prop where
  here : 0 < as.length
  there : 0 < bs.length
  differ : as.length ≠ bs.length

/-- Both lengths are in their range, and the lists are said to differ. -/
structure ItemsApart {α : Type} (least most : Nat) (Yes No : α → α → Prop) (as bs : List α) :
    Prop where
  here : SizeIn least most as
  there : SizeIn least most bs
  differ : ListApart Yes No as bs

/-- The ids are compared one after the other, once they are known not to be zero. -/
structure EvTrgFrmt2.Apart (m0 m1 : EvTrgFrmt2) : Prop where
  here : 0 < m0.callProcTypeId
  there : 0 < m1.callProcTypeId
  differ : m0.callProcTypeId ≠ m1.callProcTypeId ∨
    (0 < m0.callBreakId ∧ 0 < m1.callBreakId) ∧ m0.callBreakId ≠ m1.callBreakId

def EventTrigger.Apart : EventTrigger → EventTrigger → Prop
  | .frmt1 m0, .frmt1 m1 =>
      ItemsApart 1 65535 (fun a b => a = b ∧ a.Admitted) MsgEvTrg.Apart m0.msgEvTrg m1.msgEvTrg
  | .frmt2 m0, .frmt2 m1 => m0.Apart m1
  | .frmt3 lst0, .frmt3 lst1 => SizesApart 1 65535 lst0 lst1
  | .frmt4 lst0, .frmt4 lst1 =>
      ItemsApart 1 65535 (fun a b => a.Agree b ∧ a.Admitted) UeInfoChng.Apart lst0 lst1
  | _, _ => False

def ActDefFormat.Apart : ActDefFormat → ActDefFormat → Prop
  | .frmt1 lst0, .frmt1 lst1 => SomeApart lst0 lst1
  | .frmt2 lst0, .frmt2 lst1 => SizesApart 1 65535 lst0 lst1
  | .frmt3 m0, .frmt3 m1 => m0.id ≠ m1.id ∨ SomeApart m0.ranParam m1.ranParam
  | .frmt4 m0, .frmt4 m1 => SizesApart 1 4 m0.seqInsStyle m1.seqInsStyle
  | _, _ => True

def ActionDef.Apart (m0 m1 : ActionDef) : Prop :=
  m0.ricStyleType ≠ m1.ricStyleType ∨ m0.format.Apart m1.format

def IndMsg.Apart : IndMsg → IndMsg → Prop
  | .frmt1 lst0, .frmt1 lst1 | .frmt5 lst0, .frmt5 lst1 => lst0.length ≠ lst1.length
  | .frmt2 lst0, .frmt2 lst1 => lst0.length ≠ lst1.length
  | .frmt3 lst0, .frmt3 lst1 => lst0.length ≠ lst1.length
  | .frmt4 m0, .frmt4 m1 => SizesApart 0 65535 m0.seqUeInfo m1.seqUeInfo
  | .frmt6 lst0, .frmt6 lst1 => SizesApart 1 63 lst0 lst1
  | _, _ => True

end FlexRic.Rc
