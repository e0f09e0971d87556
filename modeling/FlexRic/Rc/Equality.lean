import FlexRic.E2sm.UeIdEquality
import FlexRic.Rc.EventTrigger
import FlexRic.Rc.Messages
import FlexRic.Rc.ValueEquality

/-! # Equality of subscriptions and indications

Event triggers, action definitions and indication messages are compared format by format.
What is not implemented is asserted not to be there. Some lists and some ids are not
compared, and of event triggers not even the formats are.
-/

namespace FlexRic.Rc

open E2sm (CellGlobalId UeIdE2sm eqE2smPlmn eqUeIdE2sm)

section
variable {α : Type}

/-- The number of items is in a range. -/
def SizeIn (least most : Nat) (lst : List α) : Prop := least ≤ lst.length ∧ lst.length ≤ most

instance (least most : Nat) (lst : List α) : Decidable (SizeIn least most lst) :=
  inferInstanceAs (Decidable (_ ∧ _))

/-- The assertions on the lengths of both lists. -/
def assertSizes (least most : Nat) (as bs : List α) : Except EqFailure Unit :=
  check (SizeIn least most as ∧ SizeIn least most bs) .bound

def eqSized (least most : Nat) (eq : α → α → Except EqFailure Bool) (as bs : List α) :
    Except EqFailure Bool := do
  assertSizes least most as bs
  eqCounted eq as bs

/-- A loop that stops with an assertion at items that differ. -/
def insisted (eq : α → α → Except EqFailure Bool) (a b : α) : Except EqFailure Bool :=
  insist .differ (eq a b)

/-- The assertions that neither list is empty. -/
def assertSome (as bs : List α) : Except EqFailure Unit :=
  check (0 < as.length ∧ 0 < bs.length) .bound

/-- The assertions that an optional part is missing. -/
def assertNone (o0 o1 : Option α) : Except EqFailure Unit :=
  check (o0.isNone ∧ o1.isNone) .notImplemented

/-- The assertions that an id is not zero. -/
def assertIds [LT α] [OfNat α 0] [DecidableLT α] (id0 id1 : α) : Except EqFailure Unit :=
  check (0 < id0 ∧ 0 < id1) .bound

end

def eqNetworkInterfaceE2rc (m0 m1 : NetworkInterfaceE2rc) : Except EqFailure Bool :=
  both (pure (m0.niType = m1.niType)) <| do
    assertNone m0.niId m1.niId
    assertNone m0.niMsgId m1.niMsgId
    pure true

/-- The types, and then the class that the type has. -/
def eqRrcMsgId (m0 m1 : RrcMsgId) : Bool := m0.type = m1.type && m0.rrcMsgId = m1.rrcMsgId

/-- The choice in `eq_msg_ev_trg`. -/
def eqMsgTypeEvTrg : MsgTypeEvTrg → MsgTypeEvTrg → Except EqFailure Bool
  | .net net0, .net net1 => eqNetworkInterfaceE2rc net0 net1
  | .rrcMsg rrcMsg0, .rrcMsg rrcMsg1 => pure (eqRrcMsgId rrcMsg0 rrcMsg1)
  | _, _ => pure false

def eqMsgEvTrg (m0 m1 : MsgEvTrg) : Except EqFailure Bool :=
  both (pure (m0.evTriggerCondId = m1.evTriggerCondId)) <|
  both (eqMsgTypeEvTrg m0.msgType m1.msgType) <| do
    assertNone m0.msgDir m1.msgDir
    assertNone m0.assocUeInfo m1.assocUeInfo
    assertNone m0.logOr m1.logOr
    pure true

def eqEvTrgFrmt1 (m0 m1 : EvTrgFrmt1) : Except EqFailure Bool :=
  both (eqSized 1 65535 eqMsgEvTrg m0.msgEvTrg m1.msgEvTrg) <| do
    assertNone m0.globalAssocUeInfo m1.globalAssocUeInfo
    pure true

def eqEvTrgFrmt2 (m0 m1 : EvTrgFrmt2) : Except EqFailure Bool := do
  assertIds m0.callProcTypeId m1.callProcTypeId
  both (pure (m0.callProcTypeId = m1.callProcTypeId)) <| do
    assertIds m0.callBreakId m1.callBreakId
    both (pure (m0.callBreakId = m1.callBreakId)) <| do
      assertNone m0.assocE2NodeInfo m1.assocE2NodeInfo
      assertNone m0.assocUeInfo m1.assocUeInfo
      pure true

/-- Nothing of one is compared with the other. -/
def eqE2NodeInfoChng (m0 m1 : E2NodeInfoChng) : Except EqFailure Bool := do
  assertIds m0.evTriggerCondId m1.evTriggerCondId
  assertIds m0.e2NodeInfoChngId m1.e2NodeInfoChngId
  check (m0.e2NodeInfoChngId < 513 ∧ m1.e2NodeInfoChngId < 513) .bound
  assertNone m0.evTriggerCellInfo m1.evTriggerCellInfo
  assertNone m0.logOr m1.logOr
  pure true

def eqRrcState (m0 m1 : RrcState) : Except EqFailure Bool :=
  both (pure (m0.stateChngdTo = m1.stateChngdTo)) <| do
    assertNone m0.logOr m1.logOr
    pure true

/-- The choice in `eq_ue_info_chng`. -/
def eqUeInfoChngTrigger : UeInfoChngTrigger → UeInfoChngTrigger → Except EqFailure Bool
  | .rrcState state0, .rrcState state1 => insist .differ (eqCounted eqRrcState state0 state1)
  | .ueIdChng id0, .ueIdChng id1 => insist .differ (pure (id0 = id1))
  | .l2State test0, .l2State test1 => insist .differ (eqRanParamCondCritDef test0 test1)
  | _, _ => pure false

def eqUeInfoChng (m0 m1 : UeInfoChng) : Except EqFailure Bool := do
  assertIds m0.evTrigCondId m1.evTrigCondId
  both (pure (m0.evTrigCondId = m1.evTrigCondId)) <|
    both (eqUeInfoChngTrigger m0.trigger m1.trigger) <| do
      assertNone m0.assocUeInfo m1.assocUeInfo
      assertNone m0.logOr m1.logOr
      pure true

def eqEvTrgFrmt5 (m0 m1 : EvTrgFrmt5) : Except EqFailure Bool := do
  assertNone m0.assocUeInfo m1.assocUeInfo
  assertNone m0.assocCellInfo m1.assocCellInfo
  pure true

/-- The second trigger is read in the format of the first. -/
def eqEventTrigger : EventTrigger → EventTrigger → Except EqFailure Bool
  | .frmt1 m0, .frmt1 m1 => eqEvTrgFrmt1 m0 m1
  | .frmt2 m0, .frmt2 m1 => eqEvTrgFrmt2 m0 m1
  | .frmt3 lst0, .frmt3 lst1 => eqSized 1 65535 eqE2NodeInfoChng lst0 lst1
  | .frmt4 lst0, .frmt4 lst1 => eqSized 1 65535 eqUeInfoChng lst0 lst1
  | .frmt5 m0, .frmt5 m1 => eqEvTrgFrmt5 m0 m1
  | _, _ => throw .otherMember

def eqParamReportDef (m0 m1 : ParamReportDef) : Except EqFailure Bool := do
  assertIds m0.ranParamId m1.ranParamId
  both (pure (m0.ranParamId = m1.ranParamId)) <|
    eqPtr eqRanParamDef m0.ranParamDef m1.ranParamDef

def eqActDefFrmt1 (lst0 lst1 : List ParamReportDef) : Except EqFailure Bool := do
  assertSome lst0 lst1
  eqCounted (insisted eqParamReportDef) lst0 lst1

def eqPolicyAction (m0 m1 : PolicyAction) : Except EqFailure Bool := do
  assertIds m0.policyActId m1.policyActId
  both (pure (m0.policyActId = m1.policyActId)) <|
    both (eqSized 0 65534 eqSeqRanParam m0.seqRanParam m1.seqRanParam) <| do
      assertNone m0.polDec m1.polDec
      pure true

def eqPolicyCond (m0 m1 : PolicyCond) : Except EqFailure Bool :=
  both (eqPolicyAction m0.polAct m1.polAct) <| do
    assertNone m0.pol m1.pol
    pure true

def eqActDefFrmt2 (lst0 lst1 : List PolicyCond) : Except EqFailure Bool :=
  eqSized 1 65535 (insisted eqPolicyCond) lst0 lst1

def eqRanParamIns (m0 m1 : RanParamIns) : Except EqFailure Bool :=
  both (pure (m0.ranId = m1.ranId)) <| do
    assertNone m0.ranDef m1.ranDef
    pure true

def eqActDefFrmt3 (m0 m1 : ActDefFrmt3) : Except EqFailure Bool :=
  both (pure (m0.id = m1.id)) <| do
    assertSome m0.ranParam m1.ranParam
    both (eqCounted (insisted eqRanParamIns) m0.ranParam m1.ranParam) <| do
      assertNone m0.ueId m1.ueId
      pure true

def eqRanParamInsInd (m0 m1 : RanParamInsInd) : Except EqFailure Bool := do
  assertIds m0.ranParamId m1.ranParamId
  both (pure (m0.ranParamId = m1.ranParamId)) <| do
    assertNone m0.ranParamDef m1.ranParamDef
    pure true

/-- The ids of the indications are not compared. -/
def eqSeqInsIndActDef (m0 m1 : SeqInsIndActDef) : Except EqFailure Bool := do
  assertIds m0.indId m1.indId
  eqCounted eqRanParamInsInd m0.ranParamInsInd m1.ranParamInsInd

def eqSeqInsStyle (m0 m1 : SeqInsStyle) : Except EqFailure Bool :=
  both (pure (m0.reqInsertStyle = m1.reqInsertStyle)) <|
    eqSized 1 63 eqSeqInsIndActDef m0.seqInsIndActDef m1.seqInsIndActDef

def eqActDefFrmt4 (m0 m1 : ActDefFrmt4) : Except EqFailure Bool :=
  both (eqSized 1 4 (insisted eqSeqInsStyle) m0.seqInsStyle m1.seqInsStyle) <| do
    assertNone m0.ueId m1.ueId
    pure true

/-- The choice in `eq_e2sm_rc_action_def`. -/
def eqActDefFormat : ActDefFormat → ActDefFormat → Except EqFailure Bool
  | .frmt1 lst0, .frmt1 lst1 => eqActDefFrmt1 lst0 lst1
  | .frmt2 lst0, .frmt2 lst1 => eqActDefFrmt2 lst0 lst1
  | .frmt3 m0, .frmt3 m1 => eqActDefFrmt3 m0 m1
  | .frmt4 m0, .frmt4 m1 => eqActDefFrmt4 m0 m1
  | _, _ => pure false

def eqActionDef (m0 m1 : ActionDef) : Except EqFailure Bool :=
  both (pure (m0.ricStyleType = m1.ricStyleType)) (eqActDefFormat m0.format m1.format)

def eqUeId (m0 m1 : UeIdE2sm) : Except EqFailure Bool := (eqUeIdE2sm m0 m1).mapError .ueId

def eqCellGlobalId : CellGlobalId → CellGlobalId → Bool
  | .nrCgi plmnId0 nrCellId0, .nrCgi plmnId1 nrCellId1 =>
      eqE2smPlmn plmnId0 plmnId1 && nrCellId0 = nrCellId1
  | .eutra plmnId0 eutraCellId0, .eutra plmnId1 eutraCellId1 =>
      eqE2smPlmn plmnId0 plmnId1 && eutraCellId0 = eutraCellId1
  | _, _ => false

/-- The lengths of the lists are not compared. -/
def eqSeqUeId (m0 m1 : SeqUeId) : Except EqFailure Bool :=
  both (eqUeId m0.ueId m1.ueId) <| do
    assertSizes 1 65535 m0.seqRanParam m1.seqRanParam
    eqUpTo .outside eqSeqRanParam m0.seqRanParam m1.seqRanParam

def eqSeqCellInfo (m0 m1 : SeqCellInfo) : Except EqFailure Bool :=
  both (pure (eqCellGlobalId m0.cellGlobalId m1.cellGlobalId)) <| do
    assertNone m0.cellCtxInfo m1.cellCtxInfo
    assertNone m0.cellDel m1.cellDel
    assertNone m0.neighbourRelaTbl m1.neighbourRelaTbl
    pure true

def eqSeqUeInfo (m0 m1 : SeqUeInfo) : Except EqFailure Bool :=
  both (eqUeId m0.ueId m1.ueId) <| do
    assertNone m0.ueCtxInfo m1.ueCtxInfo
    pure (eqCellGlobalId m0.cellGlobalId m1.cellGlobalId)

def eqSeqCellInfo2 (m0 m1 : SeqCellInfo2) : Except EqFailure Bool :=
  both (pure (eqCellGlobalId m0.cellGlobalId m1.cellGlobalId)) <| do
    assertNone m0.cellCtxInfo m1.cellCtxInfo
    assertNone m0.neighbourRelaTbl m1.neighbourRelaTbl
    pure true

/-- The numbers of cells are not compared. -/
def eqIndMsgFrmt4 (m0 m1 : IndMsgFrmt4) : Except EqFailure Bool :=
  both (eqSized 0 65535 (insisted eqSeqUeInfo) m0.seqUeInfo m1.seqUeInfo) <| do
    assertSizes 0 65535 m0.seqCellInfo2 m1.seqCellInfo2
    eqUpTo .outside (insisted eqSeqCellInfo2) m0.seqCellInfo2 m1.seqCellInfo2

def eqRanParamReq (m0 m1 : RanParamReq) : Except EqFailure Bool := do
  assertIds m0.ranParamId m1.ranParamId
  both (pure (m0.ranParamId = m1.ranParamId)) (eqRanParamValType m0.ranParam m1.ranParam)

def eqSeqInsIndAct2 (m0 m1 : SeqInsIndAct2) : Except EqFailure Bool :=
  both (pure (m0.insIndId = m1.insIndId)) <|
    eqSized 0 65535 eqRanParamReq m0.ranParamReq m1.ranParamReq

/-- The numbers of actions are not compared. -/
def eqSeqInsStyle2 (m0 m1 : SeqInsStyle2) : Except EqFailure Bool :=
  both (pure (m0.indInsStyle = m1.indInsStyle)) <| do
    assertSizes 1 63 m0.seqInsIndAct m1.seqInsIndAct
    eqUpTo .outside eqSeqInsIndAct2 m0.seqInsIndAct m1.seqInsIndAct

def eqIndMsg : IndMsg → IndMsg → Except EqFailure Bool
  | .frmt1 lst0, .frmt1 lst1 => eqCounted (insisted eqSeqRanParam) lst0 lst1
  | .frmt2 lst0, .frmt2 lst1 => eqCounted (insisted eqSeqUeId) lst0 lst1
  | .frmt3 lst0, .frmt3 lst1 => eqCounted (insisted eqSeqCellInfo) lst0 lst1
  | .frmt4 m0, .frmt4 m1 => eqIndMsgFrmt4 m0 m1
  | .frmt5 lst0, .frmt5 lst1 => eqCounted (insisted eqSeqRanParam) lst0 lst1
  | .frmt6 lst0, .frmt6 lst1 =>
      eqSized 1 63 (insisted eqSeqInsStyle2) lst0 lst1
  | _, _ => pure false

end FlexRic.Rc
