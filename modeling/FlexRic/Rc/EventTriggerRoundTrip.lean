import FlexRic.Rc.EventTrigger

/-! # Event triggers survive their codec

A trigger comes back just when nothing is there that is not implemented and the numbers
and the lengths are those that both sides take. The third format is the one where the
encoder does not check the length, and loses what is not implemented.
-/

namespace FlexRic.Rc

open Asn (Fault)
open E2sm (longOf16 low16)

@[simp] theorem networkInterfaceType_back (type : NetworkInterfaceType) :
    NetworkInterfaceType.ofNumber type.number = .ok type := by
  cases type <;> rfl

@[simp] theorem rrcMsgTypeLte_back (lte : LteRrcClass) :
    decRrcMsgTypeLte (cpRrcMsgTypeLte lte) = .ok lte := by
  cases lte <;> rfl

@[simp] theorem rrcMsgTypeNr_back (nr : NrRrcClass) :
    decRrcMsgTypeNr (cpRrcMsgTypeNr nr) = .ok nr := by
  cases nr <;> rfl

@[simp] theorem rrcStateE2smRc_back (state : RrcStateE2smRc) :
    RrcStateE2smRc.ofNumber state.number = .ok state := by
  cases state <;> rfl

/-- Two bytes that are not zero pass the check of the decoder. -/
theorem longOf16_range {x : UInt16} (pos : 0 < x) : 0 < longOf16 x ∧ longOf16 x < 65536 :=
  ⟨(E2sm.longOf16_pos x).mpr pos, E2sm.longOf16_lt x⟩

/-- A message type comes back when nothing but the type of a network interface is given. -/
def MsgTypeKept : MsgTypeEvTrg → Prop
  | .net face => face.niId = none ∧ face.niMsgId = none
  | .rrcMsg _ => True

theorem msgTypeNi_back_iff (src : NetworkInterfaceE2rc) :
    (cpMsgTypeNi src >>= decMsgTypeNi) = .ok src ↔ src.niId = none ∧ src.niMsgId = none := by
  obtain ⟨type, id, msgId⟩ := src
  simp only [cpMsgTypeNi, decMsgTypeNi, bind_eq_ok, check_eq_ok, pure_eq_ok,
    NetworkInterfaceE2rc.mk.injEq]
  constructor
  · rintro ⟨_, ⟨_, idAbsent, _, msgAbsent, rfl⟩, -⟩
    exact ⟨idAbsent, msgAbsent⟩
  · rintro ⟨rfl, rfl⟩
    exact ⟨_, ⟨(), rfl, (), rfl, rfl⟩, type, networkInterfaceType_back type, (), rfl, (), rfl, rfl,
      rfl, rfl⟩

theorem rrcType_back (type : RrcMessageClass) (id : UInt64) :
    decRrcType (cpMsgTypeRrc ⟨type, id⟩).rrcType = .ok type := by
  cases type with
  | lte lte => exact map_eq_ok.mpr ⟨lte, rrcMsgTypeLte_back lte, rfl⟩
  | nr nr => exact map_eq_ok.mpr ⟨nr, rrcMsgTypeNr_back nr, rfl⟩

@[simp] theorem msgTypeRrc_back (src : RrcMsgId) : decMsgTypeRrc (cpMsgTypeRrc src) = .ok src := by
  obtain ⟨type, id⟩ := src
  rw [decMsgTypeRrc, rrcType_back, ok_bind]
  rfl

theorem msgType_back_iff (src : MsgTypeEvTrg) :
    (cpMsgType src >>= decMsgType) = .ok src ↔ MsgTypeKept src := by
  cases src with
  | net face =>
      refine (map_back_iff cpMsgTypeNi decMsgTypeNi MessageTypeChoice.ni decMsgType
        MsgTypeEvTrg.net (fun _ => rfl) fun _ _ => MsgTypeEvTrg.net.inj).trans ?_
      exact msgTypeNi_back_iff face
  | rrcMsg rrcMsg =>
      refine iff_of_true ?_ trivial
      rw [cpMsgType, pure_bind, decMsgType, msgTypeRrc_back]
      rfl

structure MsgEvTrgKept (src : MsgEvTrg) : Prop where
  evTriggerCondId : 0 < src.evTriggerCondId
  msgType : MsgTypeKept src.msgType
  msgDir : src.msgDir = none
  assocUeInfo : src.assocUeInfo = none
  logOr : src.logOr = none

theorem msgEvTrg_back_iff (src : MsgEvTrg) :
    (cpRcEvTriggerFormat1It src >>= decRcEvTriggerFormat1It) = .ok src ↔ MsgEvTrgKept src := by
  obtain ⟨condId, msgType, msgDir, assocUeInfo, logOr⟩ := src
  simp only [cpRcEvTriggerFormat1It, decRcEvTriggerFormat1It, bind_eq_ok, check_eq_ok, pure_eq_ok,
    MsgEvTrg.mk.injEq]
  constructor
  · rintro ⟨_, ⟨_, pos, asn, taken, _, dirAbsent, _, ueAbsent, _, orAbsent, rfl⟩, _, -, _, back, _,
      -, _, -, _, -, -, rfl, -⟩
    exact
      { evTriggerCondId := pos
        msgType := (msgType_back_iff _).mp (bind_eq_ok.mpr ⟨asn, taken, back⟩)
        msgDir := dirAbsent
        assocUeInfo := ueAbsent
        logOr := orAbsent }
  · rintro ⟨pos, typeKept, rfl, rfl, rfl⟩
    obtain ⟨asn, taken, back⟩ := bind_eq_ok.mp ((msgType_back_iff msgType).mpr typeKept)
    exact ⟨_, ⟨(), pos, asn, taken, (), rfl, (), rfl, (), rfl, rfl⟩, (), longOf16_range pos,
      msgType,
      back, (), rfl, (), rfl, (), rfl, E2sm.low16_longOf16 condId, rfl, rfl, rfl, rfl⟩

structure EvTrgFrmt1Kept (src : EvTrgFrmt1) : Prop where
  count : CountFits src.msgEvTrg
  msgEvTrg : ∀ msg ∈ src.msgEvTrg, MsgEvTrgKept msg
  globalAssocUeInfo : src.globalAssocUeInfo = none

theorem evTrgFrmt1_back_iff (src : EvTrgFrmt1) :
    (cpRcEvTriggerFormat1 src >>= decRcEvTriggerFormat1) = .ok src ↔ EvTrgFrmt1Kept src := by
  obtain ⟨msgs, global⟩ := src
  simp only [cpRcEvTriggerFormat1, decRcEvTriggerFormat1, bind_eq_ok, check_eq_ok, pure_eq_ok,
    EvTrgFrmt1.mk.injEq]
  constructor
  · rintro ⟨_, ⟨items, taken, _, absent, rfl⟩, _, back, _, -, rfl, -⟩
    obtain ⟨count, each⟩ := (within_kept_iff msgEvTrg_back_iff).mp ⟨items, taken, back⟩
    exact
      { count := count
        msgEvTrg := each
        globalAssocUeInfo := absent }
  · rintro ⟨count, each, rfl⟩
    obtain ⟨items, taken, back⟩ := (within_kept_iff msgEvTrg_back_iff).mpr ⟨count, each⟩
    exact ⟨_, ⟨items, taken, (), rfl, rfl⟩, msgs, back, (), rfl, rfl, rfl⟩

structure EvTrgFrmt2Kept (src : EvTrgFrmt2) : Prop where
  callProcTypeId : 0 < src.callProcTypeId
  callBreakId : 0 < src.callBreakId
  assocE2NodeInfo : src.assocE2NodeInfo = none
  assocUeInfo : src.assocUeInfo = none

theorem evTrgFrmt2_back_iff (src : EvTrgFrmt2) :
    (cpRcEvTriggerFormat2 src >>= decRcEvTriggerFormat2) = .ok src ↔ EvTrgFrmt2Kept src := by
  obtain ⟨typeId, breakId, nodeInfo, ueInfo⟩ := src
  simp only [cpRcEvTriggerFormat2, decRcEvTriggerFormat2, bind_eq_ok, check_eq_ok, pure_eq_ok,
    EvTrgFrmt2.mk.injEq]
  constructor
  · rintro ⟨_, ⟨_, typePos, _, breakPos, _, nodeAbsent, _, ueAbsent, rfl⟩, -⟩
    exact
      { callProcTypeId := typePos
        callBreakId := breakPos
        assocE2NodeInfo := nodeAbsent
        assocUeInfo := ueAbsent }
  · rintro ⟨typePos, breakPos, rfl, rfl⟩
    exact ⟨_, ⟨(), typePos, (), breakPos, (), rfl, (), rfl, rfl⟩, (), longOf16_range typePos, (),
      longOf16_range breakPos, (), rfl, (), rfl, E2sm.low16_longOf16 typeId,
      E2sm.low16_longOf16 breakId, rfl, rfl⟩

structure E2NodeInfoChngKept (src : E2NodeInfoChng) : Prop where
  evTriggerCondId : 0 < src.evTriggerCondId
  e2NodeInfoChngId : 0 < src.e2NodeInfoChngId ∧ src.e2NodeInfoChngId < 513
  evTriggerCellInfo : src.evTriggerCellInfo = none
  logOr : src.logOr = none

theorem longOf16_lt_513 {x : UInt16} (small : x < 513) : longOf16 x < 513 := by
  rw [Int64.lt_iff_toInt_lt, E2sm.toInt_longOf16]
  exact Int.ofNat_lt.mpr (UInt16.lt_iff_toNat_lt.mp small)

theorem e2NodeInfoChng_back_iff (src : E2NodeInfoChng) :
    (cpRcEvTriggerFormat3It src >>= decE2NodeInfoChng) = .ok src ↔ E2NodeInfoChngKept src := by
  obtain ⟨condId, chngId, cellInfo, logOr⟩ := src
  simp only [cpRcEvTriggerFormat3It, decE2NodeInfoChng, bind_eq_ok, check_eq_ok, pure_eq_ok,
    E2NodeInfoChng.mk.injEq]
  constructor
  · rintro ⟨_, ⟨_, pos, _, range, rfl⟩, _, -, _, -, _, -, _, -, -, -, cellSame, orSame⟩
    exact
      { evTriggerCondId := pos
        e2NodeInfoChngId := range
        evTriggerCellInfo := cellSame.symm
        logOr := orSame.symm }
  · rintro ⟨pos, range, rfl, rfl⟩
    have read : 0 < longOf16 chngId ∧ longOf16 chngId < 513 :=
      ⟨(E2sm.longOf16_pos chngId).mpr range.1, longOf16_lt_513 range.2⟩
    exact ⟨_, ⟨(), pos, (), range, rfl⟩, (), longOf16_range pos, (), read, (), rfl, (), rfl,
      E2sm.low16_longOf16 condId, E2sm.low16_longOf16 chngId, rfl, rfl⟩

/-- The length is checked when the trigger is read, and only then. -/
theorem evTrgFrmt3_back_iff (src : List E2NodeInfoChng) :
    (cpRcEvTriggerFormat3 src >>= decRcEvTriggerFormat3) = .ok src ↔
      CountFits src ∧ ∀ chng ∈ src, E2NodeInfoChngKept chng := by
  rw [bind_eq_ok]
  exact counted_kept_iff_of_mem fun chng _ => e2NodeInfoChng_back_iff chng

theorem rrcState_back_iff (src : RrcState) :
    (encRrcState src >>= decRrcState) = .ok src ↔ src.logOr = none := by
  obtain ⟨state, logOr⟩ := src
  simp only [encRrcState, decRrcState, bind_eq_ok, check_eq_ok, pure_eq_ok, RrcState.mk.injEq]
  constructor
  · rintro ⟨_, ⟨_, absent, rfl⟩, -⟩
    exact absent
  · rintro rfl
    exact ⟨_, ⟨(), rfl, rfl⟩, state, rrcStateE2smRc_back state, (), rfl, rfl, rfl⟩

/-- What of a change comes back. The id of a changed UE id may be zero. -/
def TriggerKept : UeInfoChngTrigger → Prop
  | .rrcState states =>
      (1 ≤ states.length ∧ states.length ≤ 8) ∧ ∀ state ∈ states, state.logOr = none
  | .ueIdChng _ => True
  | .l2State tests => (1 ≤ tests.length ∧ tests.length ≤ 255) ∧ ∀ test ∈ tests, TestKept test

theorem trigger_back_iff (src : UeInfoChngTrigger) :
    (cpTriggerType src >>= decTriggerType) = .ok src ↔ TriggerKept src := by
  cases src with
  | rrcState states =>
      refine (map_back_iff (mapMWithin 1 8 .bound encRrcState) (mapMWithin 1 8 .bound decRrcState)
        TriggerTypeChoice.rrcState decTriggerType UeInfoChngTrigger.rrcState (fun _ => rfl)
        fun _ _ => UeInfoChngTrigger.rrcState.inj).trans ?_
      rw [bind_eq_ok]
      exact within_kept_iff rrcState_back_iff
  | ueIdChng id =>
      refine iff_of_true ?_ trivial
      rw [cpTriggerType, pure_bind, decTriggerType, E2sm.low16_longOf16]
      rfl
  | l2State tests =>
      refine (map_back_iff (mapMWithin 1 255 .bound encRanParamTest)
        (mapMWithin 1 255 .bound decRanParamTest) TriggerTypeChoice.l2State decTriggerType
        UeInfoChngTrigger.l2State (fun _ => rfl) fun _ _ => UeInfoChngTrigger.l2State.inj).trans ?_
      rw [bind_eq_ok]
      exact within_kept_iff test_back_iff

structure UeInfoChngKept (src : UeInfoChng) : Prop where
  evTrigCondId : 0 < src.evTrigCondId
  trigger : TriggerKept src.trigger
  assocUeInfo : src.assocUeInfo = none
  logOr : src.logOr = none

theorem ueInfoChng_back_iff (src : UeInfoChng) :
    (cpRcEvTriggerFormat4It src >>= decUeInfoChng) = .ok src ↔ UeInfoChngKept src := by
  obtain ⟨condId, trigger, assocUeInfo, logOr⟩ := src
  simp only [cpRcEvTriggerFormat4It, decUeInfoChng, bind_eq_ok, check_eq_ok, pure_eq_ok,
    UeInfoChng.mk.injEq]
  constructor
  · rintro ⟨_, ⟨_, pos, asn, taken, _, ueAbsent, _, orAbsent, rfl⟩, _, -, _, back, _, -, _, -, -,
      rfl, -⟩
    exact
      { evTrigCondId := pos
        trigger := (trigger_back_iff _).mp (bind_eq_ok.mpr ⟨asn, taken, back⟩)
        assocUeInfo := ueAbsent
        logOr := orAbsent }
  · rintro ⟨pos, kept, rfl, rfl⟩
    obtain ⟨asn, taken, back⟩ := bind_eq_ok.mp ((trigger_back_iff trigger).mpr kept)
    exact ⟨_, ⟨(), pos, asn, taken, (), rfl, (), rfl, rfl⟩, (), longOf16_range pos, trigger, back,
      (), rfl, (), rfl, E2sm.low16_longOf16 condId, rfl, rfl, rfl⟩

theorem evTrgFrmt4_back_iff (src : List UeInfoChng) :
    (cpRcEvTriggerFormat4 src >>= decRcEvTriggerFormat4) = .ok src ↔
      CountFits src ∧ ∀ chng ∈ src, UeInfoChngKept chng := by
  rw [bind_eq_ok]
  exact within_kept_iff ueInfoChng_back_iff

structure EvTrgFrmt5Kept (src : EvTrgFrmt5) : Prop where
  assocUeInfo : src.assocUeInfo = none
  assocCellInfo : src.assocCellInfo = none

theorem evTrgFrmt5_back_iff (src : EvTrgFrmt5) :
    (cpRcEvTriggerFormat5 src >>= decRcEvTriggerFormat5) = .ok src ↔ EvTrgFrmt5Kept src := by
  obtain ⟨ueInfo, cellInfo⟩ := src
  simp only [cpRcEvTriggerFormat5, decRcEvTriggerFormat5, bind_eq_ok, check_eq_ok, pure_eq_ok,
    EvTrgFrmt5.mk.injEq]
  constructor
  · rintro ⟨_, ⟨_, ueAbsent, _, cellAbsent, rfl⟩, -⟩
    exact
      { assocUeInfo := ueAbsent
        assocCellInfo := cellAbsent }
  · rintro ⟨rfl, rfl⟩
    exact ⟨_, ⟨(), rfl, (), rfl, rfl⟩, (), rfl, (), rfl, (), rfl, rfl, rfl⟩

/-- What of an event trigger comes back. -/
def EventTriggerKept : EventTrigger → Prop
  | .frmt1 frmt => EvTrgFrmt1Kept frmt
  | .frmt2 frmt => EvTrgFrmt2Kept frmt
  | .frmt3 chngs => CountFits chngs ∧ ∀ chng ∈ chngs, E2NodeInfoChngKept chng
  | .frmt4 chngs => CountFits chngs ∧ ∀ chng ∈ chngs, UeInfoChngKept chng
  | .frmt5 frmt => EvTrgFrmt5Kept frmt

theorem eventTrigger_back_iff (src : EventTrigger) :
    (eventTriggerUnit src >>= eventTriggerOf) = .ok src ↔ EventTriggerKept src := by
  cases src with
  | frmt1 frmt =>
      refine (map_back_iff cpRcEvTriggerFormat1 decRcEvTriggerFormat1 EventTriggerAsn.format1
        eventTriggerOf EventTrigger.frmt1 (fun _ => rfl) fun _ _ => EventTrigger.frmt1.inj).trans ?_
      exact evTrgFrmt1_back_iff frmt
  | frmt2 frmt =>
      refine (map_back_iff cpRcEvTriggerFormat2 decRcEvTriggerFormat2 EventTriggerAsn.format2
        eventTriggerOf EventTrigger.frmt2 (fun _ => rfl) fun _ _ => EventTrigger.frmt2.inj).trans ?_
      exact evTrgFrmt2_back_iff frmt
  | frmt3 chngs =>
      refine (map_back_iff cpRcEvTriggerFormat3 decRcEvTriggerFormat3 EventTriggerAsn.format3
        eventTriggerOf EventTrigger.frmt3 (fun _ => rfl) fun _ _ => EventTrigger.frmt3.inj).trans ?_
      exact evTrgFrmt3_back_iff chngs
  | frmt4 chngs =>
      refine (map_back_iff cpRcEvTriggerFormat4 decRcEvTriggerFormat4 EventTriggerAsn.format4
        eventTriggerOf EventTrigger.frmt4 (fun _ => rfl) fun _ _ => EventTrigger.frmt4.inj).trans ?_
      exact evTrgFrmt4_back_iff chngs
  | frmt5 frmt =>
      refine (map_back_iff cpRcEvTriggerFormat5 decRcEvTriggerFormat5 EventTriggerAsn.format5
        eventTriggerOf EventTrigger.frmt5 (fun _ => rfl) fun _ _ => EventTrigger.frmt5.inj).trans ?_
      exact evTrgFrmt5_back_iff frmt

theorem eventTrigger_packed_iff {p : Packing EventTriggerAsn} {src : EventTrigger}
    (carries : p.Carries subscriptionRoom eventTriggerUnit src) :
    (rcEncEventTriggerAsn p src >>= rcDecEventTriggerAsn p) = .ok src ↔ EventTriggerKept src := by
  rw [rcEncEventTriggerAsn, rcDecEventTriggerAsn, packed_back carries]
  exact eventTrigger_back_iff src

/-- An event trigger comes back from its bytes just where each of its parts does. -/
theorem event_trigger_back_iff :
    ∀ p (src : EventTrigger), p.Carries subscriptionRoom eventTriggerUnit src →
      ((rcEncEventTriggerAsn p src >>= rcDecEventTriggerAsn p) = .ok src ↔
        EventTriggerKept src) := by
  intro p src carries
  exact eventTrigger_packed_iff carries

/-- The first breakpoint of the first call process, as its bytes. -/
theorem event_trigger_back_breakpoint :
    ∃ unit, (rcEncEventTriggerAsn (.always unit 8 [0, 0, 0, 0, 0, 0])
        (.frmt2 ⟨1, 1, none, none⟩) >>=
      rcDecEventTriggerAsn (.always unit 8 [0, 0, 0, 0, 0, 0])) =
        .ok (.frmt2 ⟨1, 1, none, none⟩) := by
  have short : [8, 0, 0, 0, 0, 0, (0 : UInt8)].length ≤ subscriptionRoom := by decide
  refine ⟨_, (event_trigger_back_iff _ _ (Packing.always_carries rfl short)).mpr ?_⟩
  exact
    { callProcTypeId := by decide
      callBreakId := by decide
      assocE2NodeInfo := rfl
      assocUeInfo := rfl }

end FlexRic.Rc
