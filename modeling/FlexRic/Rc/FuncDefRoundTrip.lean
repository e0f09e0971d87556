import FlexRic.Rc.ControlRoundTrip
import FlexRic.Rc.FuncDef

/-! # The definition of the RC RAN function survives its codec

A definition comes back when its names and its lists are in their ranges and nothing is there
that is not implemented. The two sides do not have the same bounds everywhere: the longest
name of a call process is refused when it is written, and of the parameters of an outcome
more are written than are read.
-/

namespace FlexRic.Rc

open Asn (Fault)
open E2sm (longOf16 low16 longOf32 low32)
open Kpm (RanFunctionName)
open Wire (Bytes)

/-- The range of a name. -/
def NameFits (name : Bytes) : Prop := 0 < name.length ∧ name.length < 151

structure SeqRanParam3Kept (src : SeqRanParam3) : Prop where
  id : 0 < src.id
  name : NameFits src.name
  defn : ∀ d ∈ src.defn, RanParamDefKept d

theorem namedParam_back_iff (src : SeqRanParam3) :
    (encNamedParam src >>= decNamedParam) = .ok src ↔ SeqRanParam3Kept src := by
  obtain ⟨id, name, defn⟩ := src
  simp only [encNamedParam, decNamedParam, checkName, bind_eq_ok, check_eq_ok, pure_eq_ok,
    SeqRanParam3.mk.injEq]
  constructor
  · rintro ⟨_, ⟨_, pos, _, fits, asn, taken, rfl⟩, _, -, _, -, _, back, -, -, rfl⟩
    exact
      { id := pos
        name := fits
        defn := (optional_kept_iff ranParamDef_back_iff).mp ⟨asn, taken, back⟩ }
  · rintro ⟨pos, fits, kept⟩
    obtain ⟨asn, taken, back⟩ := (optional_kept_iff ranParamDef_back_iff).mpr kept
    exact ⟨_, ⟨(), pos, (), fits, asn, taken, rfl⟩, (), (E2sm.toUInt64_pos id).mpr pos, (), fits,
      defn, back, UInt32.toUInt32_toUInt64 id, rfl, rfl⟩

/-- Four bytes are below the bound of an id in any case. -/
theorem boundedParam_back_iff (src : SeqRanParam3) :
    (encNamedParam src >>= decBoundedParam) = .ok src ↔ SeqRanParam3Kept src := by
  rw [← namedParam_back_iff]
  simp only [encNamedParam, decBoundedParam, bind_eq_ok, check_eq_ok, pure_eq_ok]
  constructor
  · rintro ⟨asn, taken, _, -, back⟩
    exact ⟨asn, taken, back⟩
  · rintro ⟨_, ⟨_, pos, _, fits, asn, taken, rfl⟩, back⟩
    exact ⟨_, ⟨(), pos, (), fits, asn, taken, rfl⟩, (), E2sm.toUInt64_lt src.id, back⟩

/-- The name is checked when the parameter is read, and only then. -/
theorem insertParam_back_iff (src : SeqRanParam3) :
    (encSeqInsInd3 src >>= decSeqInsInd3) = .ok src ↔ SeqRanParam3Kept src := by
  rw [← namedParam_back_iff]
  simp only [encSeqInsInd3, decSeqInsInd3, encNamedParam, decNamedParam, checkName, bind_eq_ok,
    check_eq_ok, pure_eq_ok]
  constructor
  · rintro ⟨_, ⟨_, pos, asn, taken, rfl⟩, _, positive, _, fits, back⟩
    exact ⟨_, ⟨(), pos, (), fits, asn, taken, rfl⟩, (), positive, (), fits, back⟩
  · rintro ⟨_, ⟨_, pos, _, _, asn, taken, rfl⟩, back⟩
    exact ⟨_, ⟨(), pos, asn, taken, rfl⟩, back⟩

theorem ranFuncName_back_iff (src : RanFunctionName) :
    (∃ asn, encRanFuncName src = .ok asn ∧ decRanFuncName asn = src) ↔ src.instanceId = none := by
  obtain ⟨name, oid, description, instanceId⟩ := src
  simp only [encRanFuncName, bind_eq_ok, check_eq_ok, pure_eq_ok]
  constructor
  · rintro ⟨_, ⟨_, absent, rfl⟩, -⟩
    exact absent
  · rintro rfl
    exact ⟨_, ⟨(), rfl, rfl⟩, rfl⟩

theorem seqEvTrgStyle_back_iff (src : SeqEvTrgStyle) :
    (encRanFuncDefEvTrgStyIt src >>= decSeqEvTrgStyle) = .ok src ↔ NameFits src.name := by
  obtain ⟨style, name, format⟩ := src
  simp only [encRanFuncDefEvTrgStyIt, decSeqEvTrgStyle, checkName, bind_eq_ok, check_eq_ok,
    pure_eq_ok, SeqEvTrgStyle.mk.injEq]
  constructor
  · rintro ⟨_, ⟨_, fits, -⟩, -⟩
    exact fits
  · intro fits
    exact ⟨_, ⟨(), fits, rfl⟩, (), fits, E2sm.low32_longOf32 style, rfl,
      E2sm.low32_longOf32 format⟩

structure CallProcBreakKept (src : CallProcBreak) : Prop where
  id : 0 < src.id
  name : NameFits src.name
  param : ∀ param ∈ src.param, SeqRanParam3Kept param

theorem callProcBreak_back_iff (src : CallProcBreak) :
    (encCallProcBreak src >>= decCallProcBreak) = .ok src ↔ CallProcBreakKept src := by
  obtain ⟨id, name, params⟩ := src
  simp only [encCallProcBreak, decCallProcBreak, checkName, bind_eq_ok, check_eq_ok, pure_eq_ok,
    CallProcBreak.mk.injEq]
  constructor
  · rintro ⟨_, ⟨_, pos, _, fits, asn, taken, rfl⟩, _, -, _, -, _, back, -, -, rfl⟩
    exact
      { id := pos
        name := fits
        param := (orNull_list_kept_iff boundedParam_back_iff).mp ⟨asn, taken, back⟩ }
  · rintro ⟨pos, fits, kept⟩
    obtain ⟨asn, taken, back⟩ := (orNull_list_kept_iff boundedParam_back_iff).mpr kept
    exact ⟨_, ⟨(), pos, (), fits, asn, taken, rfl⟩, (), longOf16_range pos, (), fits, params, back,
      E2sm.low16_longOf16 id, rfl, rfl⟩

/-- The name has one byte less than a name may have. -/
structure SeqCallProcTypeKept (src : SeqCallProcType) : Prop where
  id : 0 < src.id
  name : 0 < src.name.length ∧ src.name.length < 150
  count : CountFits src.callProcBreak
  callProcBreak : ∀ point ∈ src.callProcBreak, CallProcBreakKept point

theorem seqCallProcType_back_iff (src : SeqCallProcType) :
    (encSeqCallProcType src >>= decSeqCallProcType) = .ok src ↔ SeqCallProcTypeKept src := by
  obtain ⟨id, name, points⟩ := src
  simp only [encSeqCallProcType, decSeqCallProcType, checkName, bind_eq_ok, check_eq_ok,
    pure_eq_ok, SeqCallProcType.mk.injEq]
  constructor
  · rintro ⟨_, ⟨_, pos, _, fits, asn, taken, rfl⟩, _, -, _, -, _, back, -, -, rfl⟩
    obtain ⟨count, each⟩ := (within_kept_iff callProcBreak_back_iff).mp ⟨asn, taken, back⟩
    exact
      { id := pos
        name := fits
        count := count
        callProcBreak := each }
  · rintro ⟨pos, fits, count, each⟩
    obtain ⟨asn, taken, back⟩ := (within_kept_iff callProcBreak_back_iff).mpr ⟨count, each⟩
    exact ⟨_, ⟨(), pos, (), fits, asn, taken, rfl⟩, (), longOf16_range pos, (),
      ⟨fits.1, Nat.lt_succ_of_lt fits.2⟩, points, back, E2sm.low16_longOf16 id, rfl, rfl⟩

/-- There are some styles, and not too many. -/
def StylesFit {α : Type} (styles : List α) : Prop := 1 ≤ styles.length ∧ styles.length ≤ 63

structure RanFuncDefEvTrigKept (src : RanFuncDefEvTrig) : Prop where
  count : StylesFit src.seqEvTrgStyle
  seqEvTrgStyle : ∀ style ∈ src.seqEvTrgStyle, NameFits style.name
  seqRanParamL2Var : ∀ param ∈ src.seqRanParamL2Var, SeqRanParam3Kept param
  seqCallProcType : ∀ type ∈ src.seqCallProcType, SeqCallProcTypeKept type
  seqRanParamIdUe : ∀ param ∈ src.seqRanParamIdUe, SeqRanParam3Kept param
  seqRanParamIdCell : ∀ param ∈ src.seqRanParamIdCell, SeqRanParam3Kept param

theorem ranFuncDefEvTrig_back_iff (src : RanFuncDefEvTrig) :
    (encRanFuncDefEvTrg src >>= decRanFunDefEvTrg) = .ok src ↔ RanFuncDefEvTrigKept src := by
  obtain ⟨styles, l2Vars, types, ues, cells⟩ := src
  simp only [encRanFuncDefEvTrg, decRanFunDefEvTrg, bind_eq_ok, pure_eq_ok,
    RanFuncDefEvTrig.mk.injEq]
  constructor
  · rintro ⟨_, ⟨stylesAsn, stylesTaken, l2Asn, l2Taken, typesAsn, typesTaken, uesAsn, uesTaken,
      cellsAsn, cellsTaken, rfl⟩, _, stylesBack, _, l2Back, _, typesBack, _, uesBack, _, cellsBack,
      rfl, rfl, rfl, rfl, rfl⟩
    obtain ⟨count, each⟩ :=
      (within_kept_iff seqEvTrgStyle_back_iff).mp ⟨stylesAsn, stylesTaken, stylesBack⟩
    exact
      { count := count
        seqEvTrgStyle := each
        seqRanParamL2Var :=
          (orNull_list_kept_iff boundedParam_back_iff).mp ⟨l2Asn, l2Taken, l2Back⟩
        seqCallProcType :=
          (orNull_list_kept_iff seqCallProcType_back_iff).mp ⟨typesAsn, typesTaken, typesBack⟩
        seqRanParamIdUe :=
          (orNull_list_kept_iff boundedParam_back_iff).mp ⟨uesAsn, uesTaken, uesBack⟩
        seqRanParamIdCell :=
          (orNull_list_kept_iff boundedParam_back_iff).mp ⟨cellsAsn, cellsTaken, cellsBack⟩ }
  · rintro ⟨count, each, l2Kept, typesKept, uesKept, cellsKept⟩
    obtain ⟨stylesAsn, stylesTaken, stylesBack⟩ :=
      (within_kept_iff seqEvTrgStyle_back_iff).mpr ⟨count, each⟩
    obtain ⟨l2Asn, l2Taken, l2Back⟩ := (orNull_list_kept_iff boundedParam_back_iff).mpr l2Kept
    obtain ⟨typesAsn, typesTaken, typesBack⟩ :=
      (orNull_list_kept_iff seqCallProcType_back_iff).mpr typesKept
    obtain ⟨uesAsn, uesTaken, uesBack⟩ := (orNull_list_kept_iff boundedParam_back_iff).mpr uesKept
    obtain ⟨cellsAsn, cellsTaken, cellsBack⟩ :=
      (orNull_list_kept_iff boundedParam_back_iff).mpr cellsKept
    exact ⟨_, ⟨stylesAsn, stylesTaken, l2Asn, l2Taken, typesAsn, typesTaken, uesAsn, uesTaken,
      cellsAsn, cellsTaken, rfl⟩, styles, stylesBack, l2Vars, l2Back, types, typesBack, ues,
      uesBack, cells, cellsBack, rfl, rfl, rfl, rfl, rfl⟩

structure SeqReportStyKept (src : SeqReportSty) : Prop where
  name : NameFits src.name
  count : src.ranParam.length ≤ 65535
  ranParam : ∀ param ∈ src.ranParam, SeqRanParam3Kept param

theorem seqReportSty_back_iff (src : SeqReportSty) :
    (encSeqReportSty src >>= decSeqReportSty) = .ok src ↔ SeqReportStyKept src := by
  obtain ⟨report, name, trigger, action, hdr, msg, params⟩ := src
  simp only [encSeqReportSty, decSeqReportSty, checkName, bind_eq_ok, check_eq_ok, pure_eq_ok,
    SeqReportSty.mk.injEq]
  constructor
  · rintro ⟨_, ⟨_, fits, asn, taken, rfl⟩, _, -, _, back, -, -, -, -, -, -, rfl⟩
    obtain ⟨count, each⟩ := (orNull_within_kept_iff namedParam_back_iff).mp ⟨asn, taken, back⟩
    exact
      { name := fits
        count := count
        ranParam := each }
  · rintro ⟨fits, count, each⟩
    obtain ⟨asn, taken, back⟩ := (orNull_within_kept_iff namedParam_back_iff).mpr ⟨count, each⟩
    exact ⟨_, ⟨(), fits, asn, taken, rfl⟩, (), fits, params, back, E2sm.low32_longOf32 report, rfl,
      E2sm.low32_longOf32 trigger, E2sm.low32_longOf32 action, E2sm.low32_longOf32 hdr,
      E2sm.low32_longOf32 msg, rfl⟩

structure SeqInsIndKept (src : SeqInsInd) : Prop where
  id : 0 < src.id
  name : NameFits src.name
  count : src.seqInsInd.length ≤ 65535
  seqInsInd : ∀ param ∈ src.seqInsInd, SeqRanParam3Kept param

theorem seqInsInd_back_iff (src : SeqInsInd) :
    (encSeqInsInd src >>= decSeqInsInd) = .ok src ↔ SeqInsIndKept src := by
  obtain ⟨id, name, params⟩ := src
  simp only [encSeqInsInd, decSeqInsInd, checkName, bind_eq_ok, check_eq_ok, pure_eq_ok,
    SeqInsInd.mk.injEq]
  constructor
  · rintro ⟨_, ⟨_, pos, _, fits, asn, taken, rfl⟩, _, -, _, -, _, back, -, -, rfl⟩
    obtain ⟨count, each⟩ := (orNull_checked_kept_iff insertParam_back_iff).mp ⟨asn, taken, back⟩
    exact
      { id := pos
        name := fits
        count := count
        seqInsInd := each }
  · rintro ⟨pos, fits, count, each⟩
    obtain ⟨asn, taken, back⟩ := (orNull_checked_kept_iff insertParam_back_iff).mpr ⟨count, each⟩
    exact ⟨_, ⟨(), pos, (), fits, asn, taken, rfl⟩, (), (longOf16_range pos).1, (), fits, params,
      back, E2sm.low16_longOf16 id, rfl, rfl⟩

structure SeqInsStyKept (src : SeqInsSty) : Prop where
  name : NameFits src.name
  count : src.seqInsInd.length ≤ 65535
  seqInsInd : ∀ ind ∈ src.seqInsInd, SeqInsIndKept ind

theorem seqInsSty_back_iff (src : SeqInsSty) :
    (encSeqInsSty src >>= decSeqInsSty) = .ok src ↔ SeqInsStyKept src := by
  obtain ⟨style, name, trigger, action, inds, hdr, msg, process⟩ := src
  simp only [encSeqInsSty, decSeqInsSty, checkName, bind_eq_ok, check_eq_ok, pure_eq_ok,
    SeqInsSty.mk.injEq]
  constructor
  · rintro ⟨_, ⟨_, fits, asn, taken, rfl⟩, _, -, _, back, -, -, -, -, rfl, -⟩
    obtain ⟨count, each⟩ := (orNull_counted_kept_iff seqInsInd_back_iff).mp ⟨asn, taken, back⟩
    exact
      { name := fits
        count := count
        seqInsInd := each }
  · rintro ⟨fits, count, each⟩
    obtain ⟨asn, taken, back⟩ := (orNull_counted_kept_iff seqInsInd_back_iff).mpr ⟨count, each⟩
    exact ⟨_, ⟨(), fits, asn, taken, rfl⟩, (), fits, inds, back, E2sm.low32_longOf32 style, rfl,
      E2sm.low32_longOf32 trigger, E2sm.low32_longOf32 action, rfl, E2sm.low32_longOf32 hdr,
      E2sm.low32_longOf32 msg, E2sm.low32_longOf32 process⟩

structure SeqCtrlAct2Kept (src : SeqCtrlAct2) : Prop where
  id : 0 < src.id
  name : NameFits src.name
  count : src.assocRanParam.length ≤ 65535
  assocRanParam : ∀ param ∈ src.assocRanParam, SeqRanParam3Kept param

theorem seqCtrlAct2_back_iff (src : SeqCtrlAct2) :
    (encRanFuncDefCtrlActIt src >>= decRanFuncCtrlAct) = .ok src ↔ SeqCtrlAct2Kept src := by
  obtain ⟨id, name, params⟩ := src
  simp only [encRanFuncDefCtrlActIt, decRanFuncCtrlAct, checkName, bind_eq_ok, check_eq_ok,
    pure_eq_ok, SeqCtrlAct2.mk.injEq]
  constructor
  · rintro ⟨_, ⟨_, pos, _, fits, asn, taken, rfl⟩, _, -, _, -, _, back, -, -, rfl⟩
    obtain ⟨count, each⟩ := (orNull_within_kept_iff namedParam_back_iff).mp ⟨asn, taken, back⟩
    exact
      { id := pos
        name := fits
        count := count
        assocRanParam := each }
  · rintro ⟨pos, fits, count, each⟩
    obtain ⟨asn, taken, back⟩ := (orNull_within_kept_iff namedParam_back_iff).mpr ⟨count, each⟩
    exact ⟨_, ⟨(), pos, (), fits, asn, taken, rfl⟩, (), longOf16_range pos, (), fits, params, back,
      E2sm.low16_longOf16 id, rfl, rfl⟩

/-- Of the parameters of an outcome there may be as many as are read. -/
structure SeqCtrlStyleKept (src : SeqCtrlStyle) : Prop where
  name : NameFits src.name
  actions : src.seqCtrlAct.length ≤ 65535
  seqCtrlAct : ∀ action ∈ src.seqCtrlAct, SeqCtrlAct2Kept action
  callProcIdType : src.callProcIdType = none
  outcomes : src.ranParamCtrlOut.length ≤ 255
  ranParamCtrlOut : ∀ param ∈ src.ranParamCtrlOut, SeqRanParam3Kept param

theorem seqCtrlStyle_back_iff (src : SeqCtrlStyle) :
    (encRanFuncDefCtrlIt src >>= decRanFuncCtrlIt) = .ok src ↔ SeqCtrlStyleKept src := by
  obtain ⟨style, name, acts, hdr, msg, process, out, params⟩ := src
  simp only [encRanFuncDefCtrlIt, decRanFuncCtrlIt, checkName, bind_eq_ok, check_eq_ok, pure_eq_ok,
    SeqCtrlStyle.mk.injEq]
  constructor
  · rintro ⟨_, ⟨_, fits, actsAsn, actsTaken, _, absent, paramsAsn, paramsTaken, rfl⟩, _, -, _,
      actsBack, _, -, _, paramsBack, -, -, rfl, -, -, -, -, rfl⟩
    obtain ⟨actions, eachAction⟩ :=
      (orNull_within_kept_iff seqCtrlAct2_back_iff).mp ⟨actsAsn, actsTaken, actsBack⟩
    obtain ⟨-, outcomes, eachParam⟩ :=
      (orNull_withins_kept_iff namedParam_back_iff).mp ⟨paramsAsn, paramsTaken, paramsBack⟩
    exact
      { name := fits
        actions := actions
        seqCtrlAct := eachAction
        callProcIdType := absent
        outcomes := outcomes
        ranParamCtrlOut := eachParam }
  · rintro ⟨fits, actions, eachAction, rfl, outcomes, eachParam⟩
    obtain ⟨actsAsn, actsTaken, actsBack⟩ :=
      (orNull_within_kept_iff seqCtrlAct2_back_iff).mpr ⟨actions, eachAction⟩
    have written : params.length ≤ 65535 := Nat.le_trans outcomes (by decide)
    obtain ⟨paramsAsn, paramsTaken, paramsBack⟩ :=
      (orNull_withins_kept_iff namedParam_back_iff).mpr ⟨written, outcomes, eachParam⟩
    exact ⟨_, ⟨(), fits, actsAsn, actsTaken, (), rfl, paramsAsn, paramsTaken, rfl⟩, (), fits, acts,
      actsBack, (), rfl, params, paramsBack, E2sm.low32_longOf32 style, rfl, rfl,
      E2sm.low32_longOf32 hdr, E2sm.low32_longOf32 msg, rfl, E2sm.low32_longOf32 out, rfl⟩

structure SeqPolActionKept (src : SeqPolAction) : Prop where
  name : NameFits src.name
  actions : src.seqAssocRpAction.length ≤ 65535
  seqAssocRpAction : ∀ param ∈ src.seqAssocRpAction, SeqRanParam3Kept param
  conditions : src.seqAssocRpPolicy.length ≤ 65535
  seqAssocRpPolicy : ∀ param ∈ src.seqAssocRpPolicy, SeqRanParam3Kept param

theorem seqPolAction_back_iff (src : SeqPolAction) :
    (encRanFuncDefPolAct src >>= decSeqPolActionIt) = .ok src ↔ SeqPolActionKept src := by
  obtain ⟨id, name, format, acts, conds⟩ := src
  simp only [encRanFuncDefPolAct, decSeqPolActionIt, checkName, bind_eq_ok, check_eq_ok,
    pure_eq_ok, SeqPolAction.mk.injEq]
  constructor
  · rintro ⟨_, ⟨_, fits, actsAsn, actsTaken, condsAsn, condsTaken, rfl⟩, _, -, _, actsBack, _,
      condsBack, -, -, -, rfl, rfl⟩
    obtain ⟨actions, eachAction⟩ :=
      (orNull_within_kept_iff namedParam_back_iff).mp ⟨actsAsn, actsTaken, actsBack⟩
    obtain ⟨conditions, eachCondition⟩ :=
      (orNull_within_kept_iff namedParam_back_iff).mp ⟨condsAsn, condsTaken, condsBack⟩
    exact
      { name := fits
        actions := actions
        seqAssocRpAction := eachAction
        conditions := conditions
        seqAssocRpPolicy := eachCondition }
  · rintro ⟨fits, actions, eachAction, conditions, eachCondition⟩
    obtain ⟨actsAsn, actsTaken, actsBack⟩ :=
      (orNull_within_kept_iff namedParam_back_iff).mpr ⟨actions, eachAction⟩
    obtain ⟨condsAsn, condsTaken, condsBack⟩ :=
      (orNull_within_kept_iff namedParam_back_iff).mpr ⟨conditions, eachCondition⟩
    exact ⟨_, ⟨(), fits, actsAsn, actsTaken, condsAsn, condsTaken, rfl⟩, (), fits, acts, actsBack,
      conds, condsBack, E2sm.low32_longOf32 id, rfl, E2sm.low32_longOf32 format, rfl, rfl⟩

structure SeqPolicyStyKept (src : SeqPolicySty) : Prop where
  name : NameFits src.name
  count : src.seqPolAction.length ≤ 65535
  seqPolAction : ∀ action ∈ src.seqPolAction, SeqPolActionKept action

theorem seqPolicySty_back_iff (src : SeqPolicySty) :
    (encRanFuncDefPolIt src >>= decRanFuncDefPolicyIt) = .ok src ↔ SeqPolicyStyKept src := by
  obtain ⟨style, name, trigger, acts⟩ := src
  simp only [encRanFuncDefPolIt, decRanFuncDefPolicyIt, checkName, bind_eq_ok, check_eq_ok,
    pure_eq_ok, SeqPolicySty.mk.injEq]
  constructor
  · rintro ⟨_, ⟨_, fits, asn, taken, rfl⟩, _, -, _, back, -, -, -, rfl⟩
    obtain ⟨count, each⟩ := (orNull_within_kept_iff seqPolAction_back_iff).mp ⟨asn, taken, back⟩
    exact
      { name := fits
        count := count
        seqPolAction := each }
  · rintro ⟨fits, count, each⟩
    obtain ⟨asn, taken, back⟩ := (orNull_within_kept_iff seqPolAction_back_iff).mpr ⟨count, each⟩
    exact ⟨_, ⟨(), fits, asn, taken, rfl⟩, (), fits, acts, back, E2sm.low32_longOf32 style, rfl,
      E2sm.low32_longOf32 trigger, rfl⟩

/-- What of the styles of one kind comes back. -/
def StylesKept {α : Type} (StyleKept : α → Prop) (styles : List α) : Prop :=
  StylesFit styles ∧ ∀ style ∈ styles, StyleKept style

/-- What of a definition comes back. -/
structure FuncDefKept (src : FuncDef) : Prop where
  instanceId : src.name.instanceId = none
  evTrig : ∀ trigger ∈ src.evTrig, RanFuncDefEvTrigKept trigger
  report : ∀ styles ∈ src.report, StylesKept SeqReportStyKept styles
  insert : ∀ styles ∈ src.insert, StylesKept SeqInsStyKept styles
  ctrl : ∀ styles ∈ src.ctrl, StylesKept SeqCtrlStyleKept styles
  policy : ∀ styles ∈ src.policy, StylesKept SeqPolicyStyKept styles

/-- Four of the five parts are lists of styles that may not be there. -/
theorem styles_back_iff {α β : Type} {enc : α → Except Fault β} {dec : β → Except Fault α}
    {Kept : α → Prop} (kept : ∀ a, (enc a >>= dec) = .ok a ↔ Kept a) (o : Option (List α)) :
    (∃ p, o.mapM (mapMWithin 1 63 .bound enc) = .ok p ∧
      p.mapM (mapMWithin 1 63 .bound dec) = .ok o) ↔ ∀ styles ∈ o, StylesKept Kept styles := by
  apply optional_kept_iff
  intro styles
  rw [bind_eq_ok]
  exact within_kept_iff kept

theorem funcDef_back_iff (src : FuncDef) :
    (funcDefUnit src >>= funcDefOf) = .ok src ↔ FuncDefKept src := by
  obtain ⟨name, evTrig, report, insert, ctrl, policy⟩ := src
  simp only [funcDefUnit, funcDefOf, bind_eq_ok, pure_eq_ok, FuncDef.mk.injEq]
  constructor
  · rintro ⟨_, ⟨nameAsn, nameTaken, triggerAsn, triggerTaken, reportAsn, reportTaken, insertAsn,
      insertTaken, ctrlAsn, ctrlTaken, policyAsn, policyTaken, rfl⟩, _, triggerBack, _, reportBack,
      _, insertBack, _, ctrlBack, _, policyBack, nameBack, rfl, rfl, rfl, rfl, rfl⟩
    exact
      { instanceId := (ranFuncName_back_iff _).mp ⟨nameAsn, nameTaken, nameBack⟩
        evTrig := (optional_kept_iff ranFuncDefEvTrig_back_iff).mp
          ⟨triggerAsn, triggerTaken, triggerBack⟩
        report := (styles_back_iff seqReportSty_back_iff _).mp ⟨reportAsn, reportTaken, reportBack⟩
        insert := (styles_back_iff seqInsSty_back_iff _).mp ⟨insertAsn, insertTaken, insertBack⟩
        ctrl := (styles_back_iff seqCtrlStyle_back_iff _).mp ⟨ctrlAsn, ctrlTaken, ctrlBack⟩
        policy :=
          (styles_back_iff seqPolicySty_back_iff _).mp ⟨policyAsn, policyTaken, policyBack⟩ }
  · rintro ⟨alone, triggerKept, reportKept, insertKept, ctrlKept, policyKept⟩
    obtain ⟨nameAsn, nameTaken, nameBack⟩ := (ranFuncName_back_iff name).mpr alone
    obtain ⟨triggerAsn, triggerTaken, triggerBack⟩ :=
      (optional_kept_iff ranFuncDefEvTrig_back_iff).mpr triggerKept
    obtain ⟨reportAsn, reportTaken, reportBack⟩ :=
      (styles_back_iff seqReportSty_back_iff report).mpr reportKept
    obtain ⟨insertAsn, insertTaken, insertBack⟩ :=
      (styles_back_iff seqInsSty_back_iff insert).mpr insertKept
    obtain ⟨ctrlAsn, ctrlTaken, ctrlBack⟩ :=
      (styles_back_iff seqCtrlStyle_back_iff ctrl).mpr ctrlKept
    obtain ⟨policyAsn, policyTaken, policyBack⟩ :=
      (styles_back_iff seqPolicySty_back_iff policy).mpr policyKept
    exact ⟨_, ⟨nameAsn, nameTaken, triggerAsn, triggerTaken, reportAsn, reportTaken, insertAsn,
      insertTaken, ctrlAsn, ctrlTaken, policyAsn, policyTaken, rfl⟩, evTrig, triggerBack, report,
      reportBack, insert, insertBack, ctrl, ctrlBack, policy, policyBack, nameBack, rfl, rfl, rfl,
      rfl, rfl⟩

theorem funcDef_packed_iff {p : Packing RanFunctionDefinitionAsn} {src : FuncDef}
    (carries : p.Carries funcDefRoom funcDefUnit src) :
    (rcEncFuncDefAsn p src >>= rcDecFuncDefAsn p) = .ok src ↔ FuncDefKept src := by
  rw [rcEncFuncDefAsn, rcDecFuncDefAsn, packed_back carries]
  exact funcDef_back_iff src

/-- A definition, and an outcome, that keeps to the ranges of its names and lists and has nothing
    that is not implemented is written, and what is written is read as it was. -/
theorem func_def_and_outcome_back :
    (∀ p (src : FuncDef), p.Carries funcDefRoom funcDefUnit src → FuncDefKept src →
      ∃ ba, rcEncFuncDefAsn p src = .ok ba ∧ rcDecFuncDefAsn p ba = .ok src) ∧
    ∀ p (out : CtrlOut), p.Carries controlRoom ctrlOutUnit out → CtrlOutKept out →
      ∃ ba, rcEncCtrlOutAsn p out = .ok ba ∧ rcDecCtrlOutAsn p ba = .ok out := by
  constructor
  · intro p src carries kept
    exact bind_eq_ok.mp ((funcDef_packed_iff carries).mpr kept)
  · intro p out carries kept
    exact bind_eq_ok.mp ((ctrlOut_packed_iff carries).mpr kept)

/-- Style 1 of the reports, all its formats 1, whose one parameter is this. -/
def reportOf (param : SeqRanParam3) : FuncDef where
  name := ⟨[0x52], [0x31], [0x44], none⟩
  evTrig := none
  report := some [⟨1, [0x4E], 1, 1, 1, 1, [param]⟩]
  insert := none
  ctrl := none
  policy := none

/-- Parameter 1 by its name only. -/
def plainReport : FuncDef := reportOf ⟨1, [0x50], none⟩

theorem plainReport_kept : FuncDefKept plainReport := by
  have param : SeqRanParam3Kept ⟨1, [0x50], none⟩ :=
    { id := by decide
      name := ⟨Nat.one_pos, by decide⟩
      defn := by simp }
  have style : SeqReportStyKept ⟨1, [0x4E], 1, 1, 1, 1, [⟨1, [0x50], none⟩]⟩ :=
    { name := ⟨Nat.one_pos, by decide⟩
      count := by decide
      ranParam := List.forall_mem_singleton.mpr param }
  have styles : StylesKept SeqReportStyKept [⟨1, [0x4E], 1, 1, 1, 1, [⟨1, [0x50], none⟩]⟩] :=
    ⟨⟨Nat.le_refl 1, by decide⟩, List.forall_mem_singleton.mpr style⟩
  exact
    { instanceId := rfl
      evTrig := by simp [plainReport, reportOf]
      report := by simpa [plainReport, reportOf] using styles
      insert := by simp [plainReport, reportOf]
      ctrl := by simp [plainReport, reportOf]
      policy := by simp [plainReport, reportOf] }

/-- It in aligned PER. -/
def plainReportPer (unit : RanFunctionDefinitionAsn) : Packing RanFunctionDefinitionAsn :=
  .always unit 0x20 [0x00, 0x00, 0x52, 0x00, 0x00, 0x00, 0x31, 0x00, 0x00, 0x44, 0x00, 0x80, 0x01,
    0x01, 0x00, 0x00, 0x4E, 0x01, 0x01, 0x01, 0x01, 0x01, 0x01, 0x01, 0x01, 0x00, 0x00, 0x00, 0x00,
    0x00, 0x00, 0x50]

/-- Parameter 1 is now true. -/
def nowTrue : CtrlOut := .frmt1 [⟨1, .boolRan true⟩]

theorem nowTrue_kept : CtrlOutKept nowTrue := by
  have positive : (0 : UInt32) < 1 := by decide
  exact ⟨by decide, List.forall_mem_singleton.mpr positive⟩

def nowTruePer (unit : ControlOutcomeAsn) : Packing ControlOutcomeAsn :=
  .always unit 0x00 [0x08, 0x00, 0x00, 0x08]

/-- Both as their bytes. -/
theorem func_def_and_outcome_back_report :
    ∃ defUnit outUnit,
      (∃ ba, rcEncFuncDefAsn (plainReportPer defUnit) plainReport = .ok ba ∧
        rcDecFuncDefAsn (plainReportPer defUnit) ba = .ok plainReport) ∧
      ∃ ba, rcEncCtrlOutAsn (nowTruePer outUnit) nowTrue = .ok ba ∧
        rcDecCtrlOutAsn (nowTruePer outUnit) ba = .ok nowTrue :=
  ⟨_, _,
    func_def_and_outcome_back.1 _ plainReport (Packing.always_carries rfl (by decide))
      plainReport_kept,
    func_def_and_outcome_back.2 _ nowTrue (Packing.always_carries rfl (by decide)) nowTrue_kept⟩

/-- The parameter is a list, of which each item is a list in its turn. -/
def listOfLists : FuncDef :=
  reportOf ⟨1, [0x50], some (.lst [⟨2, [0x51], some (.lst [⟨3, [0x52], none⟩])⟩])⟩

/-- No codec carries it, for the definition inside the other is not implemented. -/
theorem list_of_lists_refused :
    (fun p => rcEncFuncDefAsn p listOfLists) = fun _ => .error .notImplemented := rfl

end FlexRic.Rc
