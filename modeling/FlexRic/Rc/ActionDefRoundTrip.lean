import FlexRic.Rc.ActionDef
import FlexRic.Rc.EventTriggerRoundTrip

/-! # Action definitions survive their codec

A definition comes back just when its ids are not zero, its lists have the lengths that both
sides take, and it has neither a policy condition, nor a decision, nor a UE id.
-/

namespace FlexRic.Rc

open Asn (Fault)
open E2sm (longOf16 low16 longOf32 low32)

/-- What of a parameter and its definition comes back. -/
def DefinedParamKept (id : UInt32) (ranParamDef : Option RanParamDef) : Prop :=
  0 < id ∧ ∀ d ∈ ranParamDef, RanParamDefKept d

/-- Each of the structs with an id and a definition goes by this pair. -/
theorem definedParam_back_iff {α : Type} (wrap : UInt32 × Option RanParamDef → α) {id : UInt32}
    {ranParamDef : Option RanParamDef} (injective : Function.Injective wrap) :
    (encDefinedParam id ranParamDef >>= fun item => wrap <$> decDefinedParam item) =
      .ok (wrap (id, ranParamDef)) ↔ DefinedParamKept id ranParamDef := by
  simp only [encDefinedParam, decDefinedParam, bind_eq_ok, check_eq_ok, pure_eq_ok, map_eq_ok]
  constructor
  · rintro ⟨_, ⟨_, pos, asn, taken, rfl⟩, _, ⟨_, -, _, back, rfl⟩, same⟩
    obtain ⟨-, rfl⟩ := Prod.mk.inj (injective same)
    exact ⟨pos, (optional_kept_iff ranParamDef_back_iff).mp ⟨asn, taken, back⟩⟩
  · rintro ⟨pos, kept⟩
    obtain ⟨asn, taken, back⟩ := (optional_kept_iff ranParamDef_back_iff).mpr kept
    have positive : 0 < id.toUInt64 := (E2sm.toUInt64_pos id).mpr pos
    have narrowed : id.toUInt64.toUInt32 = id := UInt32.toUInt32_toUInt64 id
    exact ⟨_, ⟨(), pos, asn, taken, rfl⟩, _, ⟨(), positive, ranParamDef, back, rfl⟩,
      congrArg (fun x => wrap (x, ranParamDef)) narrowed⟩

theorem paramReportDef_back_iff (src : ParamReportDef) :
    (cpRcActDefFrmt1It src >>= decParamReportDef) = .ok src ↔
      DefinedParamKept src.ranParamId src.ranParamDef := by
  refine definedParam_back_iff (fun param => ParamReportDef.mk param.1 param.2) ?_
  intro a b same
  exact Prod.ext (ParamReportDef.mk.inj same).1 (ParamReportDef.mk.inj same).2

theorem ranParamIns_back_iff (src : RanParamIns) :
    (cpRcActDefFrmt3It src >>= decRanParamIns) = .ok src ↔
      DefinedParamKept src.ranId src.ranDef := by
  refine definedParam_back_iff (fun param => RanParamIns.mk param.1 param.2) ?_
  intro a b same
  exact Prod.ext (RanParamIns.mk.inj same).1 (RanParamIns.mk.inj same).2

theorem ranParamInsInd_back_iff (src : RanParamInsInd) :
    (encRanParamInsInd src >>= decRanParamInsInd) = .ok src ↔
      DefinedParamKept src.ranParamId src.ranParamDef := by
  refine definedParam_back_iff (fun param => RanParamInsInd.mk param.1 param.2) ?_
  intro a b same
  exact Prod.ext (RanParamInsInd.mk.inj same).1 (RanParamInsInd.mk.inj same).2

/-- What of an action comes back. It may have no parameters, but not 65535 of them. -/
structure PolicyActionKept (src : PolicyAction) : Prop where
  policyActId : 0 < src.policyActId
  count : src.seqRanParam.length < 65535
  seqRanParam : ∀ param ∈ src.seqRanParam, SeqRanParamKept param
  polDec : src.polDec = none

theorem policyActionParams_back_iff (params : List SeqRanParam) :
    (∃ o, orNull (·.mapM cpRicPolicyActionRanParam) params = .ok o ∧
      fromNull decPolicyActionParams o = .ok params) ↔
      params.length < 65535 ∧ ∀ param ∈ params, SeqRanParamKept param := by
  refine (orNull_back_iff ?_).trans ?_
  · exact ⟨[], rfl⟩
  have counted : (∃ items, params.mapM cpRicPolicyActionRanParam = .ok items ∧
      decPolicyActionParams items = .ok params) ↔
      (1 ≤ params.length ∧ params.length ≤ 65534) ∧ ∀ param ∈ params, SeqRanParamKept param :=
    counted_kept_iff_of_mem fun param _ => seqRanParamBelow_back_iff param
  rw [counted]
  cases params with
  | nil => simp
  | cons param params =>
      rw [List.length_cons, forall_prop_of_true (List.cons_ne_nil param params)]
      refine and_congr_left fun _ => ?_
      omega

theorem policyAction_back_iff (src : PolicyAction) :
    (cpRicPolicyAction src >>= decPolicyAction) = .ok src ↔ PolicyActionKept src := by
  obtain ⟨id, params, decision⟩ := src
  simp only [cpRicPolicyAction, decPolicyAction, bind_eq_ok, check_eq_ok, pure_eq_ok,
    PolicyAction.mk.injEq]
  constructor
  · rintro ⟨_, ⟨_, pos, asn, taken, _, absent, rfl⟩, _, -, _, back, _, -, -, rfl, -⟩
    obtain ⟨count, each⟩ := (policyActionParams_back_iff _).mp ⟨asn, taken, back⟩
    exact
      { policyActId := pos
        count := count
        seqRanParam := each
        polDec := absent }
  · rintro ⟨pos, count, each, rfl⟩
    obtain ⟨asn, taken, back⟩ := (policyActionParams_back_iff params).mpr ⟨count, each⟩
    exact ⟨_, ⟨(), pos, asn, taken, (), rfl, rfl⟩, (), longOf16_range pos, params, back, (), rfl,
      E2sm.low16_longOf16 id, rfl, rfl⟩

/-- With one parameter more an action is still written, and what was written is refused. -/
theorem policyAction_full_refused {src : PolicyAction} (policyActId : 0 < src.policyActId)
    (full : 65535 ≤ src.seqRanParam.length)
    (seqRanParam : ∀ param ∈ src.seqRanParam, SeqRanParamKept param) (polDec : src.polDec = none) :
    ∃ asn, cpRicPolicyAction src = .ok asn ∧ decPolicyAction asn = .error .bound := by
  obtain ⟨id, params, decision⟩ := src
  obtain ⟨items, taken, -⟩ :=
    (list_kept_iff_of_mem fun param _ => seqRanParamBelow_back_iff param).mpr seqRanParam
  have filled : params.isEmpty = false := by
    cases params with
    | nil => exact absurd full (Nat.not_succ_le_zero _)
    | cons param params => rfl
  have written : orNull (·.mapM cpRicPolicyActionRanParam) params = .ok (some items) := by
    refine bind_eq_ok.mpr ⟨items, taken, ?_⟩
    rw [filled]
    rfl
  have refused : decPolicyActionParams items = .error .bound := by
    refine bind_eq_error.mpr (.inl (check_eq_error.mpr ⟨?_, rfl⟩))
    rw [length_of_mapM taken]
    exact fun range => absurd (Nat.le_trans full range.2) (by decide)
  refine ⟨_, bind_eq_ok.mpr ⟨(), check_eq_ok.mpr policyActId, bind_eq_ok.mpr ⟨_, written,
    bind_eq_ok.mpr ⟨(), check_eq_ok.mpr polDec, rfl⟩⟩⟩, ?_⟩
  simp only [decPolicyAction, check_pass _ (longOf16_range policyActId), ok_bind, fromNull,
    refused]
  rfl

structure PolicyCondKept (src : PolicyCond) : Prop where
  polAct : PolicyActionKept src.polAct
  pol : src.pol = none

theorem policyCond_back_iff (src : PolicyCond) :
    (cpRcActDefFrmt2It src >>= decPolicyCond) = .ok src ↔ PolicyCondKept src := by
  obtain ⟨action, pol⟩ := src
  simp only [cpRcActDefFrmt2It, decPolicyCond, bind_eq_ok, check_eq_ok, pure_eq_ok,
    Option.isNone_iff_eq_none, PolicyCond.mk.injEq]
  constructor
  · rintro ⟨_, ⟨asn, taken, _, absent, rfl⟩, _, back, _, -, rfl, -⟩
    exact
      { polAct := (policyAction_back_iff _).mp (bind_eq_ok.mpr ⟨asn, taken, back⟩)
        pol := absent }
  · rintro ⟨kept, rfl⟩
    obtain ⟨asn, taken, back⟩ := bind_eq_ok.mp ((policyAction_back_iff action).mpr kept)
    exact ⟨_, ⟨asn, taken, (), rfl, rfl⟩, action, back, (), rfl, rfl, rfl⟩

structure ActDefFrmt3Kept (src : ActDefFrmt3) : Prop where
  id : 0 < src.id
  count : CountFits src.ranParam
  ranParam : ∀ param ∈ src.ranParam, DefinedParamKept param.ranId param.ranDef
  ueId : src.ueId = none

theorem actDefFrmt3_back_iff (src : ActDefFrmt3) :
    (cpActDefFrmt3 src >>= decActDefFrmt3) = .ok src ↔ ActDefFrmt3Kept src := by
  obtain ⟨id, params, ueId⟩ := src
  have params_back : (∃ items, mapMSome .bound cpRcActDefFrmt3It params = .ok items ∧
      mapMWithin 1 65535 .bound decRanParamIns items = .ok params) ↔
      CountFits params ∧ ∀ param ∈ params, DefinedParamKept param.ranId param.ranDef :=
    some_kept_iff ranParamIns_back_iff (Nat.le_refl 1)
  simp only [cpActDefFrmt3, decActDefFrmt3, bind_eq_ok, check_eq_ok, pure_eq_ok,
    Option.isNone_iff_eq_none, ActDefFrmt3.mk.injEq]
  constructor
  · rintro ⟨_, ⟨_, pos, asn, taken, _, absent, rfl⟩, _, -, _, back, _, -, -, rfl, -⟩
    obtain ⟨count, each⟩ := params_back.mp ⟨asn, taken, back⟩
    exact
      { id := pos
        count := count
        ranParam := each
        ueId := absent }
  · rintro ⟨pos, count, each, rfl⟩
    obtain ⟨asn, taken, back⟩ := params_back.mpr ⟨count, each⟩
    exact ⟨_, ⟨(), pos, asn, taken, (), rfl, rfl⟩, (), longOf16_range pos, params, back, (), rfl,
      E2sm.low16_longOf16 id, rfl, rfl⟩

structure SeqInsIndActDefKept (src : SeqInsIndActDef) : Prop where
  indId : 0 < src.indId
  count : CountFits src.ranParamInsInd
  ranParamInsInd : ∀ param ∈ src.ranParamInsInd, DefinedParamKept param.ranParamId param.ranParamDef

theorem seqInsIndActDef_back_iff (src : SeqInsIndActDef) :
    (encSeqInsIndActDef src >>= decSeqInsIndActDef) = .ok src ↔ SeqInsIndActDefKept src := by
  obtain ⟨id, params⟩ := src
  simp only [encSeqInsIndActDef, decSeqInsIndActDef, bind_eq_ok, check_eq_ok, pure_eq_ok,
    SeqInsIndActDef.mk.injEq]
  constructor
  · rintro ⟨_, ⟨_, pos, asn, taken, rfl⟩, _, -, _, back, -, rfl⟩
    obtain ⟨count, each⟩ := (within_kept_iff ranParamInsInd_back_iff).mp ⟨asn, taken, back⟩
    exact
      { indId := pos
        count := count
        ranParamInsInd := each }
  · rintro ⟨pos, count, each⟩
    obtain ⟨asn, taken, back⟩ := (within_kept_iff ranParamInsInd_back_iff).mpr ⟨count, each⟩
    exact ⟨_, ⟨(), pos, asn, taken, rfl⟩, (), (longOf16_range pos).1, params, back,
      E2sm.low16_longOf16 id, rfl⟩

structure SeqInsStyleKept (src : SeqInsStyle) : Prop where
  count : 1 ≤ src.seqInsIndActDef.length ∧ src.seqInsIndActDef.length ≤ 63
  seqInsIndActDef : ∀ action ∈ src.seqInsIndActDef, SeqInsIndActDefKept action

theorem seqInsStyle_back_iff (src : SeqInsStyle) :
    (cpSeqInsStyles src >>= decSeqInsStyles) = .ok src ↔ SeqInsStyleKept src := by
  obtain ⟨style, actions⟩ := src
  simp only [cpSeqInsStyles, decSeqInsStyles, bind_eq_ok, pure_eq_ok, SeqInsStyle.mk.injEq]
  constructor
  · rintro ⟨_, ⟨asn, taken, rfl⟩, _, back, -, rfl⟩
    obtain ⟨count, each⟩ := (within_kept_iff seqInsIndActDef_back_iff).mp ⟨asn, taken, back⟩
    exact
      { count := count
        seqInsIndActDef := each }
  · rintro ⟨count, each⟩
    obtain ⟨asn, taken, back⟩ := (within_kept_iff seqInsIndActDef_back_iff).mpr ⟨count, each⟩
    exact ⟨_, ⟨asn, taken, rfl⟩, actions, back, E2sm.low32_longOf32 style, rfl⟩

structure ActDefFrmt4Kept (src : ActDefFrmt4) : Prop where
  count : 1 ≤ src.seqInsStyle.length ∧ src.seqInsStyle.length ≤ 4
  seqInsStyle : ∀ style ∈ src.seqInsStyle, SeqInsStyleKept style
  ueId : src.ueId = none

theorem actDefFrmt4_back_iff (src : ActDefFrmt4) :
    (cpActDefFrmt4 src >>= decActDefFrmt4) = .ok src ↔ ActDefFrmt4Kept src := by
  obtain ⟨styles, ueId⟩ := src
  simp only [cpActDefFrmt4, decActDefFrmt4, bind_eq_ok, check_eq_ok, pure_eq_ok,
    Option.isNone_iff_eq_none, ActDefFrmt4.mk.injEq]
  constructor
  · rintro ⟨_, ⟨asn, taken, _, absent, rfl⟩, _, back, _, -, rfl, -⟩
    obtain ⟨count, each⟩ := (within_kept_iff seqInsStyle_back_iff).mp ⟨asn, taken, back⟩
    exact
      { count := count
        seqInsStyle := each
        ueId := absent }
  · rintro ⟨count, each, rfl⟩
    obtain ⟨asn, taken, back⟩ := (within_kept_iff seqInsStyle_back_iff).mpr ⟨count, each⟩
    exact ⟨_, ⟨asn, taken, (), rfl, rfl⟩, styles, back, (), rfl, rfl, rfl⟩

def ActDefFormatKept : ActDefFormat → Prop
  | .frmt1 params =>
      CountFits params ∧ ∀ param ∈ params, DefinedParamKept param.ranParamId param.ranParamDef
  | .frmt2 conds => CountFits conds ∧ ∀ cond ∈ conds, PolicyCondKept cond
  | .frmt3 frmt => ActDefFrmt3Kept frmt
  | .frmt4 frmt => ActDefFrmt4Kept frmt

theorem actDefFormat_back_iff (src : ActDefFormat) :
    (encActDefFormat src >>= decActDefFormat) = .ok src ↔ ActDefFormatKept src := by
  cases src with
  | frmt1 params =>
      refine (map_back_iff cpActDefFrmt1 decActDefFrmt1 ActionDefinitionFormats.format1
        decActDefFormat ActDefFormat.frmt1 (fun _ => rfl)
          fun _ _ => ActDefFormat.frmt1.inj).trans ?_
      rw [bind_eq_ok]
      exact within_kept_iff paramReportDef_back_iff
  | frmt2 conds =>
      refine (map_back_iff cpActDefFrmt2 decActDefFrmt2 ActionDefinitionFormats.format2
        decActDefFormat ActDefFormat.frmt2 (fun _ => rfl)
          fun _ _ => ActDefFormat.frmt2.inj).trans ?_
      rw [bind_eq_ok]
      exact some_kept_iff policyCond_back_iff (Nat.le_refl 1)
  | frmt3 frmt =>
      refine (map_back_iff cpActDefFrmt3 decActDefFrmt3 ActionDefinitionFormats.format3
        decActDefFormat ActDefFormat.frmt3 (fun _ => rfl)
          fun _ _ => ActDefFormat.frmt3.inj).trans ?_
      exact actDefFrmt3_back_iff frmt
  | frmt4 frmt =>
      refine (map_back_iff cpActDefFrmt4 decActDefFrmt4 ActionDefinitionFormats.format4
        decActDefFormat ActDefFormat.frmt4 (fun _ => rfl)
          fun _ _ => ActDefFormat.frmt4.inj).trans ?_
      exact actDefFrmt4_back_iff frmt

/-- The style has no bounds, so it always comes back. -/
theorem actionDef_back_iff (src : ActionDef) :
    (actionDefUnit src >>= actionDefOf) = .ok src ↔ ActDefFormatKept src.format := by
  obtain ⟨style, format⟩ := src
  rw [← actDefFormat_back_iff]
  simp only [actionDefUnit, actionDefOf, bind_eq_ok, pure_eq_ok, ActionDef.mk.injEq]
  constructor
  · rintro ⟨_, ⟨asn, taken, rfl⟩, _, back, -, rfl⟩
    exact ⟨asn, taken, back⟩
  · rintro ⟨asn, taken, back⟩
    exact ⟨_, ⟨asn, taken, rfl⟩, format, back, E2sm.low32_longOf32 style, rfl⟩

theorem actionDef_packed_iff {p : Packing ActionDefinitionAsn} {src : ActionDef}
    (carries : p.Carries subscriptionRoom actionDefUnit src) :
    (rcEncActionDefAsn p src >>= rcDecActionDefAsn p) = .ok src ↔ ActDefFormatKept src.format := by
  rw [rcEncActionDefAsn, rcDecActionDefAsn, packed_back carries]
  exact actionDef_back_iff src

/-- The bytes of a policy whose action has 65535 parameters or more are written, and refused. -/
theorem full_policy_refused {p : Packing ActionDefinitionAsn} {style : UInt32}
    {action : PolicyAction} (policyActId : 0 < action.policyActId)
    (full : 65535 ≤ action.seqRanParam.length)
    (seqRanParam : ∀ param ∈ action.seqRanParam, SeqRanParamKept param)
    (polDec : action.polDec = none)
    (carries : p.Carries subscriptionRoom actionDefUnit ⟨style, .frmt2 [⟨action, none⟩]⟩) :
    ∃ ba, rcEncActionDefAsn p ⟨style, .frmt2 [⟨action, none⟩]⟩ = .ok ba ∧
      rcDecActionDefAsn p ba = .error .bound := by
  obtain ⟨asn, written, refused⟩ :=
    policyAction_full_refused policyActId full seqRanParam polDec
  have item : cpRcActDefFrmt2It ⟨action, none⟩ = .ok ⟨asn, none⟩ :=
    bind_eq_ok.mpr ⟨asn, written, rfl⟩
  have unit : actionDefUnit ⟨style, .frmt2 [⟨action, none⟩]⟩ =
      .ok ⟨longOf32 style, .format2 [⟨asn, none⟩]⟩ := by
    simp only [actionDefUnit, encActDefFormat, cpActDefFrmt2, mapMSome, List.mapM_cons, item]
    rfl
  obtain ⟨ba, sent, read⟩ : ∃ ba, rcEncActionDefAsn p ⟨style, .frmt2 [⟨action, none⟩]⟩ = .ok ba ∧
      rcDecActionDefAsn p ba = actionDefOf ⟨longOf32 style, .format2 [⟨asn, none⟩]⟩ :=
    packed_unit carries unit
  have stops : decPolicyCond ⟨asn, none⟩ = .error .bound := by
    rw [decPolicyCond, refused]
    rfl
  refine ⟨ba, sent, read.trans ?_⟩
  simp only [actionDefOf, decActDefFormat, decActDefFrmt2, mapMWithin, List.mapM_cons, stops]
  rfl

/-- An action definition comes back from its bytes just where each of its parts does. -/
theorem action_def_back_iff :
    ∀ p (src : ActionDef), p.Carries subscriptionRoom actionDefUnit src →
      ((rcEncActionDefAsn p src >>= rcDecActionDefAsn p) = .ok src ↔
        ActDefFormatKept src.format) := by
  intro p src carries
  exact actionDef_packed_iff carries

/-- The only policy is the first action. -/
def firstPolicy : ActionDef := ⟨1, .frmt2 [⟨⟨1, [], none⟩, none⟩]⟩

theorem firstPolicy_kept : ActDefFormatKept firstPolicy.format := by
  have action : PolicyActionKept ⟨1, [], none⟩ :=
    { policyActId := by decide
      count := by decide
      seqRanParam := List.forall_mem_nil _
      polDec := rfl }
  have cond : PolicyCondKept ⟨⟨1, [], none⟩, none⟩ :=
    { polAct := action
      pol := rfl }
  exact ⟨⟨Nat.le_refl 1, by decide⟩, List.forall_mem_singleton.mpr cond⟩

/-- It comes back from its bytes. -/
theorem action_def_back_policy :
    ∃ unit, (rcEncActionDefAsn (.always unit 0 [1, 1, 0x20, 0, 0, 0, 0, 0]) firstPolicy >>=
      rcDecActionDefAsn (.always unit 0 [1, 1, 0x20, 0, 0, 0, 0, 0])) = .ok firstPolicy := by
  have short : [0, 1, 1, 0x20, 0, 0, 0, 0, (0 : UInt8)].length ≤ subscriptionRoom := by decide
  exact ⟨_, (action_def_back_iff _ firstPolicy (Packing.always_carries rfl short)).mpr
    firstPolicy_kept⟩

/-- An event trigger, and an action definition, whose bytes are written is read from them just where
    each of its parts comes back. -/
theorem subscription_codec_iff (p : Packing EventTriggerAsn) (q : Packing ActionDefinitionAsn) :
    (∀ src ba, p.Carries subscriptionRoom eventTriggerUnit src →
      rcEncEventTriggerAsn p src = .ok ba →
        (rcDecEventTriggerAsn p ba = .ok src ↔ EventTriggerKept src)) ∧
    ∀ src ba, q.Carries subscriptionRoom actionDefUnit src →
      rcEncActionDefAsn q src = .ok ba →
        (rcDecActionDefAsn q ba = .ok src ↔ ActDefFormatKept src.format) := by
  constructor
  · intro src ba carries written
    rw [← eventTrigger_packed_iff carries, written, ok_bind]
  · intro src ba carries written
    rw [← actionDef_packed_iff carries, written, ok_bind]

/-- The first change of a node's information, by itself. -/
def aChange : EventTrigger := .frmt3 [⟨1, 1, none, none⟩]

theorem aChange_kept : EventTriggerKept aChange := by
  have change : E2NodeInfoChngKept ⟨1, 1, none, none⟩ :=
    { evTriggerCondId := by decide
      e2NodeInfoChngId := by decide
      evTriggerCellInfo := rfl
      logOr := rfl }
  exact ⟨⟨Nat.le_refl 1, by decide⟩, List.forall_mem_singleton.mpr change⟩

/-- It in aligned PER. -/
def aChangePer (unit : EventTriggerAsn) : Packing EventTriggerAsn :=
  .always unit 0x10 [0, 0, 0, 0, 0, 0, 0, 0]

/-- The only policy is the first action, with its parameter 1 true. -/
def policyWithParam : ActionDef := ⟨1, .frmt2 [⟨⟨1, [⟨1, .flagTrue (.boolRan true)⟩], none⟩, none⟩]⟩

theorem policyWithParam_kept : ActDefFormatKept policyWithParam.format := by
  have param : SeqRanParamKept ⟨1, .flagTrue (.boolRan true)⟩ :=
    { ranParamId := by decide
      ranParamVal := .flagTrue _ }
  have action : PolicyActionKept ⟨1, [⟨1, .flagTrue (.boolRan true)⟩], none⟩ :=
    { policyActId := by decide
      count := by decide
      seqRanParam := List.forall_mem_singleton.mpr param
      polDec := rfl }
  have cond : PolicyCondKept ⟨⟨1, [⟨1, .flagTrue (.boolRan true)⟩], none⟩, none⟩ :=
    { polAct := action
      pol := rfl }
  exact ⟨⟨Nat.le_refl 1, by decide⟩, List.forall_mem_singleton.mpr cond⟩

def policyWithParamPer (unit : ActionDefinitionAsn) : Packing ActionDefinitionAsn :=
  .always unit 0x00 [0x01, 0x01, 0x20, 0x00, 0x00, 0x10, 0x00, 0x00, 0x00, 0x00, 0x00, 0x00, 0x00,
    0x80]

/-- Both are read from the bytes that are written of them. -/
theorem subscription_codec_change :
    ∃ changeUnit policyUnit changeBa policyBa,
      rcEncEventTriggerAsn (aChangePer changeUnit) aChange = .ok changeBa ∧
      rcDecEventTriggerAsn (aChangePer changeUnit) changeBa = .ok aChange ∧
      rcEncActionDefAsn (policyWithParamPer policyUnit) policyWithParam = .ok policyBa ∧
      rcDecActionDefAsn (policyWithParamPer policyUnit) policyBa = .ok policyWithParam := by
  obtain ⟨policyUnit, policyBa, policyCarries, policyWritten⟩ :
      ∃ unit ba, (policyWithParamPer unit).Carries subscriptionRoom actionDefUnit policyWithParam ∧
        rcEncActionDefAsn (policyWithParamPer unit) policyWithParam = .ok ba :=
    ⟨_, _, Packing.always_carries rfl (by decide), rfl⟩
  obtain ⟨changeUnit, changeBa, changeCarries, changeWritten⟩ :
      ∃ unit ba, (aChangePer unit).Carries subscriptionRoom eventTriggerUnit aChange ∧
        rcEncEventTriggerAsn (aChangePer unit) aChange = .ok ba :=
    ⟨_, _, Packing.always_carries rfl (by decide), rfl⟩
  have both := subscription_codec_iff (aChangePer changeUnit) (policyWithParamPer policyUnit)
  exact ⟨changeUnit, policyUnit, changeBa, policyBa,
    changeWritten, (both.1 aChange changeBa changeCarries changeWritten).mpr aChange_kept,
    policyWritten, (both.2 policyWithParam policyBa policyCarries policyWritten).mpr
      policyWithParam_kept⟩

/-- The change joined to others by a logical or. -/
def joinedChange : EventTrigger := .frmt3 [⟨1, 1, none, some .trueLogicalOr⟩]

/-- Its bytes are those of the change by itself, and are read as that. -/
theorem logical_or_lost :
    ∃ unit ba, (aChangePer unit).Carries subscriptionRoom eventTriggerUnit joinedChange ∧
      rcEncEventTriggerAsn (aChangePer unit) joinedChange = .ok ba ∧
      rcDecEventTriggerAsn (aChangePer unit) ba = .ok aChange ∧ aChange ≠ joinedChange := by
  have other : aChange ≠ joinedChange := by
    intro same
    cases List.cons.inj (EventTrigger.frmt3.inj same)
    contradiction
  exact ⟨_, _, Packing.always_carries rfl (by decide), rfl, rfl, other⟩

end FlexRic.Rc
