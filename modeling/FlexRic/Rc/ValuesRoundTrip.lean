import FlexRic.Rc.Values

/-! # Values of RAN parameters survive their codec

A value comes back just when the structures in it have parameters, and not too many, and
no parameter has the id zero. The induction is on the value.
-/

namespace FlexRic.Rc

open Asn (Fault)

/-- A structure has some parameters, and their number has two bytes. -/
def CountFits {α : Type} (lst : List α) : Prop := 1 ≤ lst.length ∧ lst.length ≤ 65535

/-- What of a value comes back. -/
inductive ValTypeKept : RanParamValType → Prop
  | flagTrue (value : RanParameterValue) : ValTypeKept (.flagTrue value)
  | flagFalse (value : RanParameterValue) : ValTypeKept (.flagFalse value)
  | strct {params : List SeqRanParam} (count : CountFits params)
      (ids : ∀ param ∈ params, 0 < param.ranParamId)
      (values : ∀ param ∈ params, ValTypeKept param.ranParamVal) :
      ValTypeKept (.strct params)
  | lst {structs : List (List SeqRanParam)} (counts : ∀ params ∈ structs, CountFits params)
      (ids : ∀ params ∈ structs, ∀ param ∈ params, 0 < param.ranParamId)
      (values : ∀ params ∈ structs, ∀ param ∈ params, ValTypeKept param.ranParamVal) :
      ValTypeKept (.lst structs)

/-- What of a parameter comes back. -/
structure SeqRanParamKept (param : SeqRanParam) : Prop where
  ranParamId : 0 < param.ranParamId
  ranParamVal : ValTypeKept param.ranParamVal

def StructKept (params : List SeqRanParam) : Prop :=
  CountFits params ∧ ∀ param ∈ params, SeqRanParamKept param

theorem strct_kept_iff {params : List SeqRanParam} :
    ValTypeKept (.strct params) ↔ StructKept params := by
  constructor
  · rintro (_ | _ | ⟨count, ids, values⟩)
    exact ⟨count, fun param mem => ⟨ids param mem, values param mem⟩⟩
  · rintro ⟨count, each⟩
    exact .strct count (fun param mem => (each param mem).ranParamId)
      fun param mem => (each param mem).ranParamVal

theorem lst_kept_iff {structs : List (List SeqRanParam)} :
    ValTypeKept (.lst structs) ↔ ∀ params ∈ structs, StructKept params := by
  constructor
  · rintro (_ | _ | _ | ⟨counts, ids, values⟩) params mem
    exact ⟨counts params mem, fun param memP => ⟨ids params mem param memP,
      values params mem param memP⟩⟩
  · intro each
    exact .lst (fun params mem => (each params mem).1)
      (fun params mem param memP => ((each params mem).2 param memP).ranParamId)
      fun params mem param memP => ((each params mem).2 param memP).ranParamVal

/-- Induction on values, with a hypothesis for each parameter of a structure. -/
theorem RanParamValType.rec_params {motive : RanParamValType → Prop}
    (flagTrue : ∀ value, motive (.flagTrue value))
    (flagFalse : ∀ value, motive (.flagFalse value))
    (strct : ∀ params, (∀ param ∈ params, motive param.ranParamVal) → motive (.strct params))
    (lst : ∀ structs, (∀ params ∈ structs, ∀ param ∈ params, motive param.ranParamVal) →
      motive (.lst structs)) :
    ∀ val, motive val :=
  @RanParamValType.rec motive (fun param => motive param.ranParamVal)
    (fun params => ∀ param ∈ params, motive param.ranParamVal)
    (fun structs => ∀ params ∈ structs, ∀ param ∈ params, motive param.ranParamVal)
    flagTrue flagFalse strct lst (fun _ _ ih => ih) nofun
    (fun _ _ first rest => List.forall_mem_cons.mpr ⟨first, rest⟩) nofun
    (fun _ _ first rest => List.forall_mem_cons.mpr ⟨first, rest⟩)

theorem encRanParamStructs_eq (params : List SeqRanParam) :
    encRanParamStructs params = params.mapM encRanParamStruct := by
  induction params with
  | nil => rfl
  | cons param params ih =>
      rw [List.mapM_cons, ← ih]
      rfl

theorem decSeqRanParamStrcs_eq (items : List RanParameterItem) :
    decSeqRanParamStrcs items = items.mapM decSeqRanParamStrcIt := by
  induction items with
  | nil => rfl
  | cons item items ih =>
      rw [List.mapM_cons, ← ih]
      rfl

/-- `enc_lst_ran_param`. -/
def encLstRanParam (params : List SeqRanParam) : Except Fault RanParameterStructure := do
  let items ← params.mapM encRanParamStruct
  pure ⟨some items⟩

theorem encLstRanParams_eq (structs : List (List SeqRanParam)) :
    encLstRanParams structs = structs.mapM encLstRanParam := by
  induction structs with
  | nil => rfl
  | cons params structs ih =>
      rw [List.mapM_cons, ← ih, encLstRanParam, ← encRanParamStructs_eq, encLstRanParams]
      cases encRanParamStructs params <;> rfl

theorem decLstRanParams_eq (items : List RanParameterStructure) :
    decLstRanParams items = items.mapM decRanParameterStrct := by
  induction items with
  | nil => rfl
  | cons item items ih =>
      rw [List.mapM_cons, ← ih]
      rfl

theorem ranParamStruct_back_iff {param : SeqRanParam}
    (kept : (cpRanParamValueType param.ranParamVal >>= decRanParamValueType) =
      .ok param.ranParamVal ↔ ValTypeKept param.ranParamVal) :
    (encRanParamStruct param >>= decSeqRanParamStrcIt) = .ok param ↔ SeqRanParamKept param := by
  obtain ⟨id, val⟩ := param
  rw [bind_eq_ok] at kept
  simp only [encRanParamStruct, bind_eq_ok, check_eq_ok, pure_eq_ok]
  constructor
  · rintro ⟨_, ⟨_, pos, asn, taken, rfl⟩, back⟩
    simp only [decSeqRanParamStrcIt, bind_eq_ok, check_eq_ok, pure_eq_ok,
      SeqRanParam.mk.injEq] at back
    obtain ⟨_, -, _, back, -, rfl⟩ := back
    exact ⟨pos, kept.mp ⟨asn, taken, back⟩⟩
  · rintro ⟨pos, valKept⟩
    obtain ⟨asn, taken, back⟩ := kept.mpr valKept
    refine ⟨_, ⟨(), pos, asn, taken, rfl⟩, ?_⟩
    have positive : 0 < id.toUInt64 := (E2sm.toUInt64_pos id).mpr pos
    rw [decSeqRanParamStrcIt, check_pass _ positive, ok_bind, back, ok_bind,
      UInt32.toUInt32_toUInt64]
    rfl

/-- A structure comes back just when its parameters do and are neither none nor too many. -/
theorem structParams_back_iff {params : List SeqRanParam}
    (kept : ∀ param ∈ params, (encRanParamStruct param >>= decSeqRanParamStrcIt) = .ok param ↔
      SeqRanParamKept param) :
    (encLstRanParam params >>= decRanParameterStrct) = .ok params ↔ StructKept params := by
  rw [StructKept, CountFits, ← counted_kept_iff_of_mem kept]
  simp only [encLstRanParam, bind_eq_ok, pure_eq_ok]
  constructor
  · rintro ⟨_, ⟨items, taken, rfl⟩, back⟩
    rw [decRanParameterStrct, decSeqRanParamStrcs_eq] at back
    exact ⟨items, taken, back⟩
  · rintro ⟨items, taken, back⟩
    refine ⟨_, ⟨items, taken, rfl⟩, ?_⟩
    rw [decRanParameterStrct, decSeqRanParamStrcs_eq]
    exact back

theorem cp_strct (params : List SeqRanParam) :
    cpRanParamValueType (.strct params) =
      RanParameterValueType.struct <$> encLstRanParam params := by
  rw [cpRanParamValueType, encRanParamStructs_eq, encLstRanParam]
  cases params.mapM encRanParamStruct <;> rfl

theorem dec_struct (items : RanParameterStructure) :
    decRanParamValueType (.struct items) =
      RanParamValType.strct <$> decRanParameterStrct items := by
  rw [decRanParamValueType]
  cases decRanParameterStrct items <;> rfl

theorem cp_lst (structs : List (List SeqRanParam)) :
    cpRanParamValueType (.lst structs) =
      RanParameterValueType.list <$> structs.mapM encLstRanParam := by
  rw [cpRanParamValueType, encLstRanParams_eq]
  cases structs.mapM encLstRanParam <;> rfl

theorem dec_list (items : List RanParameterStructure) :
    decRanParamValueType (.list items) =
      RanParamValType.lst <$> items.mapM decRanParameterStrct := by
  rw [decRanParamValueType, decLstRanParams_eq]
  cases items.mapM decRanParameterStrct <;> rfl

theorem valType_back_iff (val : RanParamValType) :
    (cpRanParamValueType val >>= decRanParamValueType) = .ok val ↔ ValTypeKept val := by
  induction val using RanParamValType.rec_params with
  | flagTrue value =>
      refine iff_of_true ?_ (.flagTrue value)
      rw [cpRanParamValueType, pure_bind, decRanParamValueType, ranParamVal_back]
      rfl
  | flagFalse value =>
      refine iff_of_true ?_ (.flagFalse value)
      rw [cpRanParamValueType, pure_bind, decRanParamValueType, ranParamVal_back]
      rfl
  | strct params ih =>
      rw [strct_kept_iff, cp_strct,
        map_back_iff encLstRanParam decRanParameterStrct _ _ _ dec_struct
        fun _ _ same => RanParamValType.strct.inj same]
      exact structParams_back_iff fun param mem => ranParamStruct_back_iff (ih param mem)
  | lst structs ih =>
      rw [lst_kept_iff, cp_lst,
        map_back_iff (·.mapM encLstRanParam) (·.mapM decRanParameterStrct) _ _ _
        dec_list fun _ _ same => RanParamValType.lst.inj same, bind_eq_ok]
      exact list_kept_iff_of_mem fun params mem =>
        structParams_back_iff fun param memP => ranParamStruct_back_iff (ih params mem param memP)

theorem seqRanParam_back_iff (param : SeqRanParam) :
    (encRanParamStruct param >>= decSeqRanParamStrcIt) = .ok param ↔ SeqRanParamKept param :=
  ranParamStruct_back_iff (valType_back_iff param.ranParamVal)

/-- The upper bound of an id holds of its own. -/
theorem seqRanParamBelow_back_iff (param : SeqRanParam) :
    (encRanParamStruct param >>= decRanParamBelow 4294967296) = .ok param ↔
      SeqRanParamKept param := by
  rw [← seqRanParam_back_iff]
  obtain ⟨id, val⟩ := param
  simp only [encRanParamStruct, decRanParamBelow, bind_eq_ok, check_eq_ok, pure_eq_ok]
  constructor
  · rintro ⟨_, taken, _, -, back⟩
    exact ⟨_, taken, back⟩
  · rintro ⟨_, ⟨_, pos, asn, taken, rfl⟩, back⟩
    exact ⟨_, ⟨(), pos, asn, taken, rfl⟩, (), E2sm.toUInt64_lt id, back⟩

end FlexRic.Rc
