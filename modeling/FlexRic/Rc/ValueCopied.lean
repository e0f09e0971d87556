import FlexRic.Rc.ValueCopies
import FlexRic.Rc.ValueSameness

/-! # Which RAN parameter values can be copied

The comparison after a copy stops at what is not a number, and an id that is zero is not
copied. Everything else that was decoded is, into blocks of its own.
-/

namespace FlexRic.Rc

open Asn (Fault)

def RanParameterValue.IsNumber : RanParameterValue → Prop
  | .realRan value => (Float.ofBits value).isNaN = false
  | _ => True

theorem RanParameterValue.agree_self_iff (value : RanParameterValue) :
    value.Agree value ↔ value.IsNumber := by
  cases value with
  | realRan value => exact double_beq_self_iff
  | _ => exact iff_of_true rfl trivial

namespace RanParamValType

variable {V V' : RanParameterValue → Prop} {S S' : List SeqRanParam → Prop}

theorem Every.mono {val : RanParamValType} (every : val.Every V S)
    (leaves : ∀ value, V value → V' value) (structs : ∀ params, S params → S' params) :
    val.Every V' S' := by
  induction val using rec_params with
  | flagTrue value => exact .flagTrue (leaves value (every_flagTrue_iff.mp every))
  | flagFalse value => exact .flagFalse (leaves value (every_flagFalse_iff.mp every))
  | strct params ih =>
      obtain ⟨here, each⟩ := every_strct_iff.mp every
      exact .strct (structs params here) fun param mem => ih param mem (each param mem)
  | lst strcts ih =>
      have each := every_lst_iff.mp every
      exact .lst (fun params mem => structs params (each params mem).1)
        fun params mem param memP => ih params mem param memP ((each params mem).2 param memP)

theorem Every.and {val : RanParamValType} (every : val.Every V S) (every' : val.Every V' S') :
    val.Every (fun value => V value ∧ V' value) fun params => S params ∧ S' params := by
  induction val using rec_params with
  | flagTrue value =>
      exact .flagTrue ⟨every_flagTrue_iff.mp every, every_flagTrue_iff.mp every'⟩
  | flagFalse value =>
      exact .flagFalse ⟨every_flagFalse_iff.mp every, every_flagFalse_iff.mp every'⟩
  | strct params ih =>
      obtain ⟨here, each⟩ := every_strct_iff.mp every
      obtain ⟨here', each'⟩ := every_strct_iff.mp every'
      exact .strct ⟨here, here'⟩ fun param mem => ih param mem (each param mem) (each' param mem)
  | lst strcts ih =>
      have each := every_lst_iff.mp every
      have each' := every_lst_iff.mp every'
      exact .lst (fun params mem => ⟨(each params mem).1, (each' params mem).1⟩)
        fun params mem param memP =>
          ih params mem param memP ((each params mem).2 param memP)
            ((each' params mem).2 param memP)

/-- A value of numbers agrees with itself. -/
theorem agree_self {val : RanParamValType}
    (numbers : val.Every RanParameterValue.IsNumber fun _ => True) : val.Agree val := by
  induction val using rec_params with
  | flagTrue value => exact .flagTrue (value.agree_self_iff.mpr (every_flagTrue_iff.mp numbers))
  | flagFalse value => exact .flagFalse (value.agree_self_iff.mpr (every_flagFalse_iff.mp numbers))
  | strct params ih =>
      obtain ⟨-, each⟩ := every_strct_iff.mp numbers
      exact strct_agree_iff.mpr (List.forall₂_same.mpr fun param mem =>
        ⟨rfl, ih param mem (each param mem)⟩)
  | lst strcts ih =>
      have each := every_lst_iff.mp numbers
      exact lst_agree_iff.mpr (List.forall₂_same.mpr fun params mem =>
        List.forall₂_same.mpr fun param memP =>
          ⟨rfl, ih params mem param memP ((each params mem).2 param memP)⟩)

/-- What a copy goes through for: numbers, and structures with some parameters and not too
    many, whose ids are not zero. -/
def Passes (val : RanParamValType) : Prop :=
  val.Every RanParameterValue.IsNumber fun params =>
    CountFits params ∧ ∀ param ∈ params, 0 < param.ranParamId

theorem Passes.agree_self {val : RanParamValType} (passes : val.Passes) : val.Agree val :=
  RanParamValType.agree_self (passes.mono (fun _ => id) fun _ _ => trivial)

theorem Passes.sized {val : RanParamValType} (passes : val.Passes) : val.Sized :=
  passes.mono (fun _ _ => trivial) fun _ => And.left

end RanParamValType

theorem decSeqRanParamStrcIt_val {item : RanParameterItem} {param : SeqRanParam}
    (decoded : decSeqRanParamStrcIt item = .ok param) :
    decRanParamValueType item.ranParameterValueType = .ok param.ranParamVal := by
  obtain ⟨id, type⟩ := item
  simp only [decSeqRanParamStrcIt, bind_eq_ok, pure_eq_ok] at decoded
  obtain ⟨_, -, val, done, rfl⟩ := decoded
  exact done

theorem decRanParameterStrct_params {items : RanParameterStructure} {params : List SeqRanParam}
    (decoded : decRanParameterStrct items = .ok params) :
    CountFits params ∧
      ∀ param ∈ params, ∃ type, decRanParamValueType type = .ok param.ranParamVal := by
  obtain ⟨list⟩ := items
  cases list with
  | none => cases decoded
  | some items =>
      simp only [decRanParameterStrct, decSeqRanParamStrcs_eq, bind_eq_ok, check_eq_ok,
        exists_const] at decoded
      obtain ⟨range, mapped⟩ := decoded
      rw [← length_of_mapM mapped] at range
      refine ⟨range, fun param mem => ?_⟩
      obtain ⟨item, -, done⟩ := exists_of_mapM mapped mem
      exact ⟨_, decSeqRanParamStrcIt_val done⟩

/-- Every structure that was decoded has some parameters, and not too many. -/
theorem decRanParamValueType_sized {type : RanParameterValueType} {val : RanParamValType}
    (decoded : decRanParamValueType type = .ok val) : val.Sized := by
  induction val using RanParamValType.rec_params generalizing type with
  | flagTrue value => exact .flagTrue trivial
  | flagFalse value => exact .flagFalse trivial
  | strct params ih =>
      cases type with
      | elementTrue value =>
          obtain ⟨_, -, same⟩ := map_eq_ok.mp decoded
          cases same
      | elementFalse value =>
          cases value with
          | none => cases decoded
          | some value =>
              obtain ⟨_, -, same⟩ := map_eq_ok.mp decoded
              cases same
      | struct items =>
          rw [dec_struct, map_eq_ok] at decoded
          obtain ⟨_, done, same⟩ := decoded
          cases same
          obtain ⟨fits, each⟩ := decRanParameterStrct_params done
          refine .strct fits fun param mem => ?_
          obtain ⟨_, here⟩ := each param mem
          exact ih param mem here
      | list items =>
          rw [dec_list, map_eq_ok] at decoded
          obtain ⟨_, -, same⟩ := decoded
          cases same
  | lst structs ih =>
      cases type with
      | elementTrue value =>
          obtain ⟨_, -, same⟩ := map_eq_ok.mp decoded
          cases same
      | elementFalse value =>
          cases value with
          | none => cases decoded
          | some value =>
              obtain ⟨_, -, same⟩ := map_eq_ok.mp decoded
              cases same
      | struct items =>
          rw [dec_struct, map_eq_ok] at decoded
          obtain ⟨_, -, same⟩ := decoded
          cases same
      | list items =>
          rw [dec_list, map_eq_ok] at decoded
          obtain ⟨_, mapped, same⟩ := decoded
          cases same
          refine every_lst_iff.mpr fun params mem => ?_
          obtain ⟨_, -, done⟩ := exists_of_mapM mapped mem
          obtain ⟨fits, each⟩ := decRanParameterStrct_params done
          refine ⟨fits, fun param memP => ?_⟩
          obtain ⟨_, here⟩ := each param memP
          exact ih params mem param memP here

/-- Induction on placed values, with a hypothesis for each parameter of a structure. -/
theorem PlacedValType.rec_params {motive : PlacedValType → Prop}
    (flagTrue : ∀ block value, motive (.flagTrue block value))
    (flagFalse : ∀ block value, motive (.flagFalse block value))
    (strct : ∀ block array params, (∀ param ∈ params, motive param.ranParamVal) →
      motive (.strct block ⟨array, params⟩))
    (lst : ∀ block array structs,
      (∀ strct ∈ structs, ∀ param ∈ strct.params, motive param.ranParamVal) →
      motive (.lst block array structs)) :
    ∀ val, motive val :=
  @PlacedValType.rec motive (fun strct => ∀ param ∈ strct.params, motive param.ranParamVal)
    (fun param => motive param.ranParamVal)
    (fun structs => ∀ strct ∈ structs, ∀ param ∈ strct.params, motive param.ranParamVal)
    (fun params => ∀ param ∈ params, motive param.ranParamVal)
    flagTrue flagFalse (fun block ⟨array, params⟩ ih => strct block array params ih) lst
    (fun _ _ ih => ih) (fun _ _ ih => ih) nofun
    (fun _ _ first rest => List.forall_mem_cons.mpr ⟨first, rest⟩) nofun
    (fun _ _ first rest => List.forall_mem_cons.mpr ⟨first, rest⟩)

theorem paramValues_eq (params : List PlacedParam) :
    paramValues params = params.map PlacedParam.value := by
  induction params with
  | nil => rfl
  | cons param params ih => rw [paramValues, ih, List.map_cons]

theorem structValues_eq (structs : List PlacedStruct) :
    structValues structs = structs.map PlacedStruct.value := by
  induction structs with
  | nil => rfl
  | cons strct structs ih => rw [structValues, ih, List.map_cons]

theorem length_paramValues (params : List PlacedParam) :
    (paramValues params).length = params.length := by
  rw [paramValues_eq, List.length_map]

@[simp] theorem PlacedParam.value_id (param : PlacedParam) :
    param.value.ranParamId = param.ranParamId := by
  cases param
  rfl

@[simp] theorem PlacedParam.value_val (param : PlacedParam) :
    param.value.ranParamVal = param.ranParamVal.value := by
  cases param
  rfl

section
variable {heap : Allocator} {old : List Addr}

theorem assertSame_yields {r : Except EqFailure Bool} :
    Yields (assertSame r) (r = .ok true) fun _ => True := by
  cases r with
  | error e => exact ⟨nofun, nofun⟩
  | ok b =>
      cases b with
      | false => exact ⟨nofun, nofun⟩
      | true => exact ⟨fun _ => ⟨(), rfl⟩, fun _ _ => ⟨rfl, trivial⟩⟩

theorem cpRanParameterValue_takes (src : PlacedValue) :
    Takes old (cpRanParameterValue heap src) True (·.value = src.value) PlacedValue.blocks := by
  have buffer {dst : Addr → PlacedValue} (same : ∀ buf, (dst buf).value = src.value)
      (one : ∀ buf, (dst buf).blocks = [buf]) : Takes old
      (do
        let buf ← heap.calloc
        pure (dst buf) : Allocates CpFailure PlacedValue) True (·.value = src.value)
      PlacedValue.blocks := by
    apply ((Takes.of_calloc heap).bind fun buf _ => Takes.of_pure (same buf) ?_).iff (by simp)
    rw [one]
    exact List.subset_append_left _ _
  cases src with
  | boolRan value => exact .of_pure rfl (List.nil_subset _)
  | intRan value => exact .of_pure rfl (List.nil_subset _)
  | realRan value => exact .of_pure rfl (List.nil_subset _)
  | bitStrRan _ ba => exact buffer (fun _ => rfl) fun _ => rfl
  | octetStrRan _ ba => exact buffer (fun _ => rfl) fun _ => rfl
  | printableStrRan _ ba => exact buffer (fun _ => rfl) fun _ => rfl

/-- What it takes to copy a value. -/
def Copies (heap : Allocator) (src : PlacedValType) : Prop :=
  ∀ old, Takes old (cpRanParamValType heap src) src.value.Passes (·.value = src.value)
    PlacedValType.blocks

/-- The assertion at the end compares a value with itself. -/
theorem confirmed_takes {dst src : PlacedValType} (same : dst.value = src.value)
    (known : dst.blocks ⊆ old) : Takes old
    (do
      assertSame (eqRanParamValType dst.value src.value)
      pure dst : Allocates CpFailure PlacedValType)
    (src.value.Agree src.value ∧ src.value.Sized) (·.value = src.value) PlacedValType.blocks := by
  have equal : Takes old (liftM (assertSame (eqRanParamValType dst.value src.value)) :
      Allocates CpFailure Unit) (src.value.Agree src.value ∧ src.value.Sized) (fun _ => True)
      fun _ => [] := by
    rw [same]
    exact (Takes.of_lift assertSame_yields).iff (eqRanParamValType_true_iff _ _)
  have given : Takes ([] ++ old) (pure dst : Allocates CpFailure PlacedValType) True
      (·.value = src.value) PlacedValType.blocks := .of_pure same known
  exact (equal.bind fun _ _ => given).iff (Iff.of_eq (and_true _))

theorem cpSeqRanParam_takes {param : PlacedParam} (copies : Copies heap param.ranParamVal) :
    Takes old (cpSeqRanParam heap param) (0 < param.ranParamId ∧ param.ranParamVal.value.Passes)
      (·.value = param.value) PlacedParam.blocks := by
  obtain ⟨id, val⟩ := param
  apply ((Takes.of_lift Yields.of_check).bind fun _ _ => (copies _).bind fun dst same =>
    Takes.of_pure ?_ ?_).iff (by simp)
  · rw [PlacedParam.value, PlacedParam.value, same]
  · exact List.subset_append_left _ _

theorem cpSeqRanParams_takes {params : List PlacedParam}
    (copies : ∀ param ∈ params, Copies heap param.ranParamVal) :
    Takes old (cpSeqRanParams heap params)
      (∀ param ∈ params, 0 < param.ranParamId ∧ param.ranParamVal.value.Passes)
      (paramValues · = paramValues params) paramBlocks := by
  induction params generalizing old with
  | nil =>
      have start : Takes old (pure [] : Allocates CpFailure (List PlacedParam)) True
          (paramValues · = []) paramBlocks := .of_pure rfl (List.nil_subset _)
      exact start.iff (by simp)
  | cons param params ih =>
      have here := copies param List.mem_cons_self
      have rest (old : List Addr) :=
        @ih old fun param mem => copies param (List.mem_cons_of_mem _ mem)
      apply ((cpSeqRanParam_takes here).bind fun dst same => (rest _).bind fun dsts others =>
        Takes.of_pure ?_ ?_).iff (by rw [List.forall_mem_cons, and_true])
      · rw [paramValues, paramValues, same, others]
      · intro b mem
        rcases List.mem_append.mp mem with first | later
        · exact List.mem_append_right _ (List.mem_append_left _ first)
        · exact List.mem_append_left _ later

/-- What a structure goes through for. -/
def StructPasses (params : List SeqRanParam) : Prop :=
  (CountFits params ∧ ∀ param ∈ params, 0 < param.ranParamId) ∧
    ∀ param ∈ params, param.ranParamVal.Passes

theorem cpRanParamStruct_takes {strct : PlacedStruct}
    (copies : ∀ param ∈ strct.params, Copies heap param.ranParamVal) :
    Takes old (cpRanParamStruct heap strct) (StructPasses strct.value) (·.value = strct.value)
      PlacedStruct.blocks := by
  obtain ⟨array, params⟩ := strct
  apply ((Takes.of_lift Yields.of_check).bind fun _ _ => (Takes.of_calloc heap).bind fun dst _ =>
    (cpSeqRanParams_takes copies).bind fun dsts same => Takes.of_pure ?_ ?_).iff
  · rw [StructPasses, PlacedStruct.value, CountFits, length_paramValues, paramValues_eq]
    simp only [List.forall_mem_map, PlacedParam.value_id, PlacedParam.value_val, forall_and,
      and_true, true_and, and_assoc]
    exact and_congr_right fun _ => and_congr_left fun _ => Nat.lt_succ_iff
  · exact same
  · intro b mem
    rcases List.mem_cons.mp mem with rfl | later
    · simp
    · exact List.mem_append_left _ later

theorem StructPasses.equal {params : List SeqRanParam} (passes : StructPasses params) :
    eqLstRanParam params params = .ok true :=
  (eqLstRanParam_true_iff params params).mpr
    ⟨List.forall₂_same.mpr fun param mem => ⟨rfl, (passes.2 param mem).agree_self⟩, passes.1.1,
      fun param mem => (passes.2 param mem).sized⟩

theorem cpLstRanParams_takes {structs : List PlacedStruct}
    (copies : ∀ strct ∈ structs, ∀ param ∈ strct.params, Copies heap param.ranParamVal) :
    Takes old (cpLstRanParams heap structs) (∀ strct ∈ structs, StructPasses strct.value)
      (structValues · = structValues structs) structBlocks := by
  induction structs generalizing old with
  | nil =>
      have start : Takes old (pure [] : Allocates CpFailure (List PlacedStruct)) True
          (structValues · = []) structBlocks := .of_pure rfl (List.nil_subset _)
      exact start.iff (by simp)
  | cons strct structs ih =>
      have here := copies strct List.mem_cons_self
      have rest (old : List Addr) :=
        @ih old fun strct mem => copies strct (List.mem_cons_of_mem _ mem)
      have compared {old : List Addr} {dst : PlacedStruct} (same : dst.value = strct.value) :
          Takes old (liftM (assertSame (eqLstRanParam dst.value strct.value)) :
            Allocates CpFailure Unit) (eqLstRanParam strct.value strct.value = .ok true)
            (fun _ => True) fun _ => [] := by
        rw [same]
        exact .of_lift assertSame_yields
      apply ((cpRanParamStruct_takes here).bind fun dst same => (compared same).bind fun _ _ =>
        (rest _).bind fun dsts others => Takes.of_pure ?_ ?_).iff
      · rw [List.forall_mem_cons, and_true]
        exact and_congr_right fun passes => and_iff_right passes.equal
      · rw [structValues, structValues, same, others]
      · intro b mem
        rcases List.mem_append.mp mem with first | later
        · simp [first]
        · exact List.mem_append_left _ later

theorem passes_strct_iff {params : List SeqRanParam} :
    (RanParamValType.strct params).Passes ↔ StructPasses params := every_strct_iff

theorem passes_lst_iff {structs : List (List SeqRanParam)} :
    (RanParamValType.lst structs).Passes ↔ ∀ params ∈ structs, StructPasses params :=
  every_lst_iff

theorem callocArray_takes {α : Type} (items : List α) :
    Takes old (callocArray heap items) True (fun _ => True) Option.toList := by
  rw [callocArray]
  split
  case isTrue => exact .of_pure trivial (List.nil_subset _)
  case isFalse =>
      exact (Takes.of_calloc heap).map (fun _ _ => trivial) fun _ => List.Subset.refl _

/-- What is copied part by part goes through for the comparison after it. -/
theorem RanParamValType.Passes.confirms {val : RanParamValType} {parts : Prop}
    (same : parts ↔ val.Passes) : parts ∧ val.Agree val ∧ val.Sized ↔ val.Passes := by
  rw [same]
  exact and_iff_left_of_imp fun passes => ⟨passes.agree_self, passes.sized⟩

theorem flagTrue_passes_iff {value : RanParameterValue} :
    (RanParamValType.flagTrue value).Agree (.flagTrue value) ∧
      (RanParamValType.flagTrue value).Sized ↔ (RanParamValType.flagTrue value).Passes := by
  have number : (RanParamValType.flagTrue value).Passes ↔ value.IsNumber := every_flagTrue_iff
  rw [number, ← value.agree_self_iff]
  constructor
  · rintro ⟨agree, -⟩
    cases agree with
    | flagTrue same => exact same
  · exact fun same => ⟨.flagTrue same, .flagTrue trivial⟩

theorem flagFalse_passes_iff {value : RanParameterValue} :
    (RanParamValType.flagFalse value).Agree (.flagFalse value) ∧
      (RanParamValType.flagFalse value).Sized ↔ (RanParamValType.flagFalse value).Passes := by
  have number : (RanParamValType.flagFalse value).Passes ↔ value.IsNumber := every_flagFalse_iff
  rw [number, ← value.agree_self_iff]
  constructor
  · rintro ⟨agree, -⟩
    cases agree with
    | flagFalse same => exact same
  · exact fun same => ⟨.flagFalse same, .flagFalse trivial⟩

/-- A block and what it points to, all of them taken. -/
theorem block_subset {block : Addr} {blocks : List Addr} :
    block :: blocks ⊆ blocks ++ ([block] ++ old) := by
  intro b mem
  rcases List.mem_cons.mp mem with rfl | later
  · simp
  · exact List.mem_append_left _ later

theorem cpRanParamValType_takes (src : PlacedValType) : Copies heap src := by
  induction src using PlacedValType.rec_params with
  | flagTrue srcBlock srcValue =>
      intro old
      have confirmed (block : Addr) (value : PlacedValue) (same : value.value = srcValue.value) :=
        @confirmed_takes _ (.flagTrue block value) (.flagTrue srcBlock srcValue)
          (congrArg RanParamValType.flagTrue same) (@block_subset old _ _)
      apply ((Takes.of_calloc heap).bind fun block _ => (cpRanParameterValue_takes srcValue).bind
        fun value same => confirmed block value same).iff
      rw [true_and, true_and]
      exact flagTrue_passes_iff
  | flagFalse srcBlock srcValue =>
      intro old
      have confirmed (block : Addr) (value : PlacedValue) (same : value.value = srcValue.value) :=
        @confirmed_takes _ (.flagFalse block value) (.flagFalse srcBlock srcValue)
          (congrArg RanParamValType.flagFalse same) (@block_subset old _ _)
      apply ((Takes.of_calloc heap).bind fun block _ => (cpRanParameterValue_takes srcValue).bind
        fun value same => confirmed block value same).iff
      rw [true_and, true_and]
      exact flagFalse_passes_iff
  | strct srcBlock srcArray srcParams ih =>
      intro old
      have params (old : List Addr) :=
        @cpRanParamStruct_takes heap old ⟨srcArray, srcParams⟩ fun param mem => ih param mem
      have confirmed (block : Addr) (dst : PlacedStruct)
          (same : dst.value = (PlacedStruct.mk srcArray srcParams).value) :=
        @confirmed_takes _ (.strct block dst) (.strct srcBlock ⟨srcArray, srcParams⟩)
          (congrArg RanParamValType.strct same) (@block_subset old _ _)
      apply ((Takes.of_calloc heap).bind fun block _ => (params _).bind
        fun dst same => confirmed block dst same).iff
      rw [true_and]
      exact RanParamValType.Passes.confirms passes_strct_iff.symm
  | lst srcBlock srcArray srcStructs ih =>
      intro old
      have structs (old : List Addr) := @cpLstRanParams_takes heap old srcStructs ih
      have known (block : Addr) (array : Option Addr) (dst : List PlacedStruct) :
          (PlacedValType.lst block array dst).blocks ⊆
            structBlocks dst ++ (array.toList ++ ([block] ++ old)) := by
        intro b mem
        simp only [PlacedValType.blocks, List.mem_cons, List.mem_append] at mem
        simp only [List.mem_append, List.mem_singleton]
        rcases mem with here | inArray | later
        · exact .inr (.inr (.inl here))
        · exact .inr (.inl inArray)
        · exact .inl later
      have confirmed (block : Addr) (array : Option Addr) (dst : List PlacedStruct)
          (same : structValues dst = structValues srcStructs) :=
        @confirmed_takes _ (.lst block array dst) (.lst srcBlock srcArray srcStructs)
          (congrArg RanParamValType.lst same) (known block array dst)
      apply ((Takes.of_calloc heap).bind fun block _ => (callocArray_takes srcStructs).bind
        fun array _ => (structs _).bind fun dst same => confirmed block array dst same).iff
      rw [true_and, true_and]
      apply RanParamValType.Passes.confirms
      rw [PlacedValType.value, passes_lst_iff, structValues_eq, List.forall_mem_map]

end

/-- Just the decoded values without a real value that is not a number, and without an id that
    is zero, are copied into blocks of their own. -/
theorem ran_param_value_copied_iff (heap : Allocator) (pdu : RanParameterValueType)
    (src : PlacedValType) (used : List Addr) (decoded : decRanParamValueType pdu = .ok src.value)
    (inUse : src.blocks ⊆ used) :
    (∃ dst later, (cpRanParamValType heap src).run used = .ok (dst, later) ∧
      dst.value = src.value ∧ ∀ b ∈ dst.blocks, b ∉ src.blocks) ↔
    src.value.Every RanParameterValue.IsNumber
      fun params => ∀ param ∈ params, 0 < param.ranParamId := by
  have yields := @cpRanParamValType_takes heap src [] used
  constructor
  · rintro ⟨dst, later, copied, -, -⟩
    exact (yields.given _ copied).1.mono (fun _ => id) fun _ => And.right
  · intro every
    have passes : src.value.Passes :=
      ((decRanParamValueType_sized decoded).and every).mono (fun _ => And.right) fun _ => id
    obtain ⟨⟨dst, later⟩, copied⟩ := yields.completes passes
    obtain ⟨same, -, new⟩ := (yields.given _ copied).2
    exact ⟨dst, later, copied, same, fun b mem memSrc => nomatch new b mem (inUse memSrc)⟩

/-- A structure of an empty string and a list without structures. -/
def degenerate : PlacedValType :=
  .strct 1 ⟨2, [⟨7, .flagTrue 3 (.octetStrRan 4 [])⟩, ⟨8, .lst 5 (some 6) []⟩]⟩

theorem ran_param_value_copied_degenerate :
    ∃ dst later, (cpRanParamValType .above degenerate).run [1, 2, 3, 4, 5, 6] = .ok (dst, later) ∧
      dst.value = degenerate.value ∧ ∀ b ∈ dst.blocks, b ∉ degenerate.blocks :=
  (ran_param_value_copied_iff .above
    (.struct ⟨some [⟨7, .elementTrue (.valueOctS [])⟩, ⟨8, .list []⟩]⟩) degenerate
    [1, 2, 3, 4, 5, 6] rfl (List.Subset.refl _)).mpr
    (.strct (by decide) (List.forall_mem_cons.mpr
      ⟨.flagTrue trivial, List.forall_mem_singleton.mpr (.lst nofun nofun)⟩))

/-- A `double` that is not a number. -/
def notANumber : UInt64 := 0x7FF8000000000000

/-- What is not a number is not copied, nor is a parameter whose id was cut to zero. -/
theorem not_a_number_not_copied :
    decRanParamValueType (.elementTrue (.valueReal notANumber)) =
      .ok (PlacedValType.flagTrue 1 (.realRan notANumber)).value ∧
    (cpRanParamValType .above (.flagTrue 1 (.realRan notANumber))).run [1] =
      .error (.eq .notANumber) ∧
    decRanParamValueType (.struct ⟨some [⟨4294967296, .elementTrue (.valueInt 5)⟩]⟩) =
      .ok (PlacedValType.strct 1 ⟨2, [⟨0, .flagTrue 3 (.intRan 5)⟩]⟩).value ∧
    (cpRanParamValType .above (.strct 1 ⟨2, [⟨0, .flagTrue 3 (.intRan 5)⟩]⟩)).run [1, 2, 3] =
      .error .id := by
  exact ⟨rfl, rfl, rfl, rfl⟩

end FlexRic.Rc
