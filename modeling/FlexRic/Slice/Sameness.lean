import FlexRic.Slice.Equality

/-! # Where slice messages are compared and copied right

Two messages agree when they have one type and the same in every field. A comparison takes
agreeing messages for the same; otherwise it stops the process, or takes what differs in a
scheduler for the same, unless a name or a number of slices differs early enough.
-/

namespace FlexRic.Slice

open Wire

structure RateAgree (m0 m1 : NvsRate) : Prop where
  required : sameFloat m0.mbpsRequired m1.mbpsRequired = true
  reference : sameFloat m0.mbpsReference m1.mbpsReference = true

def NvsAgree : NvsSlice → NvsSlice → Prop
  | .rate m0, .rate m1 => RateAgree m0 m1
  | .capacity m0, .capacity m1 => sameFloat m0.pctReserved m1.pctReserved = true
  | _, _ => False

structure OnDemandAgree (m0 m1 : Scn19OnDemand) : Prop where
  pctReserved : sameFloat m0.pctReserved m1.pctReserved = true
  logDelta : sameFloat m0.logDelta m1.logDelta = true
  tau : m0.tau = m1.tau

def Scn19Agree : Scn19Slice → Scn19Slice → Prop
  | .dynamic m0, .dynamic m1 => RateAgree m0 m1
  | .fixed m0, .fixed m1 => m0 = m1
  | .onDemand m0, .onDemand m1 => OnDemandAgree m0 m1
  | _, _ => False

def ParamsAgree : SliceParams → SliceParams → Prop
  | .sta m0, .sta m1 => m0 = m1
  | .nvs m0, .nvs m1 => NvsAgree m0 m1
  | .scn19 m0, .scn19 m1 => Scn19Agree m0 m1
  | .edf m0, .edf m1 => m0 = m1
  | _, _ => False

structure SliceAgree (m0 m1 : FrSlice) : Prop where
  id : m0.id = m1.id
  label : m0.label = m1.label
  sched : m0.sched = m1.sched
  params : ParamsAgree m0.params m1.params

structure UlDlAgree (m0 m1 : UlDlSliceConf) : Prop where
  schedName : m0.schedName = m1.schedName
  slices : List.Forall₂ SliceAgree m0.slices.items.toList m1.slices.items.toList

structure ConfAgree (m0 m1 : SliceConf) : Prop where
  dl : UlDlAgree m0.dl m1.dl
  ul : UlDlAgree m0.ul m1.ul

structure IndMsgAgree (m0 m1 : SliceIndMsg) : Prop where
  sliceConf : ConfAgree m0.sliceConf m1.sliceConf
  ueSliceConf : m0.ueSliceConf = m1.ueSliceConf
  tstamp : m0.tstamp = m1.tstamp

def CtrlMsgAgree : SliceCtrlMsg → SliceCtrlMsg → Prop
  | .addModSlice m0, .addModSlice m1 => ConfAgree m0 m1
  | .delSlice m0, .delSlice m1 => m0 = m1
  | .ueSlice m0, .ueSlice m1 => m0 = m1
  | _, _ => False

theorem counted_eq_iff {α : Type} {a b : Counted α} :
    a.len = b.len ∧ a.items.toList = b.items.toList ↔ a = b := by
  constructor
  · rintro ⟨-, lists⟩
    exact Counted.eq_of_toList lists
  · rintro rfl
    exact ⟨rfl, rfl⟩

theorem eqStaticSlice_iff {m0 m1 : StaticSlice} : eqStaticSlice m0 m1 = true ↔ m0 = m1 := by
  cases m0
  cases m1
  simp [eqStaticSlice, and_comm]

theorem eqNvsRate_iff {m0 m1 : NvsRate} : eqNvsRate m0 m1 = true ↔ RateAgree m0 m1 := by
  rw [eqNvsRate, Bool.and_eq_true]
  constructor
  · rintro ⟨reference, required⟩
    exact ⟨required, reference⟩
  · rintro ⟨required, reference⟩
    exact ⟨reference, required⟩

theorem eqNvsSlice_iff {m0 m1 : NvsSlice} : eqNvsSlice m0 m1 = true ↔ NvsAgree m0 m1 := by
  cases m0 <;> cases m1 <;> simp [eqNvsSlice, NvsAgree, eqNvsRate_iff, eqNvsCap]

theorem eqScn19OnDemand_iff {m0 m1 : Scn19OnDemand} :
    eqScn19OnDemand m0 m1 = true ↔ OnDemandAgree m0 m1 := by
  simp only [eqScn19OnDemand, Bool.and_eq_true, decide_eq_true_iff]
  constructor
  · rintro ⟨⟨logDelta, pctReserved⟩, tau⟩
    exact ⟨pctReserved, logDelta, tau⟩
  · rintro ⟨pctReserved, logDelta, tau⟩
    exact ⟨⟨logDelta, pctReserved⟩, tau⟩

theorem eqScn19Slice_iff {m0 m1 : Scn19Slice} :
    eqScn19Slice m0 m1 = true ↔ Scn19Agree m0 m1 := by
  cases m0 <;> cases m1 <;>
    simp [eqScn19Slice, Scn19Agree, eqNvsRate_iff, eqStaticSlice_iff, eqScn19OnDemand_iff]

theorem eqEdfSlice_true_iff {m0 m1 : EdfSlice} : eqEdfSlice m0 m1 = .ok true ↔ m0 = m1 := by
  simp only [eqEdfSlice, bind_eq_ok, orAbort_eq_ok, pure_eq_ok, decide_eq_true_iff,
    exists_const, Bool.and_eq_true]
  constructor
  · rintro ⟨-, lists, ⟨⟨deadline, guaranteedPrbs⟩, maxReplenish⟩, -⟩
    cases m0
    cases m1
    exact EdfSlice.mk.injEq .. ▸
      ⟨deadline, guaranteedPrbs, maxReplenish, Counted.eq_of_toList lists⟩
  · rintro rfl
    exact ⟨rfl, rfl, ⟨⟨rfl, rfl⟩, rfl⟩, rfl⟩

theorem eqAlgorithm_true_iff {m0 m1 : SliceParams} :
    eqAlgorithm m0 m1 = .ok true ↔ ParamsAgree m0 m1 := by
  cases m0 <;> cases m1 <;>
    simp [eqAlgorithm, ParamsAgree, eqStaticSlice_iff, eqNvsSlice_iff, eqScn19Slice_iff,
      eqEdfSlice_true_iff]

theorem ParamsAgree.type {m0 m1 : SliceParams} (agree : ParamsAgree m0 m1) :
    m0.type = m1.type := by
  cases m0 <;> cases m1 <;> first | rfl | cases agree

theorem eqSliceParams_true_iff {m0 m1 : SliceParams} :
    eqSliceParams m0 m1 = .ok true ↔ ParamsAgree m0 m1 := by
  rw [eqSliceParams]
  split
  case isTrue differ =>
    refine iff_of_false (fun no => ?_) fun agree => differ agree.type
    cases no
  case isFalse =>
    simp only [bind_eq_ok, orAbort_eq_ok, pure_eq_ok, eqAlgorithm_true_iff, exists_const, and_true]

/-- What is compared of two slices. -/
structure SliceLike (m0 m1 : FrSlice) : Prop where
  id : m0.id = m1.id
  label : m0.label = m1.label
  schedLen : m0.sched.len = m1.sched.len
  params : ParamsAgree m0.params m1.params

/-- What is compared of two directions. -/
structure UlDlLike (m0 m1 : UlDlSliceConf) : Prop where
  schedName : m0.schedName = m1.schedName
  slices : List.Forall₂ SliceLike m0.slices.items.toList m1.slices.items.toList

/-- What is compared of two configurations. -/
structure ConfLike (m0 m1 : SliceConf) : Prop where
  ul : UlDlLike m0.ul m1.ul
  dl : UlDlLike m0.dl m1.dl

theorem UlDlAgree.like {m0 m1 : UlDlSliceConf} (agree : UlDlAgree m0 m1) : UlDlLike m0 m1 where
  schedName := agree.schedName
  slices := agree.slices.imp fun _ _ slice =>
    ⟨slice.id, slice.label, congrArg Counted.len slice.sched, slice.params⟩

theorem ConfAgree.like {m0 m1 : SliceConf} (agree : ConfAgree m0 m1) : ConfLike m0 m1 :=
  ⟨agree.ul.like, agree.dl.like⟩

theorem eqSlice_true_iff {m0 m1 : FrSlice} : eqSlice m0 m1 = .ok true ↔ SliceLike m0 m1 := by
  simp only [eqSlice, both_true_iff, pure_eq_ok, decide_eq_true_iff, eqSliceParams_true_iff]
  constructor
  · rintro ⟨id, -, label, schedLen, params⟩
    exact ⟨id, Counted.eq_of_toList label, schedLen, params⟩
  · rintro ⟨id, label, schedLen, params⟩
    obtain ⟨labelLen, labelBytes⟩ := counted_eq_iff.mpr label
    exact ⟨id, labelLen, labelBytes, schedLen, params⟩

theorem orAbort_eqSlice {s0 s1 : FrSlice} :
    orAbort (eqSlice s0 s1) = .ok () ↔ SliceLike s0 s1 := by
  rw [orAbort_eq_ok, eqSlice_true_iff]

/-- Names and numbers of slices are compared before the first slice. -/
def UlDlEarly (m0 m1 : UlDlSliceConf) : Prop :=
  m0.schedName ≠ m1.schedName ∨ m0.slices.len ≠ m1.slices.len

theorem UlDlLike.numbers {m0 m1 : UlDlSliceConf} (like : UlDlLike m0 m1) :
    m0.slices.len = m1.slices.len := by
  have lengths := like.slices.length_eq
  simpa [UInt32.toNat_inj] using lengths

theorem eqUlDlSliceConf_true_iff {m0 m1 : UlDlSliceConf} :
    eqUlDlSliceConf m0 m1 = .ok true ↔ UlDlLike m0 m1 := by
  simp only [eqUlDlSliceConf, eqSchedName, both_true_iff, pure_eq_ok, decide_eq_true_iff,
    bind_eq_ok, and_true]
  constructor
  · rintro ⟨-, name, numbers, _, each⟩
    refine ⟨Counted.eq_of_toList name, (eachPair_eq_ok ?_ fun _ _ => orAbort_eqSlice).mp each⟩
    simp [numbers]
  · intro like
    obtain ⟨nameLen, nameBytes⟩ := counted_eq_iff.mpr like.schedName
    exact ⟨nameLen, nameBytes, like.numbers, (),
      (eachPair_eq_ok like.slices.length_eq fun _ _ => orAbort_eqSlice).mpr like.slices⟩

theorem eqUlDlSliceConf_false_iff {m0 m1 : UlDlSliceConf} :
    eqUlDlSliceConf m0 m1 = .ok false ↔ UlDlEarly m0 m1 := by
  simp only [eqUlDlSliceConf, eqSchedName, both_false_iff, pure_eq_ok, decide_eq_true_iff,
    decide_eq_false_iff_not, bind_eq_ok, Bool.true_eq_false, and_false, exists_const, or_false]
  have names := counted_eq_iff (a := m0.schedName) (b := m1.schedName)
  rw [UlDlEarly, Ne, ← names]
  tauto

/-- A direction that is compared first has to be alike for the other to be looked at. -/
def ConfEarly (m0 m1 : SliceConf) : Prop :=
  UlDlEarly m0.ul m1.ul ∨ UlDlLike m0.ul m1.ul ∧ UlDlEarly m0.dl m1.dl

theorem eqSliceConf_true_iff {m0 m1 : SliceConf} :
    eqSliceConf m0 m1 = .ok true ↔ ConfLike m0 m1 := by
  rw [eqSliceConf, both_true_iff, eqUlDlSliceConf_true_iff, eqUlDlSliceConf_true_iff]
  exact ⟨fun like => ⟨like.1, like.2⟩, fun like => ⟨like.ul, like.dl⟩⟩

theorem eqSliceConf_false_iff {m0 m1 : SliceConf} :
    eqSliceConf m0 m1 = .ok false ↔ ConfEarly m0 m1 := by
  rw [eqSliceConf, both_false_iff, eqUlDlSliceConf_true_iff, eqUlDlSliceConf_false_iff,
    eqUlDlSliceConf_false_iff, ConfEarly]

theorem eqUeSliceAssoc_iff {m0 m1 : UeSliceAssoc} : eqUeSliceAssoc m0 m1 = true ↔ m0 = m1 := by
  cases m0
  cases m1
  simp only [eqUeSliceAssoc, Bool.and_eq_true, decide_eq_true_iff, UeSliceAssoc.mk.injEq]
  tauto

theorem eqUeSliceConf_iff {m0 m1 : UeSliceConf} : eqUeSliceConf m0 m1 = true ↔ m0 = m1 := by
  have each (ues ues' : List UeSliceAssoc) (lengths : ues.length = ues'.length) :
      ((ues.zip ues').all fun ue => eqUeSliceAssoc ue.1 ue.2) = true ↔ ues = ues' := by
    rw [← List.forall₂_eq_eq_eq, List.forall₂_iff_zip, List.all_eq_true, and_iff_right lengths]
    simp only [eqUeSliceAssoc_iff, Prod.forall]
  rw [eqUeSliceConf, Bool.and_eq_true, decide_eq_true_iff, ← counted_eq_iff]
  refine and_congr_right fun lengths => each _ _ ?_
  simp [lengths]

/-- What differs of two messages without a process being stopped. -/
def IndMsgEarly (m0 m1 : SliceIndMsg) : Prop :=
  ConfEarly m0.sliceConf m1.sliceConf ∨
  ConfLike m0.sliceConf m1.sliceConf ∧ (m0.ueSliceConf ≠ m1.ueSliceConf ∨ m0.tstamp ≠ m1.tstamp)

theorem eqSliceIndMsg_true_iff {m0 m1 : SliceIndMsg} :
    eqSliceIndMsg m0 m1 = .ok true ↔
      ConfLike m0.sliceConf m1.sliceConf ∧ m0.ueSliceConf = m1.ueSliceConf ∧
        m0.tstamp = m1.tstamp := by
  rw [eqSliceIndMsg, both_true_iff, eqSliceConf_true_iff, pure_eq_ok, Bool.and_eq_true,
    eqUeSliceConf_iff, decide_eq_true_iff]

theorem eqSliceIndMsg_false_iff {m0 m1 : SliceIndMsg} :
    eqSliceIndMsg m0 m1 = .ok false ↔ IndMsgEarly m0 m1 := by
  rw [eqSliceIndMsg, both_false_iff, eqSliceConf_true_iff, eqSliceConf_false_iff, pure_eq_ok,
    Bool.and_eq_false_iff, decide_eq_false_iff_not, ← Bool.not_eq_true, eqUeSliceConf_iff,
    IndMsgEarly]

theorem eqSliceIndMsg_tells_iff (m0 m1 : SliceIndMsg) :
    Tells (eqSliceIndMsg m0 m1) (IndMsgAgree m0 m1) ↔ IndMsgAgree m0 m1 ∨ IndMsgEarly m0 m1 := by
  rw [← eqSliceIndMsg_false_iff]
  apply tells_iff_of_complete
  intro agree
  exact eqSliceIndMsg_true_iff.mpr ⟨agree.sliceConf.like, agree.ueSliceConf, agree.tstamp⟩

theorem eqDelSlice_iff {m0 m1 : DelSliceConf} : eqDelSlice m0 m1 = true ↔ m0 = m1 := by
  obtain ⟨dl, ul⟩ := m0
  obtain ⟨dl', ul'⟩ := m1
  simp only [eqDelSlice, Bool.and_eq_true, decide_eq_true_iff, and_assoc, DelSliceConf.mk.injEq,
    ← counted_eq_iff (a := dl), ← counted_eq_iff (a := ul)]

/-- Messages of two types that are told apart: the lengths read from the second differ before
    an array is. -/
def OtherMemberEarly : SliceCtrlMsg → SliceCtrlMsg → Prop
  | .addModSlice _, _ => False
  | .delSlice m0, m1 =>
      m0.dl.len ≠ m1.firstLen ∨ m0.dl.len = 0 ∧ ∃ len ∈ m1.secondLen, m0.ul.len ≠ len
  | .ueSlice m0, m1 => m0.len ≠ m1.firstLen

/-- Nothing goes on behind a test that fails. -/
theorem ite_eq_false_iff {c : Prop} [Decidable c] {rest : Except Abort Bool} :
    (if c then pure false else rest) = .ok false ↔ c ∨ rest = .ok false := by
  split <;> simp [*]

theorem ite_throw_eq_iff {c : Prop} [Decidable c] {e : Abort} {rest : Except Abort Bool}
    {b : Bool} : (if c then throw e else rest) = .ok b ↔ ¬c ∧ rest = .ok b := by
  split <;> simp [*, throw, throwThe, MonadExceptOf.throw]

theorem eqOtherMember_false_iff {m0 m1 : SliceCtrlMsg} :
    eqOtherMember m0 m1 = .ok false ↔ OtherMemberEarly m0 m1 := by
  cases m0 with
  | addModSlice m0 => exact iff_of_false (fun no => nomatch no) id
  | delSlice m0 =>
      simp only [eqOtherMember, OtherMemberEarly, ite_eq_false_iff, ite_throw_eq_iff]
      cases m1.secondLen with
      | none => simp [throw, throwThe, MonadExceptOf.throw]
      | some len =>
          simp only [ite_eq_false_iff, ite_throw_eq_iff]
          simp
  | ueSlice m0 =>
      simp only [eqOtherMember, OtherMemberEarly, ite_eq_false_iff, ite_throw_eq_iff]
      simp

/-- What differs of two messages without a process being stopped, or a field being read that
    is not there. -/
def CtrlMsgEarly : SliceCtrlMsg → SliceCtrlMsg → Prop
  | .addModSlice m0, .addModSlice m1 => ConfEarly m0 m1
  | .delSlice m0, .delSlice m1 => m0 ≠ m1
  | .ueSlice m0, .ueSlice m1 => m0 ≠ m1
  | m0, m1 => OtherMemberEarly m0 m1

theorem eqSliceCtrlMsg_false_iff {m0 m1 : SliceCtrlMsg} :
    eqSliceCtrlMsg m0 m1 = .ok false ↔ CtrlMsgEarly m0 m1 := by
  cases m0 <;> cases m1 <;>
    simp [eqSliceCtrlMsg, CtrlMsgEarly, eqSliceConf_false_iff, eqOtherMember_false_iff,
      ← eqDelSlice_iff, ← eqUeSliceConf_iff]

theorem eqSliceCtrlMsg_of_agree {m0 m1 : SliceCtrlMsg} (agree : CtrlMsgAgree m0 m1) :
    eqSliceCtrlMsg m0 m1 = .ok true := by
  cases m0 with
  | addModSlice m0 =>
      cases m1 with
      | addModSlice m1 => exact eqSliceConf_true_iff.mpr (ConfAgree.like agree)
      | delSlice m1 | ueSlice m1 => cases agree
  | delSlice m0 =>
      cases m1 with
      | delSlice m1 => exact congrArg Except.ok (eqDelSlice_iff.mpr agree)
      | addModSlice m1 | ueSlice m1 => cases agree
  | ueSlice m0 =>
      cases m1 with
      | ueSlice m1 => exact congrArg Except.ok (eqUeSliceConf_iff.mpr agree)
      | addModSlice m1 | delSlice m1 => cases agree

theorem eqSliceCtrlMsg_tells_iff (m0 m1 : SliceCtrlMsg) :
    Tells (eqSliceCtrlMsg m0 m1) (CtrlMsgAgree m0 m1) ↔
      CtrlMsgAgree m0 m1 ∨ CtrlMsgEarly m0 m1 := by
  rw [tells_iff_of_complete eqSliceCtrlMsg_of_agree, eqSliceCtrlMsg_false_iff]

theorem eqSliceCtrlOut_iff {m0 m1 : SliceCtrlOut} :
    eqSliceCtrlOut m0 m1 = true ↔ m0.diagnostic = m1.diagnostic := by
  rw [eqSliceCtrlOut, Bool.and_eq_true, decide_eq_true_iff, decide_eq_true_iff, counted_eq_iff]

theorem eqSliceCtrlOut_tells_iff (m0 m1 : SliceCtrlOut) :
    (eqSliceCtrlOut m0 m1 = true ↔ m0 = m1) ↔
      (m0.diagnostic = m1.diagnostic → m0.ans = m1.ans) := by
  rw [eqSliceCtrlOut_iff]
  constructor
  · intro exactly same
    rw [exactly.mp same]
  · intro answers
    constructor
    · intro same
      cases m0
      cases m1
      exact SliceCtrlOut.mk.injEq .. ▸ ⟨answers same, same⟩
    · rintro rfl
      rfl

def RateNumbers (rate : NvsRate) : Prop :=
  IsNumber rate.mbpsRequired ∧ IsNumber rate.mbpsReference

def NvsNumbers : NvsSlice → Prop
  | .rate rate => RateNumbers rate
  | .capacity capacity => IsNumber capacity.pctReserved

def Scn19Numbers : Scn19Slice → Prop
  | .dynamic rate => RateNumbers rate
  | .fixed _ => True
  | .onDemand scn => IsNumber scn.pctReserved ∧ IsNumber scn.logDelta

def ParamsNumbers : SliceParams → Prop
  | .nvs nvs => NvsNumbers nvs
  | .scn19 scn => Scn19Numbers scn
  | .sta _ | .edf _ => True

def UlDlNumbers (conf : UlDlSliceConf) : Prop :=
  ∀ slice ∈ conf.slices.items.toList, ParamsNumbers slice.params

/-- Every field of type `float` is a number. -/
def ConfNumbers (conf : SliceConf) : Prop := UlDlNumbers conf.dl ∧ UlDlNumbers conf.ul

def CtrlMsgNumbers : SliceCtrlMsg → Prop
  | .addModSlice conf => ConfNumbers conf
  | .delSlice _ | .ueSlice _ => True

theorem sameFloat_self_iff {a : FloatBits} : sameFloat a a = true ↔ IsNumber a :=
  float_beq_self_iff

theorem rateAgree_self_iff {rate : NvsRate} : RateAgree rate rate ↔ RateNumbers rate := by
  rw [RateNumbers, ← sameFloat_self_iff, ← sameFloat_self_iff]
  exact ⟨fun agree => ⟨agree.required, agree.reference⟩, fun same => ⟨same.1, same.2⟩⟩

theorem onDemandAgree_self_iff {scn : Scn19OnDemand} :
    OnDemandAgree scn scn ↔ IsNumber scn.pctReserved ∧ IsNumber scn.logDelta := by
  rw [← sameFloat_self_iff, ← sameFloat_self_iff]
  exact ⟨fun agree => ⟨agree.pctReserved, agree.logDelta⟩, fun same => ⟨same.1, same.2, rfl⟩⟩

theorem paramsAgree_self_iff {par : SliceParams} : ParamsAgree par par ↔ ParamsNumbers par := by
  cases par with
  | sta sta => exact iff_of_true rfl trivial
  | nvs nvs =>
      cases nvs with
      | rate rate => exact rateAgree_self_iff
      | capacity capacity => exact sameFloat_self_iff
  | scn19 scn =>
      cases scn with
      | dynamic rate => exact rateAgree_self_iff
      | fixed sta => exact iff_of_true rfl trivial
      | onDemand scn => exact onDemandAgree_self_iff
  | edf edf => exact iff_of_true rfl trivial

theorem sliceLike_self_iff {slice : FrSlice} :
    SliceLike slice slice ↔ ParamsNumbers slice.params := by
  rw [← paramsAgree_self_iff]
  exact ⟨SliceLike.params, fun params => ⟨rfl, rfl, rfl, params⟩⟩

theorem ulDlLike_self_iff {conf : UlDlSliceConf} : UlDlLike conf conf ↔ UlDlNumbers conf := by
  have each : List.Forall₂ SliceLike conf.slices.items.toList conf.slices.items.toList ↔
      UlDlNumbers conf :=
    List.forall₂_same.trans (forall₂_congr fun _ _ => sliceLike_self_iff)
  exact ⟨fun like => each.mp like.slices, fun numbers => ⟨rfl, each.mpr numbers⟩⟩

theorem confLike_self_iff {conf : SliceConf} : ConfLike conf conf ↔ ConfNumbers conf := by
  rw [ConfNumbers, ← ulDlLike_self_iff, ← ulDlLike_self_iff]
  exact ⟨fun like => ⟨like.dl, like.ul⟩, fun like => ⟨like.2, like.1⟩⟩

theorem eqSliceCtrlMsg_self_iff {c : SliceCtrlMsg} :
    eqSliceCtrlMsg c c = .ok true ↔ CtrlMsgNumbers c := by
  cases c with
  | addModSlice conf => exact eqSliceConf_true_iff.trans confLike_self_iff
  | delSlice conf =>
      exact iff_of_true (congrArg Except.ok (eqDelSlice_iff.mpr rfl)) trivial
  | ueSlice conf =>
      exact iff_of_true (congrArg Except.ok (eqUeSliceConf_iff.mpr rfl)) trivial

theorem copyParams_eq (par : SliceParams) : copyParams par = par := by
  cases par with
  | sta | edf => rfl
  | nvs nvs => cases nvs <;> rfl
  | scn19 scn => cases scn <;> rfl

theorem orBadCopy_eq_ok {r : Except Abort Bool} {u : Unit} :
    orBadCopy r = .ok u ↔ r = .ok true := by
  simp [orBadCopy, bind_eq_ok]

theorem cpSliceParams_eq_ok {src dst : SliceParams} :
    cpSliceParams src = .ok dst ↔ ParamsNumbers src ∧ dst = src := by
  simp only [cpSliceParams, copyParams_eq, bind_eq_ok, orBadCopy_eq_ok, exists_const, pure_eq_ok,
    eqSliceParams_true_iff, paramsAgree_self_iff]
  rw [eq_comm (a := src)]

theorem cpySlice_eq_ok {src dst : FrSlice} :
    cpySlice src = .ok dst ↔ ParamsNumbers src.params ∧ dst = src := by
  simp only [cpySlice, bind_eq_ok, cpSliceParams_eq_ok, orBadCopy_eq_ok, exists_const, pure_eq_ok,
    eqSlice_true_iff]
  constructor
  · rintro ⟨_, ⟨numbers, rfl⟩, -, rfl⟩
    exact ⟨numbers, rfl⟩
  · rintro ⟨numbers, rfl⟩
    exact ⟨_, ⟨numbers, rfl⟩, sliceLike_self_iff.mpr numbers, rfl⟩

theorem cpySlices_eq_ok {n : Nat} {src dst : List.Vector FrSlice n} :
    cpySlices n src = .ok dst ↔
      (∀ slice ∈ src.toList, ParamsNumbers slice.params) ∧ dst = src := by
  induction n with
  | zero =>
      obtain rfl := src.eq_nil
      obtain rfl := dst.eq_nil
      simp [cpySlices]
  | succ n ih =>
      obtain ⟨slice, rest, rfl⟩ := src.exists_eq_cons
      simp only [cpySlices, bind_eq_ok, pure_eq_ok, List.Vector.head_cons, List.Vector.tail_cons,
        cpySlice_eq_ok, ih, List.Vector.toList_cons, List.forall_mem_cons]
      constructor
      · rintro ⟨_, ⟨first, rfl⟩, _, ⟨others, rfl⟩, rfl⟩
        exact ⟨⟨first, others⟩, rfl⟩
      · rintro ⟨⟨first, others⟩, rfl⟩
        exact ⟨_, ⟨first, rfl⟩, _, ⟨others, rfl⟩, rfl⟩

theorem cpyUlDlSliceConf_eq_ok {src dst : UlDlSliceConf} :
    cpyUlDlSliceConf src = .ok dst ↔ UlDlNumbers src ∧ dst = src := by
  simp only [cpyUlDlSliceConf, bind_eq_ok, cpySlices_eq_ok, orBadCopy_eq_ok, exists_const,
    pure_eq_ok, eqUlDlSliceConf_true_iff]
  constructor
  · rintro ⟨_, ⟨numbers, rfl⟩, -, rfl⟩
    exact ⟨numbers, rfl⟩
  · rintro ⟨numbers, rfl⟩
    exact ⟨_, ⟨numbers, rfl⟩, ulDlLike_self_iff.mpr numbers, rfl⟩

theorem cpSliceConf_eq_ok {src dst : SliceConf} :
    cpSliceConf src = .ok dst ↔ ConfNumbers src ∧ dst = src := by
  simp only [cpSliceConf, bind_eq_ok, cpyUlDlSliceConf_eq_ok, orBadCopy_eq_ok, exists_const,
    pure_eq_ok, eqSliceConf_true_iff]
  constructor
  · rintro ⟨_, ⟨dl, rfl⟩, _, ⟨ul, rfl⟩, -, rfl⟩
    exact ⟨⟨dl, ul⟩, rfl⟩
  · rintro ⟨numbers, rfl⟩
    exact ⟨_, ⟨numbers.1, rfl⟩, _, ⟨numbers.2, rfl⟩, confLike_self_iff.mpr numbers, rfl⟩

theorem cpUeSliceConf_eq (src : UeSliceConf) : cpUeSliceConf src = src := by
  have each : cpUeSliceAssoc = id := rfl
  apply Counted.eq_of_toList
  simp [cpUeSliceConf, each]

theorem cpSliceIndMsg_eq_ok {src dst : SliceIndMsg} :
    cpSliceIndMsg src = .ok dst ↔ ConfNumbers src.sliceConf ∧ dst = src := by
  simp only [cpSliceIndMsg, bind_eq_ok, cpSliceConf_eq_ok, orBadCopy_eq_ok, exists_const,
    pure_eq_ok, eqSliceIndMsg_true_iff, cpUeSliceConf_eq]
  constructor
  · rintro ⟨_, ⟨numbers, rfl⟩, -, rfl⟩
    exact ⟨numbers, rfl⟩
  · rintro ⟨numbers, rfl⟩
    exact ⟨_, ⟨numbers, rfl⟩, ⟨confLike_self_iff.mpr numbers, trivial, trivial⟩, rfl⟩

theorem cpSliceCtrlMsg_eq_ok {src dst : SliceCtrlMsg} :
    cpSliceCtrlMsg src = .ok dst ↔ CtrlMsgNumbers src ∧ dst = src := by
  cases src with
  | addModSlice conf =>
      simp only [cpSliceCtrlMsg, bind_eq_ok, cpSliceConf_eq_ok, pure_eq_ok]
      constructor
      · rintro ⟨_, ⟨numbers, rfl⟩, rfl⟩
        exact ⟨numbers, rfl⟩
      · rintro ⟨numbers, rfl⟩
        exact ⟨_, ⟨numbers, rfl⟩, rfl⟩
  | delSlice conf =>
      rw [cpSliceCtrlMsg, pure_eq_ok, CtrlMsgNumbers, true_and, eq_comm]
      rfl
  | ueSlice conf =>
      rw [cpSliceCtrlMsg, pure_eq_ok, CtrlMsgNumbers, true_and, eq_comm, cpUeSliceConf_eq]

/-- Equality is exact just where two messages agree or differ early, and for answers where
    these follow their diagnostics. Copies are whole, and equal to what was copied, just where
    every field of type `float` is a number. -/
theorem slice_equality_and_copy_iff (m0 m1 : SliceIndMsg) (c0 c1 : SliceCtrlMsg)
    (o0 o1 : SliceCtrlOut) :
    (Tells (eqSliceIndMsg m0 m1) (IndMsgAgree m0 m1) ↔
      IndMsgAgree m0 m1 ∨ IndMsgEarly m0 m1) ∧
    (Tells (eqSliceCtrlMsg c0 c1) (CtrlMsgAgree c0 c1) ↔
      CtrlMsgAgree c0 c1 ∨ CtrlMsgEarly c0 c1) ∧
    ((eqSliceCtrlOut o0 o1 = true ↔ o0 = o1) ↔
      (o0.diagnostic = o1.diagnostic → o0.ans = o1.ans)) ∧
    (cpSliceIndMsg m0 = .ok m0 ∧ eqSliceIndMsg m0 m0 = .ok true ↔ ConfNumbers m0.sliceConf) ∧
    (cpSliceCtrlMsg c0 = .ok c0 ∧ eqSliceCtrlMsg c0 c0 = .ok true ↔ CtrlMsgNumbers c0) ∧
    ((cpSliceCtrlOut o0).diagnostic = o0.diagnostic ∧
      eqSliceCtrlOut (cpSliceCtrlOut o0) o0 = true) := by
  refine ⟨eqSliceIndMsg_tells_iff m0 m1, eqSliceCtrlMsg_tells_iff c0 c1,
    eqSliceCtrlOut_tells_iff o0 o1, ?_, ?_, rfl, eqSliceCtrlOut_iff.mpr rfl⟩
  · rw [cpSliceIndMsg_eq_ok, eqSliceIndMsg_true_iff, confLike_self_iff]
    simp
  · rw [cpSliceCtrlMsg_eq_ok, eqSliceCtrlMsg_self_iff]
    simp

/-- No slices downlink, and one uplink whose scheduler has one character. -/
def oneSlice (sched : UInt8) (posLow : UInt32) : SliceIndMsg where
  sliceConf :=
    { dl := { slices := ⟨0, .nil⟩, schedName := ⟨0, .nil⟩ }
      ul :=
        { slices := ⟨1, ⟨[{
            id := 0
            label := ⟨0, .nil⟩
            sched := ⟨1, ⟨[sched], rfl⟩⟩
            params := .sta { posLow, posHigh := 0 } }], rfl⟩⟩
          schedName := ⟨0, .nil⟩ } }
  ueSliceConf := ⟨0, .nil⟩
  tstamp := 0

/-- The characters of a scheduler are not compared, parameters that differ stop the process, and
    neither the type of a message nor an answer is looked at. -/
theorem slice_scheduler_ignored :
    (eqSliceIndMsg (oneSlice 65 0) (oneSlice 66 0) = .ok true ∧
      ¬IndMsgAgree (oneSlice 65 0) (oneSlice 66 0)) ∧
    eqSliceIndMsg (oneSlice 65 0) (oneSlice 65 1) = .error .differ ∧
    (eqSliceCtrlMsg (.ueSlice ⟨0, .nil⟩) (.delSlice ⟨⟨0, .nil⟩, ⟨0, .nil⟩⟩) = .ok true ∧
      ¬CtrlMsgAgree (.ueSlice ⟨0, .nil⟩) (.delSlice ⟨⟨0, .nil⟩, ⟨0, .nil⟩⟩)) ∧
    eqSliceCtrlOut ⟨.ok, ⟨0, .nil⟩⟩ ⟨.error, ⟨0, .nil⟩⟩ = true := by
  refine ⟨⟨rfl, ?_⟩, rfl, ⟨rfl, id⟩, rfl⟩
  intro agree
  have slices := agree.sliceConf.ul.slices
  have sched := (List.forall₂_cons.mp slices).1.sched
  exact absurd (congrArg (fun s => s.items.toList) sched) (by decide)

end FlexRic.Slice
