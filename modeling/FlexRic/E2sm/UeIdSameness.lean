import FlexRic.E2sm.UeIdEquality

/-! # When the equality of UE identities is exact

Identities that agree in all that both have are taken for the same. They are the same
only when both have the same parts besides.
-/

namespace FlexRic.E2sm

open Asn (Fault)

theorem eqE2smPlmn_iff {m0 m1 : Plmn} : eqE2smPlmn m0 m1 = true ↔ m0 = m1 := by
  cases m0
  cases m1
  simp [eqE2smPlmn, and_assoc]

theorem eqGuami_iff {m0 m1 : Guami} : eqGuami m0 m1 = true ↔ m0 = m1 := by
  cases m0
  cases m1
  simp [eqGuami, eqE2smPlmn_iff, and_assoc]

theorem eqE2smGummei_iff {m0 m1 : Gummei} : eqE2smGummei m0 m1 = true ↔ m0 = m1 := by
  cases m0
  cases m1
  simp [eqE2smGummei, eqE2smPlmn_iff, and_assoc]

theorem eqGlobalGnbId_iff (m0 m1 : GlobalGnbId) : eqGlobalGnbId m0 m1 = true ↔ m0 = m1 := by
  obtain ⟨plmn, nbId, unused⟩ := m0
  obtain ⟨plmn', nbId', unused'⟩ := m1
  simp [eqGlobalGnbId, eqE2smPlmn_iff, and_assoc]

theorem eqGlobalEnbId_iff (m0 m1 : GlobalEnbId) : eqGlobalEnbId m0 m1 = true ↔ m0 = m1 := by
  obtain ⟨plmn, id⟩ := m0
  obtain ⟨plmn', id'⟩ := m1
  cases id <;> cases id' <;> simp [eqGlobalEnbId, eqE2smPlmn_iff]

theorem eqGlobalNgEnbId_iff (m0 m1 : GlobalNgEnbId) : eqGlobalNgEnbId m0 m1 = true ↔ m0 = m1 := by
  obtain ⟨plmn, id⟩ := m0
  obtain ⟨plmn', id'⟩ := m1
  cases id <;> cases id' <;> simp [eqGlobalNgEnbId, eqE2smPlmn_iff]

theorem eqGlobalNgRanNodeId_iff (m0 m1 : GlobalNgRanNodeId) :
    eqGlobalNgRanNodeId m0 m1 = true ↔ m0 = m1 := by
  cases m0 <;> cases m1 <;> simp [eqGlobalNgRanNodeId, eqGlobalGnbId_iff, eqGlobalNgEnbId_iff]

theorem clash_beq_iff {α : Type} [DecidableEq α] {o o' : Option α} :
    clash (· == ·) o o' = false ↔ Compatible o o' :=
  clash_eq_false_iff fun _ _ => beq_iff_eq

/-- A node that is compared with itself never differs. -/
theorem clash_itself (o o' : Option GlobalNgRanNodeId) :
    clash (fun id _ => eqGlobalNgRanNodeId id id) o o' = false := by
  cases o with
  | none => rfl
  | some id =>
      cases o' with
      | none => rfl
      | some id' => simp [clash, (eqGlobalNgRanNodeId_iff id id).mpr rfl]

/-- A list without ids is as good as none. -/
def filled (lst : Option (List UInt32)) : Option (List UInt32) :=
  if lst.getD [] = [] then none else lst

theorem eqIdLst_iff {lst0 lst1 : Option (List UInt32)} :
    eqIdLst lst0 lst1 = true ↔ filled lst0 = filled lst1 := by
  rcases lst0 with _ | ⟨_ | _⟩ <;> rcases lst1 with _ | ⟨_ | _⟩ <;> simp [eqIdLst, filled]

theorem filled_cpIdLst (lst : Option (List UInt32)) : filled (cpIdLst lst) = filled lst := by
  rcases lst with _ | ⟨_ | _⟩ <;> simp [cpIdLst, filled]

/-- The identity, with only the lists that have ids. -/
def UeIdE2sm.value : UeIdE2sm → UeIdE2sm
  | .gnb id => .gnb { id with
      gnbCuUeF1apLst := filled id.gnbCuUeF1apLst
      gnbCuCpUeE1apLst := filled id.gnbCuCpUeE1apLst }
  | .enGnb id => .enGnb { id with gnbCuCpUeE1apLst := filled id.gnbCuCpUeE1apLst }
  | .gnbDu id => .gnbDu id
  | .gnbCuUp id => .gnbCuUp id
  | .ngEnb id => .ngEnb id
  | .ngEnbDu id => .ngEnbDu id
  | .enb id => .enb id

/-- One type, the same mandatory fields, the same parts and the same in them. -/
def Same (a b : UeIdE2sm) : Prop := a.value = b.value

structure GnbLike (m0 m1 : GnbE2sm) : Prop where
  amfUeNgapId : m0.amfUeNgapId = m1.amfUeNgapId
  guami : m0.guami = m1.guami
  gnbCuUeF1apLst : filled m0.gnbCuUeF1apLst = filled m1.gnbCuUeF1apLst
  gnbCuCpUeE1apLst : filled m0.gnbCuCpUeE1apLst = filled m1.gnbCuCpUeE1apLst
  ranUeId : Compatible m0.ranUeId m1.ranUeId
  ngRanNodeUeXnapId : Compatible m0.ngRanNodeUeXnapId m1.ngRanNodeUeXnapId
  globalGnbId : Compatible m0.globalGnbId m1.globalGnbId

/-- The NG-RAN nodes have to be the same, for they are not compared. -/
structure GnbPaired (m0 m1 : GnbE2sm) : Prop where
  ranUeId : m0.ranUeId.isSome = m1.ranUeId.isSome
  ngRanNodeUeXnapId : m0.ngRanNodeUeXnapId.isSome = m1.ngRanNodeUeXnapId.isSome
  globalGnbId : m0.globalGnbId.isSome = m1.globalGnbId.isSome
  globalNgRanNodeId : m0.globalNgRanNodeId = m1.globalNgRanNodeId

structure GnbDuLike (m0 m1 : GnbDuE2sm) : Prop where
  gnbCuUeF1ap : m0.gnbCuUeF1ap = m1.gnbCuUeF1ap
  ranUeId : Compatible m0.ranUeId m1.ranUeId

/-- The ids that the RAN gave have to be there, for they are read. -/
structure GnbDuPaired (m0 m1 : GnbDuE2sm) : Prop where
  here : m0.ranUeId.isSome
  there : m1.ranUeId.isSome

structure GnbCuUpLike (m0 m1 : GnbCuUpE2sm) : Prop where
  gnbCuCpUeE1ap : m0.gnbCuCpUeE1ap = m1.gnbCuCpUeE1ap
  ranUeId : Compatible m0.ranUeId m1.ranUeId

structure NgEnbLike (m0 m1 : NgEnbE2sm) : Prop where
  amfUeNgapId : m0.amfUeNgapId = m1.amfUeNgapId
  guami : m0.guami = m1.guami
  ngEnbCuUeW1apId : Compatible m0.ngEnbCuUeW1apId m1.ngEnbCuUeW1apId
  ngRanNodeUeXnapId : Compatible m0.ngRanNodeUeXnapId m1.ngRanNodeUeXnapId
  globalNgEnbId : Compatible m0.globalNgEnbId m1.globalNgEnbId
  globalNgRanNodeId : Compatible m0.globalNgRanNodeId m1.globalNgRanNodeId

structure NgEnbPaired (m0 m1 : NgEnbE2sm) : Prop where
  ngEnbCuUeW1apId : m0.ngEnbCuUeW1apId.isSome = m1.ngEnbCuUeW1apId.isSome
  ngRanNodeUeXnapId : m0.ngRanNodeUeXnapId.isSome = m1.ngRanNodeUeXnapId.isSome
  globalNgEnbId : m0.globalNgEnbId.isSome = m1.globalNgEnbId.isSome
  globalNgRanNodeId : m0.globalNgRanNodeId.isSome = m1.globalNgRanNodeId.isSome

structure EnGnbLike (m0 m1 : EnGnbE2sm) : Prop where
  enbUeX2apId : m0.enbUeX2apId = m1.enbUeX2apId
  enbUeX2apIdExtension : Compatible m0.enbUeX2apIdExtension m1.enbUeX2apIdExtension
  globalEnbId : m0.globalEnbId = m1.globalEnbId
  gnbCuUeF1apLst : Compatible m0.gnbCuUeF1apLst m1.gnbCuUeF1apLst
  gnbCuCpUeE1apLst : filled m0.gnbCuCpUeE1apLst = filled m1.gnbCuCpUeE1apLst
  ranUeId : Compatible m0.ranUeId m1.ranUeId

structure EnGnbPaired (m0 m1 : EnGnbE2sm) : Prop where
  enbUeX2apIdExtension : m0.enbUeX2apIdExtension.isSome = m1.enbUeX2apIdExtension.isSome
  gnbCuUeF1apLst : m0.gnbCuUeF1apLst.isSome = m1.gnbCuUeF1apLst.isSome
  ranUeId : m0.ranUeId.isSome = m1.ranUeId.isSome

structure EnbLike (m0 m1 : EnbE2sm) : Prop where
  mmeUeS1apId : m0.mmeUeS1apId = m1.mmeUeS1apId
  gummei : m0.gummei = m1.gummei
  enbUeX2apId : Compatible m0.enbUeX2apId m1.enbUeX2apId
  enbUeX2apIdExtension : Compatible m0.enbUeX2apIdExtension m1.enbUeX2apIdExtension
  globalEnbId : Compatible m0.globalEnbId m1.globalEnbId

/-- The global ids have to be there, for they are read. -/
structure EnbPaired (m0 m1 : EnbE2sm) : Prop where
  enbUeX2apId : m0.enbUeX2apId.isSome = m1.enbUeX2apId.isSome
  enbUeX2apIdExtension : m0.enbUeX2apIdExtension.isSome = m1.enbUeX2apIdExtension.isSome
  here : m0.globalEnbId.isSome
  there : m1.globalEnbId.isSome

/-- Of one type, and alike in every part that both have and that is compared. -/
def Like : UeIdE2sm → UeIdE2sm → Prop
  | .gnb m0, .gnb m1 => GnbLike m0 m1
  | .gnbDu m0, .gnbDu m1 => GnbDuLike m0 m1
  | .gnbCuUp m0, .gnbCuUp m1 => GnbCuUpLike m0 m1
  | .ngEnb m0, .ngEnb m1 => NgEnbLike m0 m1
  | .ngEnbDu m0, .ngEnbDu m1 => m0 = m1
  | .enGnb m0, .enGnb m1 => EnGnbLike m0 m1
  | .enb m0, .enb m1 => EnbLike m0 m1
  | _, _ => False

/-- What has to hold of the parts that are not compared when one of them is missing. -/
def Paired : UeIdE2sm → UeIdE2sm → Prop
  | .gnb m0, .gnb m1 => GnbPaired m0 m1
  | .gnbDu m0, .gnbDu m1 => GnbDuPaired m0 m1
  | .gnbCuUp m0, .gnbCuUp m1 => m0.ranUeId.isSome = m1.ranUeId.isSome
  | .ngEnb m0, .ngEnb m1 => NgEnbPaired m0 m1
  | .enGnb m0, .enGnb m1 => EnGnbPaired m0 m1
  | .enb m0, .enb m1 => EnbPaired m0 m1
  | _, _ => True

theorem eqGnbUeId_iff {m0 m1 : GnbE2sm} : eqGnbUeId m0 m1 = true ↔ GnbLike m0 m1 := by
  simp only [eqGnbUeId, Bool.and_eq_true, decide_eq_true_iff, Bool.not_eq_true', eqGuami_iff,
    eqIdLst_iff, clash_beq_iff, clash_eq_false_iff eqGlobalGnbId_iff, clash_itself, and_true]
  constructor
  · rintro ⟨⟨⟨⟨⟨⟨amf, guami⟩, f1ap⟩, e1ap⟩, ran⟩, xnap⟩, gnbId⟩
    exact ⟨amf, guami, f1ap, e1ap, ran, xnap, gnbId⟩
  · rintro ⟨amf, guami, f1ap, e1ap, ran, xnap, gnbId⟩
    exact ⟨⟨⟨⟨⟨⟨amf, guami⟩, f1ap⟩, e1ap⟩, ran⟩, xnap⟩, gnbId⟩

theorem eqGnbCuUpUeId_iff {m0 m1 : GnbCuUpE2sm} :
    eqGnbCuUpUeId m0 m1 = true ↔ GnbCuUpLike m0 m1 := by
  simp only [eqGnbCuUpUeId, Bool.and_eq_true, decide_eq_true_iff, Bool.not_eq_true', clash_beq_iff]
  constructor
  · rintro ⟨e1ap, ran⟩
    exact ⟨e1ap, ran⟩
  · rintro ⟨e1ap, ran⟩
    exact ⟨e1ap, ran⟩

theorem eqNgEnbUeId_iff {m0 m1 : NgEnbE2sm} : eqNgEnbUeId m0 m1 = true ↔ NgEnbLike m0 m1 := by
  simp only [eqNgEnbUeId, Bool.and_eq_true, decide_eq_true_iff, Bool.not_eq_true', eqGuami_iff,
    clash_beq_iff, clash_eq_false_iff eqGlobalNgEnbId_iff,
    clash_eq_false_iff eqGlobalNgRanNodeId_iff]
  constructor
  · rintro ⟨⟨⟨⟨⟨amf, guami⟩, w1ap⟩, xnap⟩, enbId⟩, nodeId⟩
    exact ⟨amf, guami, w1ap, xnap, enbId, nodeId⟩
  · rintro ⟨amf, guami, w1ap, xnap, enbId, nodeId⟩
    exact ⟨⟨⟨⟨⟨amf, guami⟩, w1ap⟩, xnap⟩, enbId⟩, nodeId⟩

theorem eqNgEnbDuUeId_iff {m0 m1 : NgEnbDuE2sm} : eqNgEnbDuUeId m0 m1 = true ↔ m0 = m1 := by
  cases m0
  cases m1
  simp [eqNgEnbDuUeId]

theorem eqEnGnbUeId_iff {m0 m1 : EnGnbE2sm} : eqEnGnbUeId m0 m1 = true ↔ EnGnbLike m0 m1 := by
  simp only [eqEnGnbUeId, Bool.and_eq_true, decide_eq_true_iff, Bool.not_eq_true', eqIdLst_iff,
    clash_beq_iff, eqGlobalEnbId_iff]
  constructor
  · rintro ⟨⟨⟨⟨⟨x2ap, extension⟩, enbId⟩, f1ap⟩, e1ap⟩, ran⟩
    exact ⟨x2ap, extension, enbId, f1ap, e1ap, ran⟩
  · rintro ⟨x2ap, extension, enbId, f1ap, e1ap, ran⟩
    exact ⟨⟨⟨⟨⟨x2ap, extension⟩, enbId⟩, f1ap⟩, e1ap⟩, ran⟩

/-- Two ids that are read decide, and where one is missing there is no answer. -/
theorem eqGnbDuUeId_tells_iff (m0 m1 : GnbDuE2sm) :
    Tells (eqGnbDuUeId m0 m1) (m0 = m1) ↔ (GnbDuLike m0 m1 → GnbDuPaired m0 m1) := by
  obtain ⟨f1ap, ran⟩ := m0
  obtain ⟨f1ap', ran'⟩ := m1
  rw [eqGnbDuUeId, both_pure]
  by_cases same : f1ap = f1ap'
  · subst same
    cases ran with
    | none =>
        apply iff_of_false
        · cases ran' <;> simp
        · intro paired
          cases (paired ⟨rfl, nofun⟩).here
    | some id =>
        cases ran' with
        | none =>
            apply iff_of_false
            · simp
            · intro paired
              cases (paired ⟨rfl, fun _ _ _ mem => nomatch mem⟩).there
        | some id' =>
            apply iff_of_true
            · simp
            · exact fun _ => ⟨rfl, rfl⟩
  · apply iff_of_true
    · simp [same]
    · exact fun like => (same like.gnbCuUeF1ap).elim

/-- What is compared of two eNBs before the global ids. -/
structure EnbAlike (m0 m1 : EnbE2sm) : Prop where
  mmeUeS1apId : m0.mmeUeS1apId = m1.mmeUeS1apId
  gummei : m0.gummei = m1.gummei
  enbUeX2apId : Compatible m0.enbUeX2apId m1.enbUeX2apId
  enbUeX2apIdExtension : Compatible m0.enbUeX2apIdExtension m1.enbUeX2apIdExtension

theorem eqEnbUeId_alike {m0 m1 : EnbE2sm} (alike : EnbAlike m0 m1) :
    eqEnbUeId m0 m1 = eqGlobalEnbIds m0.globalEnbId m1.globalEnbId := by
  simp only [eqEnbUeId, both_pure, alike.mmeUeS1apId, eqE2smGummei_iff.mpr alike.gummei,
    clash_beq_iff.mpr alike.enbUeX2apId, clash_beq_iff.mpr alike.enbUeX2apIdExtension, decide_true,
    Bool.not_false, if_true]

theorem eqEnbUeId_not_alike {m0 m1 : EnbE2sm} (differ : ¬EnbAlike m0 m1) :
    eqEnbUeId m0 m1 = .ok false := by
  by_contra other
  apply differ
  simp only [eqEnbUeId, pure, Except.pure] at other
  refine ⟨?_, ?_, ?_, ?_⟩
  all_goals by_contra apart
  · simp [apart] at other
  · simp [eqE2smGummei_iff, apart] at other
  · rw [← clash_beq_iff] at apart
    simp [apart] at other
  · rw [← clash_beq_iff] at apart
    simp [apart] at other

theorem eqEnbUeId_tells_iff (m0 m1 : EnbE2sm) :
    Tells (eqEnbUeId m0 m1) (m0 = m1) ↔ (EnbLike m0 m1 → EnbPaired m0 m1) := by
  by_cases alike : EnbAlike m0 m1
  · rw [eqEnbUeId_alike alike]
    have like : Compatible m0.globalEnbId m1.globalEnbId → EnbLike m0 m1 := fun ids =>
      ⟨alike.mmeUeS1apId, alike.gummei, alike.enbUeX2apId, alike.enbUeX2apIdExtension, ids⟩
    obtain ⟨s1ap, gummei, x2ap, extension, enbId⟩ := m0
    obtain ⟨s1ap', gummei', x2ap', extension', enbId'⟩ := m1
    cases enbId with
    | none =>
        apply iff_of_false
        · cases enbId' <;> simp [eqGlobalEnbIds]
        · intro paired
          cases (paired (like nofun)).here
    | some id =>
        cases enbId' with
        | none =>
            apply iff_of_false
            · simp [eqGlobalEnbIds]
            · intro paired
              cases (paired (like fun _ _ _ mem => nomatch mem)).there
        | some id' =>
            obtain ⟨sameS1ap, sameGummei, x2apLike, extensionLike⟩ := alike
            simp only [eqGlobalEnbIds, tells_pure, eqGlobalEnbId_iff, EnbE2sm.mk.injEq,
              Option.some.injEq]
            constructor
            · intro answer joined
              have ids : id = id' := joined.globalEnbId id rfl id' rfl
              obtain ⟨-, -, x2aps, extensions, -⟩ := answer.mp ids
              exact ⟨congrArg Option.isSome x2aps, congrArg Option.isSome extensions, rfl, rfl⟩
            · intro paired
              constructor
              · intro ids
                have all := paired (like fun _ mem _ mem' => by
                  cases mem
                  cases mem'
                  exact ids)
                exact ⟨sameS1ap, sameGummei, eq_iff_compatible.mpr ⟨x2apLike, all.enbUeX2apId⟩,
                  eq_iff_compatible.mpr ⟨extensionLike, all.enbUeX2apIdExtension⟩, ids⟩
              · rintro ⟨-, -, -, -, ids⟩
                exact ids
  · rw [eqEnbUeId_not_alike alike]
    apply iff_of_true
    · apply tells_ok.mpr
      apply iff_of_false Bool.false_ne_true
      rintro rfl
      exact alike ⟨rfl, rfl, fun _ mem _ mem' => Option.mem_unique mem mem',
        fun _ mem _ mem' => Option.mem_unique mem mem'⟩
    · intro like
      exact (alike ⟨like.mmeUeS1apId, like.gummei, like.enbUeX2apId,
        like.enbUeX2apIdExtension⟩).elim

theorem gnb_same_iff {m0 m1 : GnbE2sm} :
    Same (.gnb m0) (.gnb m1) ↔ GnbLike m0 m1 ∧ GnbPaired m0 m1 := by
  simp only [Same, UeIdE2sm.value, UeIdE2sm.gnb.injEq, GnbE2sm.mk.injEq]
  constructor
  · rintro ⟨amf, guami, f1ap, e1ap, ran, xnap, gnbId, nodeId⟩
    obtain ⟨ranLike, ranThere⟩ := eq_iff_compatible.mp ran
    obtain ⟨xnapLike, xnapThere⟩ := eq_iff_compatible.mp xnap
    obtain ⟨gnbLike, gnbThere⟩ := eq_iff_compatible.mp gnbId
    exact ⟨⟨amf, guami, f1ap, e1ap, ranLike, xnapLike, gnbLike⟩,
      ⟨ranThere, xnapThere, gnbThere, nodeId⟩⟩
  · rintro ⟨like, paired⟩
    exact ⟨like.amfUeNgapId, like.guami, like.gnbCuUeF1apLst, like.gnbCuCpUeE1apLst,
      eq_iff_compatible.mpr ⟨like.ranUeId, paired.ranUeId⟩,
      eq_iff_compatible.mpr ⟨like.ngRanNodeUeXnapId, paired.ngRanNodeUeXnapId⟩,
      eq_iff_compatible.mpr ⟨like.globalGnbId, paired.globalGnbId⟩, paired.globalNgRanNodeId⟩

theorem gnbCuUp_same_iff {m0 m1 : GnbCuUpE2sm} :
    Same (.gnbCuUp m0) (.gnbCuUp m1) ↔
      GnbCuUpLike m0 m1 ∧ m0.ranUeId.isSome = m1.ranUeId.isSome := by
  obtain ⟨e1ap, ran⟩ := m0
  obtain ⟨e1ap', ran'⟩ := m1
  simp only [Same, UeIdE2sm.value, UeIdE2sm.gnbCuUp.injEq, GnbCuUpE2sm.mk.injEq, eq_iff_compatible]
  constructor
  · rintro ⟨e1ap, ranLike, ranThere⟩
    exact ⟨⟨e1ap, ranLike⟩, ranThere⟩
  · rintro ⟨⟨e1ap, ranLike⟩, ranThere⟩
    exact ⟨e1ap, ranLike, ranThere⟩

theorem ngEnb_same_iff {m0 m1 : NgEnbE2sm} :
    Same (.ngEnb m0) (.ngEnb m1) ↔ NgEnbLike m0 m1 ∧ NgEnbPaired m0 m1 := by
  obtain ⟨amf, guami, w1ap, xnap, enbId, nodeId⟩ := m0
  obtain ⟨amf', guami', w1ap', xnap', enbId', nodeId'⟩ := m1
  simp only [Same, UeIdE2sm.value, UeIdE2sm.ngEnb.injEq, NgEnbE2sm.mk.injEq, eq_iff_compatible]
  constructor
  · rintro ⟨amf, guami, ⟨w1apLike, w1apThere⟩, ⟨xnapLike, xnapThere⟩, ⟨enbLike, enbThere⟩,
      nodeLike, nodeThere⟩
    exact ⟨⟨amf, guami, w1apLike, xnapLike, enbLike, nodeLike⟩,
      ⟨w1apThere, xnapThere, enbThere, nodeThere⟩⟩
  · rintro ⟨like, paired⟩
    exact ⟨like.amfUeNgapId, like.guami, ⟨like.ngEnbCuUeW1apId, paired.ngEnbCuUeW1apId⟩,
      ⟨like.ngRanNodeUeXnapId, paired.ngRanNodeUeXnapId⟩,
      ⟨like.globalNgEnbId, paired.globalNgEnbId⟩,
      like.globalNgRanNodeId, paired.globalNgRanNodeId⟩

theorem enGnb_same_iff {m0 m1 : EnGnbE2sm} :
    Same (.enGnb m0) (.enGnb m1) ↔ EnGnbLike m0 m1 ∧ EnGnbPaired m0 m1 := by
  simp only [Same, UeIdE2sm.value, UeIdE2sm.enGnb.injEq, EnGnbE2sm.mk.injEq]
  constructor
  · rintro ⟨x2ap, extension, enbId, f1ap, e1ap, ran⟩
    obtain ⟨extensionLike, extensionThere⟩ := eq_iff_compatible.mp extension
    obtain ⟨f1apLike, f1apThere⟩ := eq_iff_compatible.mp f1ap
    obtain ⟨ranLike, ranThere⟩ := eq_iff_compatible.mp ran
    exact ⟨⟨x2ap, extensionLike, enbId, f1apLike, e1ap, ranLike⟩,
      ⟨extensionThere, f1apThere, ranThere⟩⟩
  · rintro ⟨like, paired⟩
    exact ⟨like.enbUeX2apId,
      eq_iff_compatible.mpr ⟨like.enbUeX2apIdExtension, paired.enbUeX2apIdExtension⟩,
      like.globalEnbId, eq_iff_compatible.mpr ⟨like.gnbCuUeF1apLst, paired.gnbCuUeF1apLst⟩,
      like.gnbCuCpUeE1apLst, eq_iff_compatible.mpr ⟨like.ranUeId, paired.ranUeId⟩⟩

/-- A comparison that answers whether two identities are alike is exact where those that are
    alike are the same. -/
theorem tells_pure_iff_of_like {b : Bool} {like paired same : Prop} (answer : b = true ↔ like)
    (parts : same ↔ like ∧ paired) :
    Tells (pure b : Except Fault Bool) same ↔ (like → paired) := by
  rw [tells_pure, answer, parts, iff_self_and]

theorem ueId_tells_iff (a b : UeIdE2sm) :
    Tells (eqUeIdE2sm a b) (Same a b) ↔ (Like a b → Paired a b) := by
  cases a with
  | gnb m0 =>
      cases b with
      | gnb m1 => exact tells_pure_iff_of_like eqGnbUeId_iff gnb_same_iff
      | _ => simp [eqUeIdE2sm, Same, UeIdE2sm.value, Like]
  | gnbDu m0 =>
      cases b with
      | gnbDu m1 =>
          simp only [eqUeIdE2sm, Same, UeIdE2sm.value, UeIdE2sm.gnbDu.injEq]
          exact eqGnbDuUeId_tells_iff m0 m1
      | _ => simp [eqUeIdE2sm, Same, UeIdE2sm.value, Like]
  | gnbCuUp m0 =>
      cases b with
      | gnbCuUp m1 => exact tells_pure_iff_of_like eqGnbCuUpUeId_iff gnbCuUp_same_iff
      | _ => simp [eqUeIdE2sm, Same, UeIdE2sm.value, Like]
  | ngEnb m0 =>
      cases b with
      | ngEnb m1 => exact tells_pure_iff_of_like eqNgEnbUeId_iff ngEnb_same_iff
      | _ => simp [eqUeIdE2sm, Same, UeIdE2sm.value, Like]
  | ngEnbDu m0 =>
      cases b with
      | ngEnbDu m1 =>
          apply tells_pure_iff_of_like eqNgEnbDuUeId_iff
          simp [Same, UeIdE2sm.value, Paired]
      | _ => simp [eqUeIdE2sm, Same, UeIdE2sm.value, Like]
  | enGnb m0 =>
      cases b with
      | enGnb m1 => exact tells_pure_iff_of_like eqEnGnbUeId_iff enGnb_same_iff
      | _ => simp [eqUeIdE2sm, Same, UeIdE2sm.value, Like]
  | enb m0 =>
      cases b with
      | enb m1 =>
          simp only [eqUeIdE2sm, Same, UeIdE2sm.value, UeIdE2sm.enb.injEq]
          exact eqEnbUeId_tells_iff m0 m1
      | _ => simp [eqUeIdE2sm, Same, UeIdE2sm.value, Like]

/-- What is read without a look whether it is there. -/
def Readable : UeIdE2sm → UeIdE2sm → Prop
  | .gnbDu m0, .gnbDu m1 => m0.ranUeId.isSome ∧ m1.ranUeId.isSome
  | .enb m0, .enb m1 => m0.globalEnbId.isSome ∧ m1.globalEnbId.isSome
  | _, _ => True

theorem eqGnbDuUeId_answers (m0 m1 : GnbDuE2sm) : Answers (eqGnbDuUeId m0 m1)
    (GnbDuLike m0 m1 ∧ m0.ranUeId.isSome ∧ m1.ranUeId.isSome) (¬GnbDuLike m0 m1) := by
  obtain ⟨f1ap, ran⟩ := m0
  obtain ⟨f1ap', ran'⟩ := m1
  have like : GnbDuLike ⟨f1ap, ran⟩ ⟨f1ap', ran'⟩ ↔ f1ap = f1ap' ∧ Compatible ran ran' :=
    ⟨fun like => ⟨like.1, like.2⟩, fun like => ⟨like.1, like.2⟩⟩
  rw [like]
  have first : Answers (ε := Fault) (pure (f1ap = f1ap')) (f1ap = f1ap') _ := .of_decide
  have missing : Answers (ε := Fault) (throw .null) False False := .of_throw
  cases ran with
  | none => exact (first.both fun _ => missing).iff (by simp) (by simp [Compatible])
  | some id =>
      cases ran' with
      | none => exact (first.both fun _ => missing).iff (by simp) (by simp [Compatible])
      | some id' =>
          have second : Answers (ε := Fault) (pure (id = id')) (id = id') _ := .of_decide
          apply (first.both fun _ => second).iff
          · simp [Compatible]
          · by_cases same : f1ap = f1ap' <;> simp [Compatible, same]

theorem eqEnbUeId_answers (m0 m1 : EnbE2sm) : Answers (eqEnbUeId m0 m1)
    (EnbLike m0 m1 ∧ m0.globalEnbId.isSome ∧ m1.globalEnbId.isSome) (¬EnbLike m0 m1) := by
  have like : EnbLike m0 m1 ↔ EnbAlike m0 m1 ∧ Compatible m0.globalEnbId m1.globalEnbId :=
    ⟨fun like => ⟨⟨like.1, like.2, like.3, like.4⟩, like.5⟩,
      fun like => ⟨like.1.1, like.1.2, like.1.3, like.1.4, like.2⟩⟩
  rw [like]
  by_cases alike : EnbAlike m0 m1
  · rw [eqEnbUeId_alike alike]
    cases here : m0.globalEnbId with
    | none => exact Answers.of_throw.iff (by simp) (by simp [Compatible, alike])
    | some id =>
        cases there : m1.globalEnbId with
        | none => exact Answers.of_throw.iff (by simp) (by simp [Compatible, alike])
        | some id' =>
            have answers : Answers (eqGlobalEnbIds (some id) (some id')) _ _ :=
              .of_pure (eqGlobalEnbId_iff id id')
            exact answers.iff (by simp [Compatible, alike]) (by simp [Compatible, alike])
  · rw [eqEnbUeId_not_alike alike]
    have no : ¬(pure false : Except Asn.Fault Bool) = .ok true := by
      intro here
      cases here
    exact ⟨iff_of_false no fun same => alike same.1.1, iff_of_true rfl fun same => alike same.1⟩

/-- The comparison says no to what is not alike, and yes to what is where nothing is missing. -/
theorem ueId_answers (a b : UeIdE2sm) :
    Answers (eqUeIdE2sm a b) (Like a b ∧ Readable a b) (¬Like a b) := by
  have apart : Answers (pure false : Except Fault Bool) False (¬False) := .of_pure (by simp)
  cases a with
  | gnb m0 =>
      cases b with
      | gnb m1 => exact (Answers.of_pure eqGnbUeId_iff).iff (and_iff_left trivial).symm Iff.rfl
      | _ => exact apart.iff (by simp [Like]) Iff.rfl
  | gnbDu m0 =>
      cases b with
      | gnbDu m1 => exact eqGnbDuUeId_answers m0 m1
      | _ => exact apart.iff (by simp [Like]) Iff.rfl
  | gnbCuUp m0 =>
      cases b with
      | gnbCuUp m1 =>
          exact (Answers.of_pure eqGnbCuUpUeId_iff).iff (and_iff_left trivial).symm Iff.rfl
      | _ => exact apart.iff (by simp [Like]) Iff.rfl
  | ngEnb m0 =>
      cases b with
      | ngEnb m1 => exact (Answers.of_pure eqNgEnbUeId_iff).iff (and_iff_left trivial).symm Iff.rfl
      | _ => exact apart.iff (by simp [Like]) Iff.rfl
  | ngEnbDu m0 =>
      cases b with
      | ngEnbDu m1 =>
          exact (Answers.of_pure eqNgEnbDuUeId_iff).iff (and_iff_left trivial).symm Iff.rfl
      | _ => exact apart.iff (by simp [Like]) Iff.rfl
  | enGnb m0 =>
      cases b with
      | enGnb m1 => exact (Answers.of_pure eqEnGnbUeId_iff).iff (and_iff_left trivial).symm Iff.rfl
      | _ => exact apart.iff (by simp [Like]) Iff.rfl
  | enb m0 =>
      cases b with
      | enb m1 => exact eqEnbUeId_answers m0 m1
      | _ => exact apart.iff (by simp [Like]) Iff.rfl

theorem Same.like {a b : UeIdE2sm} (same : Same a b) : Like a b := by
  by_contra differ
  have tells := (ueId_tells_iff a b).mpr fun like => absurd like differ
  cases (tells.true_iff.mpr same).symm.trans ((ueId_answers a b).no.mpr differ)

theorem eqGnbUeId_comm (m0 m1 : GnbE2sm) : eqGnbUeId m0 m1 = eqGnbUeId m1 m0 := by
  have turned {m m' : GnbE2sm} (like : GnbLike m m') : GnbLike m' m :=
    ⟨like.amfUeNgapId.symm, like.guami.symm, like.gnbCuUeF1apLst.symm, like.gnbCuCpUeE1apLst.symm,
      like.ranUeId.symm, like.ngRanNodeUeXnapId.symm, like.globalGnbId.symm⟩
  rw [Bool.eq_iff_iff, eqGnbUeId_iff, eqGnbUeId_iff]
  exact ⟨turned, turned⟩

theorem eqGnbDuUeId_comm (m0 m1 : GnbDuE2sm) : eqGnbDuUeId m0 m1 = eqGnbDuUeId m1 m0 := by
  obtain ⟨f1ap, ran⟩ := m0
  obtain ⟨f1ap', ran'⟩ := m1
  cases ran <;> cases ran' <;> simp [eqGnbDuUeId, eq_comm]

theorem eqGnbCuUpUeId_comm (m0 m1 : GnbCuUpE2sm) : eqGnbCuUpUeId m0 m1 = eqGnbCuUpUeId m1 m0 := by
  have turned {m m' : GnbCuUpE2sm} (like : GnbCuUpLike m m') : GnbCuUpLike m' m :=
    ⟨like.gnbCuCpUeE1ap.symm, like.ranUeId.symm⟩
  rw [Bool.eq_iff_iff, eqGnbCuUpUeId_iff, eqGnbCuUpUeId_iff]
  exact ⟨turned, turned⟩

theorem eqNgEnbUeId_comm (m0 m1 : NgEnbE2sm) : eqNgEnbUeId m0 m1 = eqNgEnbUeId m1 m0 := by
  have turned {m m' : NgEnbE2sm} (like : NgEnbLike m m') : NgEnbLike m' m :=
    ⟨like.amfUeNgapId.symm, like.guami.symm, like.ngEnbCuUeW1apId.symm,
      like.ngRanNodeUeXnapId.symm, like.globalNgEnbId.symm, like.globalNgRanNodeId.symm⟩
  rw [Bool.eq_iff_iff, eqNgEnbUeId_iff, eqNgEnbUeId_iff]
  exact ⟨turned, turned⟩

theorem eqNgEnbDuUeId_comm (m0 m1 : NgEnbDuE2sm) : eqNgEnbDuUeId m0 m1 = eqNgEnbDuUeId m1 m0 := by
  rw [Bool.eq_iff_iff, eqNgEnbDuUeId_iff, eqNgEnbDuUeId_iff]
  exact eq_comm

theorem eqEnGnbUeId_comm (m0 m1 : EnGnbE2sm) : eqEnGnbUeId m0 m1 = eqEnGnbUeId m1 m0 := by
  have turned {m m' : EnGnbE2sm} (like : EnGnbLike m m') : EnGnbLike m' m :=
    ⟨like.enbUeX2apId.symm, like.enbUeX2apIdExtension.symm, like.globalEnbId.symm,
      like.gnbCuUeF1apLst.symm, like.gnbCuCpUeE1apLst.symm, like.ranUeId.symm⟩
  rw [Bool.eq_iff_iff, eqEnGnbUeId_iff, eqEnGnbUeId_iff]
  exact ⟨turned, turned⟩

theorem eqEnbUeId_comm (m0 m1 : EnbE2sm) : eqEnbUeId m0 m1 = eqEnbUeId m1 m0 := by
  have turned {m m' : EnbE2sm} (alike : EnbAlike m m') : EnbAlike m' m :=
    ⟨alike.mmeUeS1apId.symm, alike.gummei.symm, alike.enbUeX2apId.symm,
      alike.enbUeX2apIdExtension.symm⟩
  by_cases alike : EnbAlike m0 m1
  · rw [eqEnbUeId_alike alike, eqEnbUeId_alike (turned alike)]
    cases m0.globalEnbId with
    | none => cases m1.globalEnbId <;> rfl
    | some id0 =>
        cases m1.globalEnbId with
        | none => rfl
        | some id1 =>
            have ids : eqGlobalEnbId id0 id1 = eqGlobalEnbId id1 id0 := by
              rw [Bool.eq_iff_iff, eqGlobalEnbId_iff, eqGlobalEnbId_iff]
              exact eq_comm
            exact congrArg pure ids
  · rw [eqEnbUeId_not_alike alike, eqEnbUeId_not_alike fun other => alike (turned other)]

theorem ueId_comm (a b : UeIdE2sm) : eqUeIdE2sm a b = eqUeIdE2sm b a := by
  cases a with
  | gnb m0 =>
      cases b with
      | gnb m1 => exact congrArg pure (eqGnbUeId_comm m0 m1)
      | _ => rfl
  | gnbDu m0 =>
      cases b with
      | gnbDu m1 => exact eqGnbDuUeId_comm m0 m1
      | _ => rfl
  | gnbCuUp m0 =>
      cases b with
      | gnbCuUp m1 => exact congrArg pure (eqGnbCuUpUeId_comm m0 m1)
      | _ => rfl
  | ngEnb m0 =>
      cases b with
      | ngEnb m1 => exact congrArg pure (eqNgEnbUeId_comm m0 m1)
      | _ => rfl
  | ngEnbDu m0 =>
      cases b with
      | ngEnbDu m1 => exact congrArg pure (eqNgEnbDuUeId_comm m0 m1)
      | _ => rfl
  | enGnb m0 =>
      cases b with
      | enGnb m1 => exact congrArg pure (eqEnGnbUeId_comm m0 m1)
      | _ => rfl
  | enb m0 =>
      cases b with
      | enb m1 => exact eqEnbUeId_comm m0 m1
      | _ => rfl

theorem getD_filled (lst : Option (List UInt32)) : (filled lst).getD [] = lst.getD [] := by
  rcases lst with _ | ⟨_ | _⟩ <;> rfl

/-- Nothing but the value is compared. -/
theorem eqUeIdE2sm_value (a b : UeIdE2sm) : eqUeIdE2sm a b.value = eqUeIdE2sm a b := by
  cases b with
  | gnb m1 =>
      cases a with
      | gnb m0 => simp only [eqUeIdE2sm, UeIdE2sm.value, eqGnbUeId, eqIdLst, getD_filled]
      | _ => rfl
  | enGnb m1 =>
      cases a with
      | enGnb m0 => simp only [eqUeIdE2sm, UeIdE2sm.value, eqEnGnbUeId, eqIdLst, getD_filled]
      | _ => rfl
  | _ => rfl

theorem eqUeIdE2sm_congr {a b c : UeIdE2sm} (same : Same b c) :
    eqUeIdE2sm a b = eqUeIdE2sm a c := by
  rw [← eqUeIdE2sm_value a b, same, eqUeIdE2sm_value]

@[simp] theorem cpGlobalGnbId_eq (src : GlobalGnbId) : cpGlobalGnbId src = src := rfl

@[simp] theorem cpGlobalEnbUeId_eq (src : GlobalEnbId) : cpGlobalEnbUeId src = src := by
  obtain ⟨plmn, id⟩ := src
  cases id <;> rfl

@[simp] theorem cpGlobalNgEnbId_eq (src : GlobalNgEnbId) : cpGlobalNgEnbId src = src := by
  obtain ⟨plmn, id⟩ := src
  cases id <;> rfl

@[simp] theorem cpGlobalNgRanNodeId_eq (src : GlobalNgRanNodeId) :
    cpGlobalNgRanNodeId src = src := by
  cases src <;> simp [cpGlobalNgRanNodeId]

theorem same_copy (src : UeIdE2sm) : Same (cpUeIdE2sm src) src := by
  have optional {α : Type} {cp : α → α} (each : ∀ a, cp a = a) (o : Option α) : o.map cp = o := by
    rw [show cp = id from funext each, Option.map_id_fun, id]
  cases src with
  | gnb id =>
      simp only [Same, cpUeIdE2sm, UeIdE2sm.value, cpGnbUeId, filled_cpIdLst,
        optional cpGlobalGnbId_eq, optional cpGlobalNgRanNodeId_eq]
      rfl
  | ngEnb id =>
      simp only [Same, cpUeIdE2sm, UeIdE2sm.value, cpNgEnbUeId, optional cpGlobalNgEnbId_eq,
        optional cpGlobalNgRanNodeId_eq]
      rfl
  | enGnb id =>
      simp only [Same, cpUeIdE2sm, UeIdE2sm.value, cpEnGnbUeId, cpGlobalEnbUeId_eq]
  | enb id =>
      simp only [Same, cpUeIdE2sm, UeIdE2sm.value, cpEnbUeId, optional cpGlobalEnbUeId_eq]
      rfl
  | _ => rfl

/-- The equality is exact for two identities just when they differ in something both have, or
    have the same parts. It does not depend on the order; it goes on from one pair to the next
    where the second pair is compared exactly; and copies are the same. It may also go on where
    that pair is not: where `b` has parts that `c` lacks. -/
theorem ue_id_equality_exact_iff (a b c : UeIdE2sm) :
    (Tells (eqUeIdE2sm a b) (Same a b) ↔ (Like a b → Paired a b)) ∧
    eqUeIdE2sm a b = eqUeIdE2sm b a ∧
    ((Like b c → Paired b c) → eqUeIdE2sm a b = .ok true → eqUeIdE2sm b c = .ok true →
      eqUeIdE2sm a c = .ok true) ∧
    Same (cpUeIdE2sm a) a := by
  refine ⟨ueId_tells_iff a b, ueId_comm a b, ?_, same_copy a⟩
  intro settled first second
  have same : Same b c := ((ueId_tells_iff b c).mpr settled).true_iff.mp second
  rw [← eqUeIdE2sm_congr same, first]

/-- A gNB-DU with the ids 7 and `ran`. -/
def gnbDu7 (ran : UInt64) : UeIdE2sm := .gnbDu ⟨7, some ran⟩

/-- With both ids there, the second one decides. -/
theorem ue_id_equality_exact_one :
    Tells (eqUeIdE2sm (gnbDu7 1) (gnbDu7 2)) (Same (gnbDu7 1) (gnbDu7 2)) ∧
    eqUeIdE2sm (gnbDu7 1) (gnbDu7 1) = .ok true := by
  have paired (ran ran' : UInt64) : Paired (gnbDu7 ran) (gnbDu7 ran') := ⟨rfl, rfl⟩
  constructor
  · exact (ue_id_equality_exact_iff (gnbDu7 1) (gnbDu7 2) (gnbDu7 2)).1.mpr fun _ => paired 1 2
  · exact (ue_id_equality_exact_iff (gnbDu7 1) (gnbDu7 1) (gnbDu7 1)).2.2.1
      (fun _ => paired 1 1) rfl rfl

/-- A UE with the ids 4 and `ran` in the user plane of a gNB. -/
def gnbCuUp4 (ran : Option UInt64) : UeIdE2sm := .gnbCuUp ⟨4, ran⟩

/-- An id on one side only is taken for any other, so that two different ids are the same as a
    third one and not as each other. Two ids of a gNB-DU without it stop the process. -/
theorem ue_id_equality_not_transitive :
    eqUeIdE2sm (gnbCuUp4 (some 1)) (gnbCuUp4 none) = .ok true ∧
    ¬Same (gnbCuUp4 (some 1)) (gnbCuUp4 none) ∧
    eqUeIdE2sm (gnbCuUp4 none) (gnbCuUp4 (some 2)) = .ok true ∧
    eqUeIdE2sm (gnbCuUp4 (some 1)) (gnbCuUp4 (some 2)) = .ok false ∧
    eqUeIdE2sm (.gnbDu ⟨7, none⟩) (.gnbDu ⟨7, none⟩) = .error .null := by
  refine ⟨rfl, nofun, rfl, rfl, rfl⟩

end FlexRic.E2sm
