import FlexRic.E2ap.Ids
import FlexRic.Library.Checked
import Mathlib.Data.Set.Insert

/-! # Global E2 node ids

An id as the decoders build it: the id of the unit is a pointer that may be null.
The equality reads it for a CU-UP or a DU only, the comparison for every CU.
-/

namespace FlexRic.GlobalE2NodeIds

/-- `global_e2_node_id_t`. -/
structure NodeId where
  type : NgranNode
  plmn : Plmn
  nbId : GnbId
  cuDuId : Option UInt64
  deriving DecidableEq, Repr

/-- `m0->cu_du_id != NULL && m1->cu_du_id != NULL` does not hold. -/
inductive NoCuDuId where
  | noCuDuId
  deriving DecidableEq, Repr

def eqE2apPlmn (m0 m1 : Plmn) : Bool :=
  if m0.mcc ≠ m1.mcc then false
  else if m0.mnc ≠ m1.mnc then false
  else if m0.mncDigitLen ≠ m1.mncDigitLen then false
  else true

def eqE2apGnbId (m0 m1 : GnbId) : Bool := m0.nbId = m1.nbId ∧ m0.unused = m1.unused

def eqGlobalE2NodeId (m0 m1 : NodeId) : Except NoCuDuId Bool :=
  if m0.type ≠ m1.type then .ok false
  else if eqE2apPlmn m0.plmn m1.plmn = false then .ok false
  else if eqE2apGnbId m0.nbId m1.nbId = false then .ok false
  else if m0.type.isCUUP ∨ m0.type.isDU then
    match m0.cuDuId, m1.cuDuId with
    | some id0, some id1 => .ok (id0 = id1)
    | _, _ => .error .noCuDuId
  else .ok true

def cmpE2apPlmn (m0 m1 : Plmn) : Int :=
  if m0.mcc < m1.mcc then -1
  else if m0.mcc > m1.mcc then 1
  else if m0.mnc < m1.mnc then -1
  else if m0.mnc > m1.mnc then 1
  else if m0.mncDigitLen < m1.mncDigitLen then -1
  else if m0.mncDigitLen > m1.mncDigitLen then 1
  else 0

def cmpGlobalE2NodeId (m0 m1 : NodeId) : Except NoCuDuId Int :=
  if m0.type.toNat < m1.type.toNat then .ok (-1)
  else if m0.type.toNat > m1.type.toNat then .ok 1
  else
    let rc := cmpE2apPlmn m0.plmn m1.plmn
    if rc ≠ 0 then .ok rc
    else if m0.nbId.nbId < m1.nbId.nbId then .ok (-1)
    else if m0.nbId.nbId > m1.nbId.nbId then .ok 1
    -- the other way around than all the other fields
    else if m0.nbId.unused < m1.nbId.unused then .ok 1
    else if m0.nbId.unused > m1.nbId.unused then .ok (-1)
    else if m0.type.isCU ∨ m0.type.isCUUP ∨ m0.type.isDU then
      match m0.cuDuId, m1.cuDuId with
      | some id0, some id1 => .ok (if id0 < id1 then -1 else if id0 > id1 then 1 else 0)
      | _, _ => .error .noCuDuId
    else .ok 0

/-- The id of the unit is there for a CU-UP and a DU, and not for a node that is
    not split. For the other CUs the source has it both ways. -/
structure WellFormed (m : NodeId) : Prop where
  present : m.type.isCUUP ∨ m.type.isDU → m.cuDuId.isSome
  absent : m.type.isCU = false → m.type.isDU = false → m.cuDuId = none

/-- The comparison orders the ids of a registry and ties just the equal ones. -/
structure OrderAgrees (ids : Set NodeId) : Prop where
  completes : ∀ a ∈ ids, ∀ b ∈ ids, ∃ rc, cmpGlobalE2NodeId a b = .ok rc
  range : ∀ a ∈ ids, ∀ b ∈ ids, ∀ rc, cmpGlobalE2NodeId a b = .ok rc →
    rc = 1 ∨ rc = 0 ∨ rc = -1
  antisymm : ∀ a ∈ ids, ∀ b ∈ ids, cmpGlobalE2NodeId a b = (cmpGlobalE2NodeId b a).map (- ·)
  trans : ∀ a ∈ ids, ∀ b ∈ ids, ∀ c ∈ ids, ∀ ab bc ac, cmpGlobalE2NodeId a b = .ok ab →
    cmpGlobalE2NodeId b c = .ok bc → cmpGlobalE2NodeId a c = .ok ac →
    0 ≤ ab → 0 ≤ bc → 0 ≤ ac
  zero_iff : ∀ a ∈ ids, ∀ b ∈ ids,
    cmpGlobalE2NodeId a b = .ok 0 ↔ eqGlobalE2NodeId a b = .ok true

/-- A CU other than a CU-UP. -/
def PlainCu (m : NodeId) : Prop := m.type.isCU ∧ m.type.isCUUP = false

/-- CUs of one site carry an id, and the same one. -/
def CusAlike (ids : Set NodeId) : Prop :=
  ∀ a ∈ ids, ∀ b ∈ ids, PlainCu a → a.type = b.type → a.plmn = b.plmn → a.nbId = b.nbId →
    a.cuDuId.isSome ∧ a.cuDuId = b.cuDuId

open Comparator in
/-- The criteria that are always there. -/
def site : Comparator NodeId :=
  lex (descending fun m => m.type.toNat)
    (lex (FlexRic.cmpE2apPlmn.on NodeId.plmn)
      (lex (descending fun m => m.nbId.nbId.toNat) (ascending fun m => m.nbId.unused.toNat)))

/-- `*cu_du_id`, where the comparison reads it. -/
def unitId (m : NodeId) : Nat :=
  if m.type.isCU ∨ m.type.isCUUP ∨ m.type.isDU then (m.cuDuId.getD 0).toNat else 0

def order : Comparator NodeId := .lex site (.descending unitId)

theorem site_ties {m0 m1 : NodeId} :
    site.Ties m0 m1 ↔ m0.type = m1.type ∧ m0.plmn = m1.plmn ∧ m0.nbId = m1.nbId := by
  simp only [site, Comparator.lex_ties, Comparator.descending_ties, Comparator.on_ties,
    Comparator.ascending_ties, cmpE2apPlmn_ties, NgranNode.toNat_inj, UInt32.toNat_inj]
  cases m0.nbId
  cases m1.nbId
  simp

theorem order_ties {m0 m1 : NodeId} :
    order.Ties m0 m1 ↔ site.Ties m0 m1 ∧ unitId m0 = unitId m1 := by
  simp only [order, Comparator.lex_ties, Comparator.descending_ties]

theorem cmpE2apPlmn_eq (m0 m1 : Plmn) : cmpE2apPlmn m0 m1 = FlexRic.cmpE2apPlmn.cmp m0 m1 := by
  simp only [FlexRic.cmpE2apPlmn, Comparator.descending_lex_cmp]
  rfl

/-- An answer other than a tie is final. -/
theorem settled {c : Prop} [Decidable c] {v x : Int} {k : Except NoCuDuId Int} (differ : v ≠ 0) :
    (if (if c then v else x) ≠ 0 then .ok (if c then v else x) else k) =
      if c then .ok v else if x ≠ 0 then .ok x else k := by
  by_cases holds : c
  · simp only [if_pos holds, if_pos differ]
  · simp only [if_neg holds]

theorem settled_lex {first second : Comparator NodeId} {m0 m1 : NodeId}
    {k : Except NoCuDuId Int} :
    (if (Comparator.lex first second).cmp m0 m1 ≠ 0 then
        .ok ((Comparator.lex first second).cmp m0 m1) else k) =
      if first.cmp m0 m1 ≠ 0 then .ok (first.cmp m0 m1)
      else if second.cmp m0 m1 ≠ 0 then .ok (second.cmp m0 m1) else k := by
  by_cases differ : first.cmp m0 m1 ≠ 0
  · simp only [Comparator.lex, if_pos differ]
  · simp only [Comparator.lex, if_neg differ]

/-- The units' ids are looked at between nodes of one site. -/
theorem cmpGlobalE2NodeId_eq (m0 m1 : NodeId) :
    cmpGlobalE2NodeId m0 m1 =
      if site.cmp m0 m1 ≠ 0 then .ok (site.cmp m0 m1)
      else if m0.type.isCU ∨ m0.type.isCUUP ∨ m0.type.isDU then
        match m0.cuDuId, m1.cuDuId with
        | some id0, some id1 => .ok (if id0 < id1 then -1 else if id0 > id1 then 1 else 0)
        | _, _ => .error .noCuDuId
      else .ok 0 := by
  have less : (-1 : Int) ≠ 0 := by decide
  simp only [site, settled_lex, Comparator.descending, Comparator.ascending, settled less,
    settled Int.one_ne_zero, ne_eq, not_true_eq_false, if_false, cmpGlobalE2NodeId,
    cmpE2apPlmn_eq]
  rfl

theorem eqE2apPlmn_iff {m0 m1 : Plmn} : eqE2apPlmn m0 m1 ↔ m0 = m1 := by
  cases m0
  cases m1
  simp only [eqE2apPlmn, Plmn.mk.injEq]
  grind

theorem eqE2apGnbId_iff {m0 m1 : GnbId} : eqE2apGnbId m0 m1 ↔ m0 = m1 := by
  cases m0
  cases m1
  simp [eqE2apGnbId]

variable {a b : NodeId} {ids : Set NodeId}

theorem WellFormed.present_of_ties (wf : WellFormed b) (ties : site.Ties a b)
    (kind : a.type.isCUUP ∨ a.type.isDU) : b.cuDuId.isSome := by
  rw [(site_ties.mp ties).1] at kind
  exact wf.present kind

/-- The equality completes: it looks at an id only where there is one. -/
theorem eq_true_iff (wfA : WellFormed a) (wfB : WellFormed b) :
    eqGlobalE2NodeId a b = .ok true ↔
      site.Ties a b ∧ (a.type.isCUUP ∨ a.type.isDU → a.cuDuId = b.cuDuId) := by
  have unfolded : eqGlobalE2NodeId a b =
      if site.Ties a b then
        if a.type.isCUUP ∨ a.type.isDU then
          match a.cuDuId, b.cuDuId with
          | some id0, some id1 => .ok (id0 = id1)
          | _, _ => .error .noCuDuId
        else .ok true
      else .ok false := by
    simp only [site_ties, ← eqE2apPlmn_iff, ← eqE2apGnbId_iff, eqGlobalE2NodeId]
    grind
  rw [unfolded]
  by_cases ties : site.Ties a b
  · by_cases kind : a.type.isCUUP ∨ a.type.isDU
    · obtain ⟨id0, here⟩ := Option.isSome_iff_exists.mp (wfA.present kind)
      obtain ⟨id1, there⟩ := Option.isSome_iff_exists.mp (wfB.present_of_ties ties kind)
      simp [ties, kind, here, there]
    · simp [ties, kind]
  · simp [ties]

/-- With the ids in place the comparison is the one of the comparator. -/
theorem cmp_eq_order (wfA : WellFormed a) (wfB : WellFormed b)
    (told : PlainCu a → site.Ties a b → a.cuDuId.isSome ∧ b.cuDuId.isSome) :
    cmpGlobalE2NodeId a b = .ok (order.cmp a b) := by
  rw [cmpGlobalE2NodeId_eq]
  by_cases differ : site.cmp a b ≠ 0
  · rw [if_pos differ, order]
    simp only [Comparator.lex, if_pos differ]
  · have ties : site.Ties a b := not_not.mp differ
    have type : a.type = b.type := (site_ties.mp ties).1
    rw [if_neg differ, order]
    simp only [Comparator.lex, if_neg differ, Comparator.descending, unitId, ← type]
    by_cases kind : a.type.isCU ∨ a.type.isCUUP ∨ a.type.isDU
    · have both : a.cuDuId.isSome ∧ b.cuDuId.isSome := by
        by_cases read : a.type.isCUUP ∨ a.type.isDU
        · exact ⟨wfA.present read, wfB.present_of_ties ties read⟩
        · have plain : PlainCu a := by
            rw [not_or, Bool.not_eq_true, Bool.not_eq_true] at read
            exact ⟨by simpa [read] using kind, read.1⟩
          exact told plain ties
      obtain ⟨id0, here⟩ := Option.isSome_iff_exists.mp both.1
      obtain ⟨id1, there⟩ := Option.isSome_iff_exists.mp both.2
      simp only [if_pos kind, here, there, Option.getD_some, UInt64.lt_iff_toNat_lt, gt_iff_lt]
    · simp only [if_neg kind, lt_irrefl, if_false]

theorem CusAlike.both (alike : CusAlike ids) (memA : a ∈ ids) (memB : b ∈ ids)
    (plain : PlainCu a) (ties : site.Ties a b) : a.cuDuId.isSome ∧ a.cuDuId = b.cuDuId := by
  obtain ⟨type, plmn, nbId⟩ := site_ties.mp ties
  exact alike a memA b memB plain type plmn nbId

theorem CusAlike.cmp_eq (alike : CusAlike ids) (wf : ∀ m ∈ ids, WellFormed m) (memA : a ∈ ids)
    (memB : b ∈ ids) : cmpGlobalE2NodeId a b = .ok (order.cmp a b) := by
  apply cmp_eq_order (wf a memA) (wf b memB)
  intro plain ties
  obtain ⟨present, same⟩ := alike.both memA memB plain ties
  exact ⟨present, same ▸ present⟩

/-- Where the CUs are alike the comparator ties just the nodes that are equal. -/
theorem CusAlike.ties_iff (alike : CusAlike ids) (wf : ∀ m ∈ ids, WellFormed m) (memA : a ∈ ids)
    (memB : b ∈ ids) : order.Ties a b ↔ eqGlobalE2NodeId a b = .ok true := by
  rw [eq_true_iff (wf a memA) (wf b memB), order_ties]
  apply and_congr_right
  intro ties
  have type : a.type = b.type := (site_ties.mp ties).1
  constructor
  · intro same kind
    obtain ⟨id0, here⟩ := Option.isSome_iff_exists.mp ((wf a memA).present kind)
    obtain ⟨id1, there⟩ :=
      Option.isSome_iff_exists.mp ((wf b memB).present_of_ties ties kind)
    simp only [unitId, ← type, if_pos (Or.inr kind), here, there, Option.getD_some,
      UInt64.toNat_inj] at same
    rw [here, there, same]
  · intro same
    have equal : a.type.isCU ∨ a.type.isCUUP ∨ a.type.isDU → a.cuDuId = b.cuDuId := by
      intro kind
      by_cases read : a.type.isCUUP ∨ a.type.isDU
      · exact same read
      · rw [not_or, Bool.not_eq_true, Bool.not_eq_true] at read
        exact (alike.both memA memB ⟨by simpa [read] using kind, read.1⟩ ties).2
    simp only [unitId, ← type]
    split
    · rw [equal ‹_›]
    · rfl

theorem CusAlike.agrees (alike : CusAlike ids) (wf : ∀ m ∈ ids, WellFormed m) :
    OrderAgrees ids where
  completes a memA b memB := ⟨_, alike.cmp_eq wf memA memB⟩
  range a memA b memB rc done := by
    cases (alike.cmp_eq wf memA memB).symm.trans done
    exact order.range a b
  antisymm a memA b memB := by
    rw [alike.cmp_eq wf memA memB, alike.cmp_eq wf memB memA, order.antisymm a b]
    rfl
  trans a memA b memB c memC ab bc ac doneAB doneBC doneAC := by
    cases (alike.cmp_eq wf memA memB).symm.trans doneAB
    cases (alike.cmp_eq wf memB memC).symm.trans doneBC
    cases (alike.cmp_eq wf memA memC).symm.trans doneAC
    exact order.trans
  zero_iff a memA b memB := by
    rw [alike.cmp_eq wf memA memB, ← alike.ties_iff wf memA memB, Except.ok.injEq]
    rfl

/-- CUs of one site are equal, and tie only when they carry the same id. -/
theorem OrderAgrees.alike (agrees : OrderAgrees ids) (wf : ∀ m ∈ ids, WellFormed m) :
    CusAlike ids := by
  intro a memA b memB plain type plmn nbId
  have ties : site.Ties a b := site_ties.mpr ⟨type, plmn, nbId⟩
  have unread : ¬(a.type.isCUUP ∨ a.type.isDU) := by
    obtain ⟨cu, notUp⟩ := plain
    cases kind : a.type <;> rw [kind] at cu notUp <;> revert cu notUp <;> decide
  have equal : eqGlobalE2NodeId a b = .ok true :=
    (eq_true_iff (wf a memA) (wf b memB)).mpr ⟨ties, fun kind => absurd kind unread⟩
  have tied := (agrees.zero_iff a memA b memB).mpr equal
  have level : ¬site.cmp a b ≠ 0 := not_not.mpr ties
  rw [cmpGlobalE2NodeId_eq, if_neg level, if_pos (Or.inl plain.1)] at tied
  cases here : a.cuDuId with
  | none => simp [here] at tied
  | some id0 =>
      cases there : b.cuDuId with
      | none => simp [here, there] at tied
      | some id1 =>
          simp only [here, there, Except.ok.injEq] at tied
          refine ⟨rfl, congrArg some ?_⟩
          grind

/-- The comparison orders the ids of a registry and agrees with the equality on
    them just when the CUs of one site all carry one id. -/
theorem node_order_agrees_iff (wf : ∀ m ∈ ids, WellFormed m) :
    OrderAgrees ids ↔ CusAlike ids :=
  ⟨fun agrees => agrees.alike wf, fun alike => alike.agrees wf⟩

/-- A node of one site, with or without an id of the unit. -/
def ofSite (type : NgranNode) (cuDuId : Option UInt64) : NodeId :=
  ⟨type, ⟨208, 95, 2⟩, ⟨3584, 0⟩, cuDuId⟩

/-- A split gNB whose CU has no id. -/
theorem node_order_agrees_iff_split :
    OrderAgrees {ofSite .gNBCU none, ofSite .gNBDU (some 1), ofSite .gNBDU (some 2)} ↔
      CusAlike {ofSite .gNBCU none, ofSite .gNBDU (some 1), ofSite .gNBDU (some 2)} := by
  apply node_order_agrees_iff
  intro m mem
  rcases mem with rfl | rfl | rfl
  · exact ⟨by decide, by decide⟩
  · exact ⟨by decide, by decide⟩
  · exact ⟨by decide, by decide⟩

/-- A CU without an id stops the comparison, and two CUs of one site with
    different ids are equal without tying. -/
theorem node_order_differs :
    (WellFormed (ofSite .gNBCU none) ∧ ¬OrderAgrees {ofSite .gNBCU none}) ∧
      WellFormed (ofSite .gNBCU (some 1)) ∧ WellFormed (ofSite .gNBCU (some 2)) ∧
      ¬OrderAgrees {ofSite .gNBCU (some 1), ofSite .gNBCU (some 2)} := by
  refine ⟨⟨⟨by decide, by decide⟩, ?_⟩, ⟨by decide, by decide⟩, ⟨by decide, by decide⟩, ?_⟩
  · intro agrees
    obtain ⟨rc, done⟩ := agrees.completes _ (Set.mem_singleton _) _ (Set.mem_singleton _)
    exact absurd done nofun
  · intro agrees
    have tied := (agrees.zero_iff (ofSite .gNBCU (some 1)) (.inl rfl) (ofSite .gNBCU (some 2))
      (.inr rfl)).mpr (by decide)
    exact absurd tied (by decide)

end FlexRic.GlobalE2NodeIds
