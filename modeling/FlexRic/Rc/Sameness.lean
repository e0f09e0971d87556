import FlexRic.Rc.Agreement

/-! # When subscriptions and indications are the same

Messages that agree are taken for the same just where the comparison admits them. What it
says differs does. Where an assertion stands before the answer no, it says neither.
-/

namespace FlexRic.Rc

open E2sm (CellGlobalId UeIdE2sm)

section
variable {α : Type} {as bs : List α} {o0 o1 : Option α} {u : Unit}

@[simp] theorem assertNone_eq_ok : assertNone o0 o1 = .ok u ↔ o0 = none ∧ o1 = none := by
  rw [assertNone, check_eq_ok, Option.isNone_iff_eq_none, Option.isNone_iff_eq_none]

@[simp] theorem assertIds_eq_ok [LT α] [OfNat α 0] [DecidableLT α] {id0 id1 : α} :
    assertIds id0 id1 = .ok u ↔ 0 < id0 ∧ 0 < id1 := check_eq_ok

@[simp] theorem assertSizes_eq_ok {least most : Nat} :
    assertSizes least most as bs = .ok u ↔ SizeIn least most as ∧ SizeIn least most bs :=
  check_eq_ok

@[simp] theorem assertSome_eq_ok : assertSome as bs = .ok u ↔ 0 < as.length ∧ 0 < bs.length :=
  check_eq_ok

theorem eqSized_eq_ok {least most : Nat} {eq : α → α → Except EqFailure Bool} {b : Bool} :
    eqSized least most eq as bs = .ok b ↔
      (SizeIn least most as ∧ SizeIn least most bs) ∧ eqCounted eq as bs = .ok b := by
  simp only [eqSized, bind_eq_ok, assertSizes_eq_ok, exists_const]

theorem SizeIn.of_length {least most : Nat} (size : SizeIn least most as)
    (lengths : as.length = bs.length) : SizeIn least most bs := by
  rw [SizeIn, ← lengths]
  exact size

/-- Two lists that are the same, and are asserted to be in a range. -/
theorem eqSized_same_iff {least most : Nat} {eq : α → α → Except EqFailure Bool}
    {Same : α → α → Prop} {Kept : α → Prop} (same : List.Forall₂ Same as bs)
    (each : ∀ a b, Same a b → (eq a b = .ok true ↔ Kept a)) :
    eqSized least most eq as bs = .ok true ↔ SizeIn least most as ∧ ∀ a ∈ as, Kept a := by
  rw [eqSized_eq_ok, eqCounted_same_iff same each]
  apply and_congr_left
  intro _
  exact and_iff_left_of_imp fun size => size.of_length same.length_eq

theorem eqSized_self_iff {least most : Nat} {eq : α → α → Except EqFailure Bool} {Kept : α → Prop}
    (each : ∀ a, eq a a = .ok true ↔ Kept a) :
    eqSized least most eq as as = .ok true ↔ SizeIn least most as ∧ ∀ a ∈ as, Kept a := by
  rw [eqSized_eq_ok, eqCounted_self_iff each, and_self]

theorem insisted_true_iff {eq : α → α → Except EqFailure Bool} {a b : α} :
    insisted eq a b = .ok true ↔ eq a b = .ok true := insist_true_iff

theorem insisted_ne_false {eq : α → α → Except EqFailure Bool} (a b : α) :
    insisted eq a b ≠ .ok false := insist_ne_false

/-- Nor is the answer no where there is only the lengths to say it. -/
theorem eqSized_false_iff {least most : Nat} {eq : α → α → Except EqFailure Bool}
    (never : ∀ a b, eq a b ≠ .ok false) :
    eqSized least most eq as bs = .ok false ↔ SizesApart least most as bs := by
  rw [eqSized_eq_ok, eqCounted_false_iff never]
  exact ⟨fun apart => ⟨apart.1.1, apart.1.2, apart.2⟩,
    fun apart => ⟨⟨apart.here, apart.there⟩, apart.differ⟩⟩

theorem eqSized_apart_iff {least most : Nat} {eq : α → α → Except EqFailure Bool}
    {Yes No : α → α → Prop} (each : ∀ a b, Answers (eq a b) (Yes a b) (No a b)) :
    eqSized least most eq as bs = .ok false ↔ ItemsApart least most Yes No as bs := by
  have answers : Answers (eqCounted eq as bs) _ _ := .counted fun a _ b _ => each a b
  rw [eqSized_eq_ok, answers.no]
  exact ⟨fun apart => ⟨apart.1.1, apart.1.2, apart.2⟩,
    fun apart => ⟨⟨apart.here, apart.there⟩, apart.differ⟩⟩

end

theorem eqRrcMsgId_iff (m0 m1 : RrcMsgId) : eqRrcMsgId m0 m1 = true ↔ m0 = m1 := by
  rw [RrcMsgId.mk.injEq, eqRrcMsgId, Bool.and_eq_true, decide_eq_true_eq, decide_eq_true_eq]

theorem eqMsgTypeEvTrg_answers (m0 m1 : MsgTypeEvTrg) :
    Answers (eqMsgTypeEvTrg m0 m1) (m0 = m1 ∧ m0.Admitted) (m0.Apart m1) := by
  cases m0 with
  | net net0 =>
      cases m1 with
      | net net1 =>
          obtain ⟨type0, id0, msg0⟩ := net0
          obtain ⟨type1, id1, msg1⟩ := net1
          constructor
          · simp only [eqMsgTypeEvTrg, eqNetworkInterfaceE2rc, both_true_iff, pure_eq_ok,
              decide_eq_true_iff, bind_eq_ok, assertNone_eq_ok, exists_const, and_true,
              MsgTypeEvTrg.net.injEq, NetworkInterfaceE2rc.mk.injEq, MsgTypeEvTrg.Admitted]
            constructor
            · rintro ⟨rfl, ⟨rfl, rfl⟩, rfl, rfl⟩
              exact ⟨⟨rfl, rfl, rfl⟩, rfl, rfl⟩
            · rintro ⟨⟨rfl, rfl, rfl⟩, rfl, rfl⟩
              exact ⟨rfl, ⟨rfl, rfl⟩, rfl, rfl⟩
          · rw [eqMsgTypeEvTrg, eqNetworkInterfaceE2rc, both_decide_false_iff]
            simp only [bind_eq_ok, pure_eq_ok, reduceCtorEq, and_false, exists_false, or_false]
            rfl
      | rrcMsg rrcMsg1 =>
          exact ⟨iff_of_false (by intro here; cases here) (by rintro ⟨⟨⟩, -⟩),
            iff_of_true rfl trivial⟩
  | rrcMsg rrcMsg0 =>
      cases m1 with
      | net net1 =>
          exact ⟨iff_of_false (by intro here; cases here) (by rintro ⟨⟨⟩, -⟩),
            iff_of_true rfl trivial⟩
      | rrcMsg rrcMsg1 =>
          apply (Answers.of_pure (eqRrcMsgId_iff rrcMsg0 rrcMsg1)).iff ?_ Iff.rfl
          rw [MsgTypeEvTrg.rrcMsg.injEq]
          exact (and_iff_left trivial).symm

theorem eqMsgEvTrg_answers (m0 m1 : MsgEvTrg) :
    Answers (eqMsgEvTrg m0 m1) (m0 = m1 ∧ m0.Admitted) (m0.Apart m1) where
  yes := by
    obtain ⟨id0, type0, dir0, ue0, or0⟩ := m0
    obtain ⟨id1, type1, dir1, ue1, or1⟩ := m1
    simp only [eqMsgEvTrg, both_true_iff, pure_eq_ok, decide_eq_true_iff, bind_eq_ok,
      assertNone_eq_ok, exists_const, and_true, (eqMsgTypeEvTrg_answers type0 type1).yes,
      MsgEvTrg.mk.injEq]
    constructor
    · rintro ⟨rfl, ⟨rfl, type⟩, ⟨rfl, rfl⟩, ⟨rfl, rfl⟩, rfl, rfl⟩
      exact ⟨⟨rfl, rfl, rfl, rfl, rfl⟩, type, rfl, rfl, rfl⟩
    · rintro ⟨⟨rfl, rfl, rfl, rfl, rfl⟩, type, dir, ue, or⟩
      exact ⟨rfl, ⟨rfl, type⟩, ⟨dir, dir⟩, ⟨ue, ue⟩, or, or⟩
  no := by
    rw [eqMsgEvTrg, both_decide_false_iff, both_false_iff, (eqMsgTypeEvTrg_answers _ _).no,
      MsgEvTrg.Apart]
    simp only [bind_eq_ok, pure_eq_ok, reduceCtorEq, and_false, exists_false, or_false]

theorem eqEvTrgFrmt1_same_iff (m : EvTrgFrmt1) : eqEvTrgFrmt1 m m = .ok true ↔ m.Admitted := by
  have items := @eqSized_self_iff _ m.msgEvTrg 1 65535 eqMsgEvTrg _ fun a =>
    (eqMsgEvTrg_answers a a).yes.trans (and_iff_right rfl)
  simp only [eqEvTrgFrmt1, both_true_iff, bind_eq_ok, assertNone_eq_ok, exists_const, pure_eq_ok,
    and_true, and_self, items]
  exact ⟨fun all => ⟨all.1.1, all.1.2, all.2⟩, fun all => ⟨⟨all.1, all.2⟩, all.3⟩⟩

theorem eqEvTrgFrmt1_false_iff (m0 m1 : EvTrgFrmt1) : eqEvTrgFrmt1 m0 m1 = .ok false ↔
    ItemsApart 1 65535 (fun a b => a = b ∧ a.Admitted) MsgEvTrg.Apart m0.msgEvTrg
      m1.msgEvTrg := by
  rw [eqEvTrgFrmt1, both_false_iff, eqSized_apart_iff eqMsgEvTrg_answers]
  simp only [bind_eq_ok, pure_eq_ok, reduceCtorEq, and_false, exists_false, or_false]

theorem eqEvTrgFrmt2_same_iff (m : EvTrgFrmt2) : eqEvTrgFrmt2 m m = .ok true ↔ m.Admitted := by
  simp only [eqEvTrgFrmt2, both_true_iff, bind_eq_ok, assertIds_eq_ok, assertNone_eq_ok,
    exists_const, pure_eq_ok, decide_true, and_true, true_and, and_self]
  exact ⟨fun all => ⟨all.1, all.2.1, all.2.2.1, all.2.2.2⟩,
    fun all => ⟨all.1, all.2, all.3, all.4⟩⟩

theorem eqEvTrgFrmt2_false_iff (m0 m1 : EvTrgFrmt2) :
    eqEvTrgFrmt2 m0 m1 = .ok false ↔ m0.Apart m1 := by
  simp only [eqEvTrgFrmt2, bind_eq_ok, assertIds_eq_ok, exists_const, both_decide_false_iff,
    pure_eq_ok, reduceCtorEq, and_false, or_false]
  exact ⟨fun apart => ⟨apart.1.1, apart.1.2, apart.2⟩,
    fun apart => ⟨⟨apart.here, apart.there⟩, apart.differ⟩⟩

theorem eqE2NodeInfoChng_same_iff (m : E2NodeInfoChng) :
    eqE2NodeInfoChng m m = .ok true ↔ m.Admitted := by
  simp only [eqE2NodeInfoChng, bind_eq_ok, assertIds_eq_ok, check_eq_ok, assertNone_eq_ok,
    exists_const, pure_eq_ok, and_true, and_self]
  exact ⟨fun all => ⟨all.1, ⟨all.2.1, all.2.2.1⟩, all.2.2.2.1, all.2.2.2.2⟩,
    fun all => ⟨all.1, all.2.1, all.2.2, all.3, all.4⟩⟩

theorem eqE2NodeInfoChng_ne_false (m0 m1 : E2NodeInfoChng) :
    eqE2NodeInfoChng m0 m1 ≠ .ok false := by
  simp only [eqE2NodeInfoChng, ne_eq, bind_eq_ok, pure_eq_ok, reduceCtorEq, and_false,
    exists_false, not_false_iff]

theorem eqRrcState_true_iff (m0 m1 : RrcState) :
    eqRrcState m0 m1 = .ok true ↔ m0 = m1 ∧ m0.logOr = none := by
  obtain ⟨state0, or0⟩ := m0
  obtain ⟨state1, or1⟩ := m1
  simp only [eqRrcState, both_true_iff, pure_eq_ok, decide_eq_true_iff, bind_eq_ok,
    assertNone_eq_ok, exists_const, and_true, RrcState.mk.injEq]
  constructor
  · rintro ⟨rfl, rfl, rfl⟩
    exact ⟨⟨rfl, rfl⟩, rfl⟩
  · rintro ⟨⟨rfl, rfl⟩, rfl⟩
    exact ⟨rfl, rfl, rfl⟩

theorem eqUeInfoChngTrigger_answers (m0 m1 : UeInfoChngTrigger) :
    Answers (eqUeInfoChngTrigger m0 m1) (m0.Agree m1 ∧ m0.Admitted) (m0.Apart m1) := by
  cases m0 with
  | rrcState state0 =>
      cases m1 with
      | rrcState state1 =>
          constructor
          · rw [eqUeInfoChngTrigger, insist_true_iff,
              eqCounted_kept_iff fun a _ b _ => eqRrcState_true_iff a b, List.forall₂_eq_eq_eq]
            rfl
          · exact iff_of_false insist_ne_false id
      | _ =>
          exact ⟨iff_of_false (by intro here; cases here) (by rintro ⟨⟨⟩, -⟩),
            iff_of_true rfl trivial⟩
  | ueIdChng id0 =>
      cases m1 with
      | ueIdChng id1 =>
          constructor
          · rw [eqUeInfoChngTrigger, insist_true_iff, pure_eq_ok, decide_eq_true_iff]
            exact (and_iff_left trivial).symm
          · exact iff_of_false insist_ne_false id
      | _ =>
          exact ⟨iff_of_false (by intro here; cases here) (by rintro ⟨⟨⟩, -⟩),
            iff_of_true rfl trivial⟩
  | l2State test0 =>
      cases m1 with
      | l2State test1 =>
          constructor
          · rw [eqUeInfoChngTrigger, insist_true_iff, eqRanParamCondCritDef_true_iff]
            rfl
          · exact iff_of_false insist_ne_false id
      | _ =>
          exact ⟨iff_of_false (by intro here; cases here) (by rintro ⟨⟨⟩, -⟩),
            iff_of_true rfl trivial⟩

theorem eqUeInfoChng_answers (m0 m1 : UeInfoChng) :
    Answers (eqUeInfoChng m0 m1) (m0.Agree m1 ∧ m0.Admitted) (m0.Apart m1) where
  yes := by
    simp only [eqUeInfoChng, both_true_iff, pure_eq_ok, decide_eq_true_iff, bind_eq_ok,
      assertIds_eq_ok, assertNone_eq_ok, exists_const, and_true,
      (eqUeInfoChngTrigger_answers _ _).yes]
    constructor
    · rintro ⟨pos, ids, ⟨agree, admitted⟩, ⟨ue0, ue1⟩, or0, or1⟩
      exact ⟨⟨ids, agree, ue0.trans ue1.symm, or0.trans or1.symm⟩, pos.1, admitted, ue0, or0⟩
    · rintro ⟨agree, admitted⟩
      have pos := admitted.evTrigCondId
      exact ⟨⟨pos, agree.evTrigCondId ▸ pos⟩, agree.evTrigCondId,
        ⟨agree.trigger, admitted.trigger⟩,
        ⟨admitted.assocUeInfo, agree.assocUeInfo.symm.trans admitted.assocUeInfo⟩,
        admitted.logOr, agree.logOr.symm.trans admitted.logOr⟩
  no := by
    simp only [eqUeInfoChng, bind_eq_ok, assertIds_eq_ok, exists_const, both_decide_false_iff]
    simp only [both_false_iff, (eqUeInfoChngTrigger_answers _ _).no, bind_eq_ok, pure_eq_ok,
      reduceCtorEq, and_false, exists_false, or_false]
    exact ⟨fun apart => ⟨apart.1.1, apart.1.2, apart.2⟩,
      fun apart => ⟨⟨apart.here, apart.there⟩, apart.differ⟩⟩

theorem eqEvTrgFrmt5_same_iff (m : EvTrgFrmt5) : eqEvTrgFrmt5 m m = .ok true ↔ m.Admitted := by
  simp only [eqEvTrgFrmt5, bind_eq_ok, assertNone_eq_ok, exists_const, pure_eq_ok, and_true,
    and_self]
  exact ⟨fun all => ⟨all.1, all.2⟩, fun all => ⟨all.1, all.2⟩⟩

theorem eqEventTrigger_agree_iff {m0 m1 : EventTrigger} (agree : m0.Agree m1) :
    eqEventTrigger m0 m1 = .ok true ↔ m0.Admitted := by
  cases m0 with
  | frmt1 m0 =>
      cases m1 with
      | frmt1 m1 => exact agree ▸ eqEvTrgFrmt1_same_iff m0
      | _ => exact agree.elim
  | frmt2 m0 =>
      cases m1 with
      | frmt2 m1 => exact agree ▸ eqEvTrgFrmt2_same_iff m0
      | _ => exact agree.elim
  | frmt3 lst0 =>
      cases m1 with
      | frmt3 lst1 =>
          cases agree
          exact eqSized_self_iff eqE2NodeInfoChng_same_iff
      | _ => exact agree.elim
  | frmt4 lst0 =>
      cases m1 with
      | frmt4 lst1 =>
          exact eqSized_same_iff agree fun a b same =>
            (eqUeInfoChng_answers a b).yes.trans (and_iff_right same)
      | _ => exact agree.elim
  | frmt5 m0 =>
      cases m1 with
      | frmt5 m1 => exact agree ▸ eqEvTrgFrmt5_same_iff m0
      | _ => exact agree.elim

theorem eqEventTrigger_false_iff (m0 m1 : EventTrigger) :
    eqEventTrigger m0 m1 = .ok false ↔ m0.Apart m1 := by
  cases m0 with
  | frmt1 m0 =>
      cases m1 with
      | frmt1 m1 => exact eqEvTrgFrmt1_false_iff m0 m1
      | _ => exact iff_of_false (by intro here; cases here) id
  | frmt2 m0 =>
      cases m1 with
      | frmt2 m1 => exact eqEvTrgFrmt2_false_iff m0 m1
      | _ => exact iff_of_false (by intro here; cases here) id
  | frmt3 lst0 =>
      cases m1 with
      | frmt3 lst1 => exact eqSized_false_iff eqE2NodeInfoChng_ne_false
      | _ => exact iff_of_false (by intro here; cases here) id
  | frmt4 lst0 =>
      cases m1 with
      | frmt4 lst1 => exact eqSized_apart_iff eqUeInfoChng_answers
      | _ => exact iff_of_false (by intro here; cases here) id
  | frmt5 m0 =>
      cases m1 with
      | frmt5 m1 =>
          refine iff_of_false ?_ id
          simp only [eqEventTrigger, eqEvTrgFrmt5, bind_eq_ok, pure_eq_ok, reduceCtorEq, and_false,
            exists_false, not_false_iff]
      | _ => exact iff_of_false (by intro here; cases here) id

theorem eqParamReportDef_same_iff (m : ParamReportDef) :
    eqParamReportDef m m = .ok true ↔ m.Admitted := by
  obtain ⟨id, def0⟩ := m
  simp only [eqParamReportDef, both_true_iff, bind_eq_ok, assertIds_eq_ok, exists_const,
    pure_eq_ok, decide_true, true_and, and_self]
  cases def0 with
  | none =>
      have nothing : ∀ d ∈ (none : Option RanParamDef), d.Flat := by
        intro d here
        cases here
      exact ⟨fun all => ⟨all.1, nothing⟩, fun all => ⟨all.1, rfl⟩⟩
  | some d =>
      rw [eqPtr, eqRanParamDef_true_iff, and_iff_left rfl]
      exact ⟨fun all => ⟨all.1, fun _ mem => Option.some.inj mem ▸ all.2⟩,
        fun all => ⟨all.1, all.2 d rfl⟩⟩

theorem eqPolicyAction_agree_iff {m0 m1 : PolicyAction} (agree : m0.Agree m1) :
    eqPolicyAction m0 m1 = .ok true ↔ m0.Admitted := by
  have params := @eqSized_same_iff _ _ _ 0 65534 _ _ _ agree.seqRanParam fun a b same =>
    (eqSeqRanParam_true_iff a b).trans (and_iff_right same)
  simp only [eqPolicyAction, both_true_iff, bind_eq_ok, assertIds_eq_ok, exists_const,
    assertNone_eq_ok, pure_eq_ok, and_true, ← agree.policyActId, ← agree.polDec, decide_true,
    true_and, and_self, params]
  exact ⟨fun all => ⟨all.1, all.2.1.1, all.2.1.2, all.2.2⟩,
    fun all => ⟨all.1, ⟨all.2, all.3⟩, all.4⟩⟩

theorem eqPolicyCond_agree_iff {m0 m1 : PolicyCond} (agree : m0.Agree m1) :
    eqPolicyCond m0 m1 = .ok true ↔ m0.Admitted := by
  simp only [eqPolicyCond, both_true_iff, bind_eq_ok, exists_const, assertNone_eq_ok, pure_eq_ok,
    and_true, eqPolicyAction_agree_iff agree.polAct]
  exact ⟨fun all => ⟨all.1, all.2.1⟩,
    fun all => ⟨all.polAct, all.pol, none_of_rel agree.pol all.pol⟩⟩

theorem eqRanParamIns_same_iff (m : RanParamIns) :
    eqRanParamIns m m = .ok true ↔ m.ranDef = none := by
  simp only [eqRanParamIns, both_true_iff, pure_eq_ok, decide_true, true_and, bind_eq_ok,
    exists_const, assertNone_eq_ok, and_true, and_self]

theorem eqActDefFrmt3_agree_iff {m0 m1 : ActDefFrmt3} (agree : m0.Agree m1) :
    eqActDefFrmt3 m0 m1 = .ok true ↔ m0.Admitted := by
  have params := @eqCounted_self_iff EqFailure _ (insisted eqRanParamIns) _ m0.ranParam
    fun a => insisted_true_iff.trans (eqRanParamIns_same_iff a)
  simp only [eqActDefFrmt3, both_true_iff, pure_eq_ok, bind_eq_ok, exists_const, assertSome_eq_ok,
    assertNone_eq_ok, ← agree.id, ← agree.ranParam, decide_true, true_and, and_self, and_true,
    params]
  exact ⟨fun all => ⟨all.1, all.2.1, all.2.2.1⟩,
    fun all => ⟨all.1, all.2, all.3, none_of_rel agree.ueId all.3⟩⟩

theorem eqRanParamInsInd_same_iff (m : RanParamInsInd) :
    eqRanParamInsInd m m = .ok true ↔ m.Admitted := by
  simp only [eqRanParamInsInd, both_true_iff, pure_eq_ok, decide_true, true_and, bind_eq_ok,
    exists_const, assertIds_eq_ok, assertNone_eq_ok, and_true, and_self]
  exact ⟨fun all => ⟨all.1, all.2⟩, fun all => ⟨all.1, all.2⟩⟩

theorem eqSeqInsIndActDef_same_iff (m : SeqInsIndActDef) :
    eqSeqInsIndActDef m m = .ok true ↔ m.Admitted := by
  have params := @eqCounted_self_iff EqFailure _ eqRanParamInsInd _ m.ranParamInsInd
    eqRanParamInsInd_same_iff
  simp only [eqSeqInsIndActDef, bind_eq_ok, exists_const, assertIds_eq_ok, and_self, params]
  exact ⟨fun all => ⟨all.1, all.2⟩, fun all => ⟨all.1, all.2⟩⟩

theorem eqSeqInsStyle_same_iff (m : SeqInsStyle) :
    eqSeqInsStyle m m = .ok true ↔ m.Admitted := by
  have defs := @eqSized_self_iff _ m.seqInsIndActDef 1 63 _ _ eqSeqInsIndActDef_same_iff
  simp only [eqSeqInsStyle, both_true_iff, pure_eq_ok, decide_true, true_and, defs]
  exact ⟨fun all => ⟨all.1, all.2⟩, fun all => ⟨all.1, all.2⟩⟩

theorem eqActDefFrmt4_agree_iff {m0 m1 : ActDefFrmt4} (agree : m0.Agree m1) :
    eqActDefFrmt4 m0 m1 = .ok true ↔ m0.Admitted := by
  have styles := @eqSized_self_iff _ m0.seqInsStyle 1 4 (insisted eqSeqInsStyle) _
    fun a => insisted_true_iff.trans (eqSeqInsStyle_same_iff a)
  simp only [eqActDefFrmt4, both_true_iff, pure_eq_ok, bind_eq_ok, exists_const, assertNone_eq_ok,
    ← agree.seqInsStyle, and_true, styles]
  exact ⟨fun all => ⟨all.1.1, all.1.2, all.2.1⟩,
    fun all => ⟨⟨all.1, all.2⟩, all.3, none_of_rel agree.ueId all.3⟩⟩

theorem eqActDefFormat_agree_iff {m0 m1 : ActDefFormat} (agree : m0.Agree m1) :
    eqActDefFormat m0 m1 = .ok true ↔ m0.Admitted := by
  cases m0 with
  | frmt1 lst0 =>
      cases m1 with
      | frmt1 lst1 =>
          cases agree
          have defs := @eqCounted_self_iff EqFailure _ (insisted eqParamReportDef) _ lst0
            fun a => insisted_true_iff.trans (eqParamReportDef_same_iff a)
          simp only [eqActDefFormat, eqActDefFrmt1, bind_eq_ok, exists_const, assertSome_eq_ok,
            and_self, defs]
          rfl
      | _ => exact agree.elim
  | frmt2 lst0 =>
      cases m1 with
      | frmt2 lst1 =>
          exact eqSized_same_iff agree fun a b same =>
            insisted_true_iff.trans (eqPolicyCond_agree_iff same)
      | _ => exact agree.elim
  | frmt3 m0 =>
      cases m1 with
      | frmt3 m1 => exact eqActDefFrmt3_agree_iff agree
      | _ => exact agree.elim
  | frmt4 m0 =>
      cases m1 with
      | frmt4 m1 => exact eqActDefFrmt4_agree_iff agree
      | _ => exact agree.elim

theorem eqActDefFormat_false_iff (m0 m1 : ActDefFormat) :
    eqActDefFormat m0 m1 = .ok false ↔ m0.Apart m1 := by
  cases m0 with
  | frmt1 lst0 =>
      cases m1 with
      | frmt1 lst1 =>
          simp only [eqActDefFormat, eqActDefFrmt1, bind_eq_ok, exists_const, assertSome_eq_ok,
            eqCounted_false_iff insisted_ne_false]
          exact ⟨fun apart => ⟨apart.1.1, apart.1.2, apart.2⟩,
            fun apart => ⟨⟨apart.here, apart.there⟩, apart.differ⟩⟩
      | _ => exact iff_of_true rfl trivial
  | frmt2 lst0 =>
      cases m1 with
      | frmt2 lst1 => exact eqSized_false_iff insisted_ne_false
      | _ => exact iff_of_true rfl trivial
  | frmt3 m0 =>
      cases m1 with
      | frmt3 m1 =>
          simp only [eqActDefFormat, eqActDefFrmt3, both_decide_false_iff, bind_eq_ok,
            exists_const, assertSome_eq_ok]
          simp only [both_false_iff, eqCounted_false_iff insisted_ne_false, bind_eq_ok,
            pure_eq_ok, reduceCtorEq, and_false, exists_false, or_false]
          apply or_congr_right
          exact ⟨fun apart => ⟨apart.1.1, apart.1.2, apart.2⟩,
            fun apart => ⟨⟨apart.here, apart.there⟩, apart.differ⟩⟩
      | _ => exact iff_of_true rfl trivial
  | frmt4 m0 =>
      cases m1 with
      | frmt4 m1 =>
          rw [eqActDefFormat, eqActDefFrmt4, both_false_iff, eqSized_false_iff insisted_ne_false]
          simp only [bind_eq_ok, pure_eq_ok, reduceCtorEq, and_false, exists_false, or_false]
          rfl
      | _ => exact iff_of_true rfl trivial

theorem eqActionDef_agree_iff {m0 m1 : ActionDef} (agree : m0.Agree m1) :
    eqActionDef m0 m1 = .ok true ↔ m0.format.Admitted := by
  rw [eqActionDef, both_true_iff, pure_eq_ok, decide_eq_true_iff,
    eqActDefFormat_agree_iff agree.format]
  exact and_iff_right agree.ricStyleType

theorem eqActionDef_false_iff (m0 m1 : ActionDef) :
    eqActionDef m0 m1 = .ok false ↔ m0.Apart m1 := by
  rw [eqActionDef, both_decide_false_iff, eqActDefFormat_false_iff]
  rfl

theorem eqUeId_agree_iff {m0 m1 : UeIdE2sm} (same : E2sm.Same m0 m1) :
    eqUeId m0 m1 = .ok true ↔ UeRead m0 := by
  have answers := (E2sm.ueId_answers m0 m0).mapError EqFailure.ueId
  have like : E2sm.Like m0 m0 := E2sm.Same.like rfl
  rw [eqUeId, ← E2sm.eqUeIdE2sm_congr same, answers.yes, and_iff_right like]
  rfl

theorem eqCellGlobalId_iff (m0 m1 : CellGlobalId) : eqCellGlobalId m0 m1 = true ↔ m0 = m1 := by
  cases m0 <;> cases m1 <;> simp [eqCellGlobalId, E2sm.eqE2smPlmn_iff]

theorem eqSeqRanParams_agree_iff {lst0 lst1 : List SeqRanParam}
    (agree : List.Forall₂ SeqRanParam.Agree lst0 lst1) :
    eqCounted (insisted eqSeqRanParam) lst0 lst1 = .ok true ↔
      ∀ p ∈ lst0, p.ranParamVal.Sized :=
  eqCounted_same_iff agree fun a b same =>
    insisted_true_iff.trans ((eqSeqRanParam_true_iff a b).trans (and_iff_right same))

theorem eqSeqUeId_agree_iff {m0 m1 : SeqUeId} (agree : m0.Agree m1) :
    eqSeqUeId m0 m1 = .ok true ↔ m0.Admitted := by
  have params := @eqUpTo_same_iff _ _ EqFailure.outside _ _ _ _ _ agree.seqRanParam fun a b same =>
    (eqSeqRanParam_true_iff a b).trans (and_iff_right same)
  simp only [eqSeqUeId, both_true_iff, eqUeId_agree_iff agree.ueId, bind_eq_ok, exists_const,
    assertSizes_eq_ok, params]
  exact ⟨fun all => ⟨all.1, all.2.1.1, all.2.2⟩,
    fun all => ⟨all.1, ⟨all.2, all.2.of_length agree.seqRanParam.length_eq⟩, all.3⟩⟩

theorem eqSeqCellInfo_same_iff (m : SeqCellInfo) :
    eqSeqCellInfo m m = .ok true ↔ m.Admitted := by
  simp only [eqSeqCellInfo, both_true_iff, pure_eq_ok, eqCellGlobalId_iff, true_and, bind_eq_ok,
    exists_const, assertNone_eq_ok, and_true, and_self]
  exact ⟨fun all => ⟨all.1, all.2.1, all.2.2⟩, fun all => ⟨all.1, all.2, all.3⟩⟩

theorem eqSeqUeInfo_agree_iff {m0 m1 : SeqUeInfo} (agree : m0.Agree m1) :
    eqSeqUeInfo m0 m1 = .ok true ↔ m0.Admitted := by
  simp only [eqSeqUeInfo, both_true_iff, eqUeId_agree_iff agree.ueId, bind_eq_ok, exists_const,
    assertNone_eq_ok, pure_eq_ok, eqCellGlobalId_iff, agree.cellGlobalId, ← agree.ueCtxInfo,
    and_self, and_true]
  exact ⟨fun all => ⟨all.1, all.2⟩, fun all => ⟨all.1, all.2⟩⟩

theorem eqSeqCellInfo2_same_iff (m : SeqCellInfo2) :
    eqSeqCellInfo2 m m = .ok true ↔ m.Admitted := by
  simp only [eqSeqCellInfo2, both_true_iff, pure_eq_ok, eqCellGlobalId_iff, true_and, bind_eq_ok,
    exists_const, assertNone_eq_ok, and_true, and_self]
  exact ⟨fun all => ⟨all.1, all.2⟩, fun all => ⟨all.1, all.2⟩⟩

theorem eqIndMsgFrmt4_agree_iff {m0 m1 : IndMsgFrmt4} (agree : m0.Agree m1) :
    eqIndMsgFrmt4 m0 m1 = .ok true ↔ m0.Admitted := by
  have ues := @eqSized_same_iff _ _ _ 0 65535 (insisted eqSeqUeInfo) _ _ agree.seqUeInfo
    fun a b same => insisted_true_iff.trans (eqSeqUeInfo_agree_iff same)
  have cells := @eqUpTo_self_iff _ _ EqFailure.outside (insisted eqSeqCellInfo2) _ m0.seqCellInfo2
    fun a => insisted_true_iff.trans (eqSeqCellInfo2_same_iff a)
  simp only [eqIndMsgFrmt4, both_true_iff, ues, bind_eq_ok, exists_const, assertSizes_eq_ok,
    ← agree.seqCellInfo2, and_self, cells]
  exact ⟨fun all => ⟨all.1.1, all.1.2, all.2.1, all.2.2⟩,
    fun all => ⟨⟨all.1, all.2⟩, all.3, all.4⟩⟩

theorem eqRanParamReq_agree_iff {m0 m1 : RanParamReq} (agree : m0.Agree m1) :
    eqRanParamReq m0 m1 = .ok true ↔ m0.Admitted := by
  simp only [eqRanParamReq, both_true_iff, bind_eq_ok, exists_const, assertIds_eq_ok, pure_eq_ok,
    ← agree.ranParamId, decide_true, true_and, and_self, eqRanParamValType_true_iff,
    and_iff_right agree.ranParam]
  exact ⟨fun all => ⟨all.1, all.2⟩, fun all => ⟨all.1, all.2⟩⟩

theorem eqSeqInsIndAct2_agree_iff {m0 m1 : SeqInsIndAct2} (agree : m0.Agree m1) :
    eqSeqInsIndAct2 m0 m1 = .ok true ↔ m0.Admitted := by
  have reqs := @eqSized_same_iff _ _ _ 0 65535 eqRanParamReq _ _ agree.ranParamReq
    fun a b same => eqRanParamReq_agree_iff same
  simp only [eqSeqInsIndAct2, both_true_iff, pure_eq_ok, agree.insIndId, decide_true, true_and,
    reqs]
  exact ⟨fun all => ⟨all.1, all.2⟩, fun all => ⟨all.1, all.2⟩⟩

theorem eqSeqInsStyle2_agree_iff {m0 m1 : SeqInsStyle2} (agree : m0.Agree m1) :
    eqSeqInsStyle2 m0 m1 = .ok true ↔ m0.Admitted := by
  have acts := @eqUpTo_same_iff _ _ EqFailure.outside eqSeqInsIndAct2 _ _ _ _ agree.seqInsIndAct
    fun a b same => eqSeqInsIndAct2_agree_iff same
  simp only [eqSeqInsStyle2, both_true_iff, pure_eq_ok, agree.indInsStyle, decide_true, true_and,
    bind_eq_ok, exists_const, assertSizes_eq_ok, acts]
  exact ⟨fun all => ⟨all.1.1, all.2⟩,
    fun all => ⟨⟨all.1, all.1.of_length agree.seqInsIndAct.length_eq⟩, all.2⟩⟩

theorem eqIndMsg_agree_iff {m0 m1 : IndMsg} (agree : m0.Agree m1) :
    eqIndMsg m0 m1 = .ok true ↔ m0.Admitted := by
  cases m0 with
  | frmt1 lst0 =>
      cases m1 with
      | frmt1 lst1 => exact eqSeqRanParams_agree_iff agree
      | _ => exact agree.elim
  | frmt2 lst0 =>
      cases m1 with
      | frmt2 lst1 =>
          exact eqCounted_same_iff agree fun a b same =>
            insisted_true_iff.trans (eqSeqUeId_agree_iff same)
      | _ => exact agree.elim
  | frmt3 lst0 =>
      cases m1 with
      | frmt3 lst1 =>
          cases agree
          exact eqCounted_self_iff fun a =>
            insisted_true_iff.trans (eqSeqCellInfo_same_iff a)
      | _ => exact agree.elim
  | frmt4 m0 =>
      cases m1 with
      | frmt4 m1 => exact eqIndMsgFrmt4_agree_iff agree
      | _ => exact agree.elim
  | frmt5 lst0 =>
      cases m1 with
      | frmt5 lst1 => exact eqSeqRanParams_agree_iff agree
      | _ => exact agree.elim
  | frmt6 lst0 =>
      cases m1 with
      | frmt6 lst1 =>
          exact eqSized_same_iff agree fun a b same =>
            insisted_true_iff.trans (eqSeqInsStyle2_agree_iff same)
      | _ => exact agree.elim

theorem eqIndMsgFrmt4_false_iff (m0 m1 : IndMsgFrmt4) :
    eqIndMsgFrmt4 m0 m1 = .ok false ↔ SizesApart 0 65535 m0.seqUeInfo m1.seqUeInfo := by
  rw [eqIndMsgFrmt4, both_false_iff, eqSized_false_iff insisted_ne_false]
  apply or_iff_left
  rintro ⟨-, differ⟩
  rw [bind_eq_ok] at differ
  obtain ⟨-, -, differ⟩ := differ
  exact eqUpTo_ne_false insisted_ne_false _ _ differ

theorem eqIndMsg_false_iff (m0 m1 : IndMsg) : eqIndMsg m0 m1 = .ok false ↔ m0.Apart m1 := by
  cases m0 with
  | frmt1 lst0 =>
      cases m1 with
      | frmt1 lst1 => exact eqCounted_false_iff insisted_ne_false
      | _ => exact iff_of_true rfl trivial
  | frmt2 lst0 =>
      cases m1 with
      | frmt2 lst1 => exact eqCounted_false_iff insisted_ne_false
      | _ => exact iff_of_true rfl trivial
  | frmt3 lst0 =>
      cases m1 with
      | frmt3 lst1 => exact eqCounted_false_iff insisted_ne_false
      | _ => exact iff_of_true rfl trivial
  | frmt4 m0 =>
      cases m1 with
      | frmt4 m1 => exact eqIndMsgFrmt4_false_iff m0 m1
      | _ => exact iff_of_true rfl trivial
  | frmt5 lst0 =>
      cases m1 with
      | frmt5 lst1 => exact eqCounted_false_iff insisted_ne_false
      | _ => exact iff_of_true rfl trivial
  | frmt6 lst0 =>
      cases m1 with
      | frmt6 lst1 => exact eqSized_false_iff insisted_ne_false
      | _ => exact iff_of_true rfl trivial

theorem MsgTypeEvTrg.Apart.sound {m0 m1 : MsgTypeEvTrg} (apart : m0.Apart m1) : m0 ≠ m1 := by
  rintro rfl
  cases m0 with
  | net m => exact apart rfl
  | rrcMsg m => exact apart rfl

theorem MsgEvTrg.Apart.sound (m0 m1 : MsgEvTrg) (apart : m0.Apart m1) : m0 ≠ m1 := by
  rintro rfl
  rcases apart with ids | types
  · exact ids rfl
  · exact types.sound rfl

theorem UeInfoChng.Apart.sound (m0 m1 : UeInfoChng) (apart : m0.Apart m1) : ¬m0.Agree m1 := by
  intro agree
  rcases apart.differ with ids | types
  · exact ids agree.evTrigCondId
  · have trigger := agree.trigger
    cases here : m0.trigger <;> cases there : m1.trigger <;> rw [here, there] at types trigger
    all_goals first | exact types.elim | exact trigger.elim

theorem EventTrigger.Apart.sound {m0 m1 : EventTrigger} (apart : m0.Apart m1) :
    ¬m0.Agree m1 := by
  cases m0 with
  | frmt1 m0 =>
      cases m1 with
      | frmt1 m1 =>
          rintro rfl
          apply apart.differ.sound MsgEvTrg.Apart.sound
          exact List.forall₂_same.mpr fun _ _ => rfl
      | _ => exact apart.elim
  | frmt2 m0 =>
      cases m1 with
      | frmt2 m1 =>
          rintro rfl
          rcases apart.differ with types | ⟨-, breaks⟩
          · exact types rfl
          · exact breaks rfl
      | _ => exact apart.elim
  | frmt3 lst0 =>
      cases m1 with
      | frmt3 lst1 => exact fun same => apart.differ (congrArg List.length same)
      | _ => exact apart.elim
  | frmt4 lst0 =>
      cases m1 with
      | frmt4 lst1 => exact apart.differ.sound UeInfoChng.Apart.sound
      | _ => exact apart.elim
  | frmt5 m0 => exact apart.elim

theorem ActDefFormat.Apart.sound {m0 m1 : ActDefFormat} (apart : m0.Apart m1) :
    ¬m0.Agree m1 := by
  cases m0 with
  | frmt1 lst0 =>
      cases m1 with
      | frmt1 lst1 => exact fun same => apart.differ (congrArg List.length same)
      | _ => exact id
  | frmt2 lst0 =>
      cases m1 with
      | frmt2 lst1 => exact fun agree => apart.differ agree.length_eq
      | _ => exact id
  | frmt3 m0 =>
      cases m1 with
      | frmt3 m1 =>
          intro agree
          rcases apart with ids | lengths
          · exact ids agree.id
          · exact lengths.differ (congrArg List.length agree.ranParam)
      | _ => exact id
  | frmt4 m0 =>
      cases m1 with
      | frmt4 m1 => exact fun agree => apart.differ (congrArg List.length agree.seqInsStyle)
      | _ => exact id

theorem ActionDef.Apart.sound {m0 m1 : ActionDef} (apart : m0.Apart m1) : ¬m0.Agree m1 := by
  intro agree
  rcases apart with types | formats
  · exact types agree.ricStyleType
  · exact formats.sound agree.format

theorem IndMsg.Apart.sound {m0 m1 : IndMsg} (apart : m0.Apart m1) : ¬m0.Agree m1 := by
  cases m0 with
  | frmt1 lst0 =>
      cases m1 with
      | frmt1 lst1 => exact fun agree => apart agree.length_eq
      | _ => exact id
  | frmt2 lst0 =>
      cases m1 with
      | frmt2 lst1 => exact fun agree => apart agree.length_eq
      | _ => exact id
  | frmt3 lst0 =>
      cases m1 with
      | frmt3 lst1 => exact fun same => apart (congrArg List.length same)
      | _ => exact id
  | frmt4 m0 =>
      cases m1 with
      | frmt4 m1 => exact fun agree => apart.differ agree.seqUeInfo.length_eq
      | _ => exact id
  | frmt5 lst0 =>
      cases m1 with
      | frmt5 lst1 => exact fun agree => apart agree.length_eq
      | _ => exact id
  | frmt6 lst0 =>
      cases m1 with
      | frmt6 lst1 => exact fun agree => apart.differ agree.length_eq
      | _ => exact id

/-- Two messages are compared exactly just when they agree and are admitted, or when they are
    said to differ. -/
theorem rc_equality_exact_iff (t0 t1 : EventTrigger) (d0 d1 : ActionDef) (m0 m1 : IndMsg) :
    (Tells (eqEventTrigger t0 t1) (t0.Agree t1) ↔
      t0.Agree t1 ∧ t0.Admitted ∨ t0.Apart t1) ∧
    (Tells (eqActionDef d0 d1) (d0.Agree d1) ↔
      d0.Agree d1 ∧ d0.format.Admitted ∨ d0.Apart d1) ∧
    (Tells (eqIndMsg m0 m1) (m0.Agree m1) ↔ m0.Agree m1 ∧ m0.Admitted ∨ m0.Apart m1) :=
  ⟨tells_iff_of_agree eqEventTrigger_agree_iff (eqEventTrigger_false_iff t0 t1)
      EventTrigger.Apart.sound,
    tells_iff_of_agree eqActionDef_agree_iff (eqActionDef_false_iff d0 d1) ActionDef.Apart.sound,
    tells_iff_of_agree eqIndMsg_agree_iff (eqIndMsg_false_iff m0 m1) IndMsg.Apart.sound⟩

/-- A change of the information of a node. -/
def change (condId chngId : UInt16) : EventTrigger := .frmt3 [⟨condId, chngId, none, none⟩]

/-- A report of cells, without UEs. -/
def cells (ids : List (BitVec 36)) : IndMsg :=
  .frmt4 ⟨[], ids.map fun id => ⟨.nrCgi ⟨1, 1, 2⟩ id, none, none⟩⟩

/-- Changes with other ids are taken for the same, and so are the cells that only the second
    message has. Triggers of two formats are not compared. -/
theorem rc_change_ids_ignored :
    eqEventTrigger (change 1 1) (change 2 3) = .ok true ∧
    ¬(change 1 1).Agree (change 2 3) ∧
    eqIndMsg (cells [7]) (cells [7, 8]) = .ok true ∧
    ¬(cells [7]).Agree (cells [7, 8]) ∧
    eqEventTrigger (change 1 1) (.frmt5 ⟨none, none⟩) = .error .otherMember := by
  refine ⟨rfl, ?_, rfl, ?_, rfl⟩
  · intro same
    cases same
  · intro agree
    exact absurd (congrArg List.length agree.seqCellInfo2) (by decide)

end FlexRic.Rc
