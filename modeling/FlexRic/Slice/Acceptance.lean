import FlexRic.Library.Canonical
import FlexRic.Slice.Codec

/-! # What the readers of the slice service model accept

Every bytes that a reader takes for a part are those that are written for it, so a payload is
accepted just when it was written for a message with strings that fit.
-/

namespace FlexRic.Slice

open Wire

instance : ExactTag SliceAlgorithm where
  code_of_ofCode v a known := by
    simp only [Tag.ofCode] at known
    split_ifs at known <;> cases known <;> subst_vars <;> rfl

instance : ExactTag NvsSliceConf where
  code_of_ofCode v a known := by
    simp only [Tag.ofCode] at known
    split_ifs at known <;> cases known <;> subst_vars <;> rfl

instance : ExactTag Scn19SliceConf where
  code_of_ofCode v a known := by
    simp only [Tag.ofCode] at known
    split_ifs at known <;> cases known <;> subst_vars <;> rfl

instance : ExactTag SliceCtrlMsgType where
  code_of_ofCode v a known := by
    simp only [Tag.ofCode] at known
    split_ifs at known <;> cases known <;> subst_vars <;> rfl

theorem readString_canonical : Canonical readString countedBytes := by
  intro bytes s rest taken
  simp only [readString, run_bind_eq_ok, readU32_eq_ok] at taken
  obtain ⟨len, _, rfl, taken⟩ := taken
  split at taken
  case isTrue => cases taken
  case isFalse =>
    simp only [run_bind_eq_ok, run_pure_eq_ok] at taken
    obtain ⟨items, _, each, rfl, rfl⟩ := taken
    rw [readMany_u8_canonical _ _ _ _ each, countedBytes, List.append_assoc]

theorem readCounted_u32s_canonical : Canonical (readCounted readU32) countedU32s := by
  have word : Canonical readU32 u32 := fun _ _ _ taken => readU32_eq_ok.mp taken
  exact word.counted

theorem fillStatic_canonical : Canonical Dec.fillStatic staticBytes := by
  intro bytes sta rest taken
  simp only [Dec.fillStatic, run_bind_eq_ok, readU32_eq_ok, run_pure_eq_ok] at taken
  obtain ⟨posHigh, _, rfl, posLow, _, rfl, rfl, rfl⟩ := taken
  rw [staticBytes, List.append_assoc]

theorem fillRate_canonical : Canonical Dec.fillRate Enc.fillRate := by
  intro bytes rate rest taken
  simp only [Dec.fillRate, run_bind_eq_ok, readU32_eq_ok, run_pure_eq_ok] at taken
  obtain ⟨reference, _, rfl, required, _, rfl, rfl, rfl⟩ := taken
  rw [Enc.fillRate, List.append_assoc]

theorem fillCapacity_canonical : Canonical Dec.fillCapacity Enc.fillCapacity := by
  intro bytes capacity rest taken
  simp only [Dec.fillCapacity, run_bind_eq_ok, readU32_eq_ok, run_pure_eq_ok] at taken
  obtain ⟨reserved, _, rfl, rfl, rfl⟩ := taken
  rfl

theorem fillNvs_canonical : Canonical Dec.fillNvs Enc.fillNvs := by
  intro bytes nvs rest taken
  simp only [Dec.fillNvs, run_bind_eq_ok, readTag_eq_ok] at taken
  obtain ⟨conf, _, rfl, taken⟩ := taken
  cases conf with
  | rate =>
      obtain ⟨rate, rfl, rfl⟩ := fillRate_canonical.under taken
      rw [Enc.fillNvs, List.append_assoc]
      rfl
  | capacity =>
      obtain ⟨capacity, rfl, rfl⟩ := fillCapacity_canonical.under taken
      rw [Enc.fillNvs, List.append_assoc]
      rfl

theorem fillOnDemand_canonical : Canonical Dec.fillOnDemand Enc.fillOnDemand := by
  intro bytes scn rest taken
  simp only [Dec.fillOnDemand, run_bind_eq_ok, readU32_eq_ok, run_pure_eq_ok] at taken
  obtain ⟨delta, _, rfl, reserved, _, rfl, tau, _, rfl, rfl, rfl⟩ := taken
  simp only [Enc.fillOnDemand, List.append_assoc]

theorem fillScn19_canonical : Canonical Dec.fillScn19 scn19Bytes := by
  intro bytes scn rest taken
  simp only [Dec.fillScn19, run_bind_eq_ok, readTag_eq_ok] at taken
  obtain ⟨conf, _, rfl, taken⟩ := taken
  cases conf with
  | dynamic =>
      obtain ⟨rate, rfl, rfl⟩ := fillRate_canonical.under taken
      rw [scn19Bytes, List.append_assoc]
      rfl
  | fixed =>
      obtain ⟨sta, rfl, rfl⟩ := fillStatic_canonical.under taken
      rw [scn19Bytes, List.append_assoc]
      rfl
  | onDemand =>
      obtain ⟨scn, rfl, rfl⟩ := fillOnDemand_canonical.under taken
      rw [scn19Bytes, List.append_assoc]
      rfl

theorem fillEdf_canonical : Canonical Dec.fillEdf Enc.fillEdf := by
  intro bytes edf rest taken
  simp only [Dec.fillEdf, run_bind_eq_ok, readU32_eq_ok, run_pure_eq_ok] at taken
  obtain ⟨deadline, _, rfl, prbs, _, rfl, replenish, _, rfl, ids, _, part, rfl, rfl⟩ := taken
  rw [readCounted_u32s_canonical _ _ _ part]
  simp only [Enc.fillEdf, List.append_assoc]

theorem fillParams_canonical : Canonical Dec.fillParams paramsBytes := by
  intro bytes par rest taken
  simp only [Dec.fillParams, run_bind_eq_ok, readTag_eq_ok] at taken
  obtain ⟨algorithm, _, rfl, taken⟩ := taken
  cases algorithm with
  | static =>
      obtain ⟨sta, rfl, rfl⟩ := fillStatic_canonical.under taken
      rw [paramsBytes, List.append_assoc]
      rfl
  | nvs =>
      obtain ⟨nvs, rfl, rfl⟩ := fillNvs_canonical.under taken
      rw [paramsBytes, List.append_assoc]
      rfl
  | scn19 =>
      obtain ⟨scn, rfl, rfl⟩ := fillScn19_canonical.under taken
      rw [paramsBytes, List.append_assoc]
      rfl
  | edf =>
      obtain ⟨edf, rfl, rfl⟩ := fillEdf_canonical.under taken
      rw [paramsBytes, List.append_assoc]
      rfl

theorem fillSlice_canonical : Canonical Dec.fillSlice sliceBytes := by
  intro bytes slc rest taken
  simp only [Dec.fillSlice, run_bind_eq_ok, readU32_eq_ok, run_pure_eq_ok] at taken
  obtain ⟨id, _, rfl, label, _, labelPart, sched, _, schedPart, par, _, parPart, rfl, rfl⟩ := taken
  rw [readString_canonical _ _ _ labelPart, readString_canonical _ _ _ schedPart,
    fillParams_canonical _ _ _ parPart]
  simp only [sliceBytes, List.append_assoc]

theorem fillUlDlSliceConf_canonical : Canonical Dec.fillUlDlSliceConf ulDlBytes := by
  intro bytes conf rest taken
  simp only [Dec.fillUlDlSliceConf, run_bind_eq_ok, run_pure_eq_ok] at taken
  obtain ⟨name, _, namePart, slices, _, slicesPart, rfl, rfl⟩ := taken
  rw [readString_canonical _ _ _ namePart, fillSlice_canonical.counted _ _ _ slicesPart]
  simp only [ulDlBytes, List.append_assoc]

theorem fillSliceConf_canonical : Canonical Dec.fillSliceConf sliceConfBytes := by
  intro bytes conf rest taken
  simp only [Dec.fillSliceConf, run_bind_eq_ok, run_pure_eq_ok] at taken
  obtain ⟨dl, _, dlPart, ul, _, ulPart, rfl, rfl⟩ := taken
  rw [fillUlDlSliceConf_canonical _ _ _ dlPart, fillUlDlSliceConf_canonical _ _ _ ulPart,
    sliceConfBytes, List.append_assoc]

theorem fillUeSliceAssoc_canonical : Canonical Dec.fillUeSliceAssoc ueSliceAssocBytes := by
  intro bytes assoc rest taken
  simp only [Dec.fillUeSliceAssoc, run_bind_eq_ok, readU32_eq_ok, readU16_eq_ok,
    run_pure_eq_ok] at taken
  obtain ⟨dlId, _, rfl, ulId, _, rfl, rnti, _, rfl, rfl, rfl⟩ := taken
  simp only [ueSliceAssocBytes, List.append_assoc]

theorem fillUeSliceConf_canonical : Canonical Dec.fillUeSliceConf ueSliceConfBytes :=
  fillUeSliceAssoc_canonical.counted

theorem fillDelSlice_canonical : Canonical Dec.fillDelSlice Enc.fillDelSliceConf := by
  intro bytes conf rest taken
  simp only [Dec.fillDelSlice, run_bind_eq_ok, run_pure_eq_ok] at taken
  obtain ⟨dl, _, dlPart, ul, _, ulPart, rfl, rfl⟩ := taken
  rw [readCounted_u32s_canonical _ _ _ dlPart, readCounted_u32s_canonical _ _ _ ulPart,
    Enc.fillDelSliceConf, List.append_assoc]

theorem indMsg_canonical : Canonical Dec.indMsg indMsgBytes := by
  intro bytes msg rest taken
  simp only [Dec.indMsg, run_bind_eq_ok, readI64_eq_ok, run_pure_eq_ok] at taken
  obtain ⟨conf, _, confPart, ues, _, uesPart, tstamp, _, rfl, rfl, rfl⟩ := taken
  rw [fillSliceConf_canonical _ _ _ confPart, fillUeSliceConf_canonical _ _ _ uesPart]
  simp only [indMsgBytes, List.append_assoc]

theorem ctrlMsg_canonical : Canonical Dec.ctrlMsg ctrlMsgBytes := by
  intro bytes msg rest taken
  simp only [Dec.ctrlMsg, run_bind_eq_ok, readTag_eq_ok] at taken
  obtain ⟨type, _, rfl, taken⟩ := taken
  cases type with
  | add =>
      obtain ⟨conf, rfl, rfl⟩ := fillSliceConf_canonical.under taken
      rw [ctrlMsgBytes, List.append_assoc]
      rfl
  | del =>
      obtain ⟨conf, rfl, rfl⟩ := fillDelSlice_canonical.under taken
      rw [ctrlMsgBytes, List.append_assoc]
      rfl
  | ueSliceAssoc =>
      obtain ⟨conf, rfl, rfl⟩ := fillUeSliceConf_canonical.under taken
      rw [ctrlMsgBytes, List.append_assoc]
      rfl

/-- An indication or a control message is accepted just when it is what the writer writes for a
    message whose strings fit. -/
theorem slice_payload_accepted_iff (bytes : Bytes) :
    (∀ msg, sliceDecIndMsgPlain bytes = .ok msg ↔
      sliceEncIndMsgPlain msg = .ok bytes ∧ msg.sliceConf.Fits) ∧
    ∀ msg, sliceDecCtrlMsgPlain bytes = .ok msg ↔
      sliceEncCtrlMsgPlain msg = .ok bytes ∧ msg.Fits := by
  constructor
  · intro msg
    rw [sliceEncIndMsgPlain_ok, Except.ok.injEq]
    constructor
    · intro accepted
      obtain rfl := indMsg_canonical.readAll_eq accepted
      exact ⟨rfl, (indMsg_reads_iff msg).mp accepted⟩
    · rintro ⟨rfl, fits⟩
      exact (indMsg_reads_iff msg).mpr fits
  · intro msg
    rw [sliceEncCtrlMsgPlain_ok, Except.ok.injEq]
    constructor
    · intro accepted
      obtain rfl := ctrlMsg_canonical.readAll_eq accepted
      exact ⟨rfl, (ctrlMsg_reads_iff msg).mp accepted⟩
    · rintro ⟨rfl, fits⟩
      exact (ctrlMsg_reads_iff msg).mpr fits

end FlexRic.Slice
