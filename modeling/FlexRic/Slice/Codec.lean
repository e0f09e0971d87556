import FlexRic.Slice.Messages

/-! # Messages of the slice service model, there and back

For every part the writer adds as many bytes as the size says, and the reader takes
them for the part again. Only the answer of a control outcome is lost.
-/

namespace FlexRic.Slice

open Wire

@[simp] theorem readCounted_bytes (s : Counted UInt8) (rest : Bytes) :
    (readCounted readU8).run (countedBytes s ++ rest) = .ok (s, rest) := by
  simp [readCounted, countedBytes, readU8_many]

@[simp] theorem readCounted_u32s (xs : Counted UInt32) (rest : Bytes) :
    (readCounted readU32).run (countedU32s xs ++ rest) = .ok (xs, rest) := by
  simp [readCounted, countedU32s, readMany_run readU32_run]

@[simp] theorem length_countedBytes (s : Counted UInt8) :
    (countedBytes s).length = 4 + s.len.toNat := by
  simp [countedBytes]

@[simp] theorem length_countedU32s (xs : Counted UInt32) :
    (countedU32s xs).length = 4 + 4 * xs.len.toNat := by
  simp [countedU32s, length_writeMany length_u32]

theorem readString_inverts :
    Inverts readString countedBytes (fun s => s.len + 1 ≠ 0) .outOfChunk := by
  intro s rest
  rw [readString, countedBytes, List.append_assoc, StateT.run_bind, readU32_run, ok_bind]
  by_cases room : s.len + 1 ≠ 0
  · left
    refine ⟨room, ?_⟩
    simp [room, readU8_many]
  · right
    have full : s.len + 1 = 0 := not_not.mp room
    have counted : s.len ≠ 0 := by
      intro none
      rw [none] at full
      exact absurd full (by decide)
    refine ⟨room, ?_⟩
    simp only [ne_eq, counted, not_false_eq_true, full, and_self, if_true]
    rfl

def staticBytes (sta : StaticSlice) : Bytes := u32 sta.posHigh ++ u32 sta.posLow

def scn19Bytes (scn : Scn19Slice) : Bytes :=
  tag scn.conf ++ match scn with
    | .dynamic rate => Enc.fillRate rate
    | .fixed sta => staticBytes sta
    | .onDemand scn => Enc.fillOnDemand scn

def paramsBytes (par : SliceParams) : Bytes :=
  tag par.type ++ match par with
    | .sta sta => staticBytes sta
    | .nvs nvs => Enc.fillNvs nvs
    | .scn19 scn => scn19Bytes scn
    | .edf edf => Enc.fillEdf edf

def sliceBytes (slc : FrSlice) : Bytes :=
  u32 slc.id ++ countedBytes slc.label ++ countedBytes slc.sched ++ paramsBytes slc.params

def ulDlBytes (conf : UlDlSliceConf) : Bytes :=
  countedBytes conf.schedName ++ u32 conf.slices.len ++ writeMany sliceBytes conf.slices.items

def sliceConfBytes (conf : SliceConf) : Bytes := ulDlBytes conf.dl ++ ulDlBytes conf.ul

def ueSliceAssocBytes (assoc : UeSliceAssoc) : Bytes :=
  u32 assoc.dlId ++ u32 assoc.ulId ++ u16 assoc.rnti

def ueSliceConfBytes (slc : UeSliceConf) : Bytes :=
  u32 slc.len ++ writeMany ueSliceAssocBytes slc.items

def indMsgBytes (msg : SliceIndMsg) : Bytes :=
  sliceConfBytes msg.sliceConf ++ ueSliceConfBytes msg.ueSliceConf ++ i64 msg.tstamp

def ctrlMsgBytes (msg : SliceCtrlMsg) : Bytes :=
  tag msg.type ++ match msg with
    | .addModSlice conf => sliceConfBytes conf
    | .delSlice conf => Enc.fillDelSliceConf conf
    | .ueSlice conf => ueSliceConfBytes conf

@[simp] theorem length_staticBytes (sta : StaticSlice) :
    (staticBytes sta).length = calStatic sta := by
  simp [staticBytes, calStatic]

@[simp] theorem length_fillRate (rate : NvsRate) : (Enc.fillRate rate).length = 8 := by
  simp [Enc.fillRate]

@[simp] theorem length_fillNvs (nvs : NvsSlice) : (Enc.fillNvs nvs).length = calNvs nvs := by
  cases nvs <;> simp [Enc.fillNvs, Enc.fillCapacity, calNvs]

@[simp] theorem length_scn19Bytes (scn : Scn19Slice) : (scn19Bytes scn).length = calScn19 scn := by
  cases scn <;> simp [scn19Bytes, Enc.fillOnDemand, calScn19, calStatic]

@[simp] theorem length_fillEdf (edf : EdfSlice) : (Enc.fillEdf edf).length = calEdf edf := by
  simp [Enc.fillEdf, calEdf]
  omega

@[simp] theorem length_paramsBytes (par : SliceParams) :
    (paramsBytes par).length = calParams par := by
  cases par <;> simp [paramsBytes, calParams]

@[simp] theorem length_sliceBytes (slc : FrSlice) : (sliceBytes slc).length = calSlice slc := by
  simp [sliceBytes, calSlice]
  omega

@[simp] theorem length_ulDlBytes (conf : UlDlSliceConf) :
    (ulDlBytes conf).length = calUlDl conf := by
  simp [ulDlBytes, calUlDl, writeMany, List.length_flatMap, Nat.add_assoc]

@[simp] theorem length_sliceConfBytes (conf : SliceConf) :
    (sliceConfBytes conf).length = calSliceConf conf := by
  simp [sliceConfBytes, calSliceConf, Nat.add_comm]

theorem length_ueSliceAssocBytes (assoc : UeSliceAssoc) :
    (ueSliceAssocBytes assoc).length = calUeSliceAssoc assoc := by
  simp [ueSliceAssocBytes, calUeSliceAssoc]

@[simp] theorem length_ueSliceConfBytes (slc : UeSliceConf) :
    (ueSliceConfBytes slc).length = calUeSliceConf slc := by
  simp [ueSliceConfBytes, calUeSliceConf, writeMany, List.length_flatMap, length_ueSliceAssocBytes]

theorem length_indMsgBytes (msg : SliceIndMsg) :
    (indMsgBytes msg).length = calIndMsgPayload msg := by
  simp [indMsgBytes, calIndMsgPayload, Nat.add_assoc]

theorem length_ctrlMsgBytes (msg : SliceCtrlMsg) :
    (ctrlMsgBytes msg).length = calCtrlMsgPayload msg := by
  cases msg <;> simp [ctrlMsgBytes, calCtrlMsgPayload, Enc.fillDelSliceConf, calDelSlice]
  omega

theorem fillStatic_writes (sta : StaticSlice) : (Enc.fillStatic sta).Writes (staticBytes sta) := by
  apply (Writer.put_writes _).inside
  exact List.ne_nil_of_length_pos (by simp)

theorem fillScn19_writes (scn : Scn19Slice) : (Enc.fillScn19 scn).Writes (scn19Bytes scn) := by
  apply (Writer.put_writes _).seq
  cases scn with
  | dynamic rate => exact Writer.put_writes _
  | fixed sta => exact fillStatic_writes sta
  | onDemand scn => exact Writer.put_writes _

theorem fillParams_writes (par : SliceParams) : (Enc.fillParams par).Writes (paramsBytes par) := by
  apply (Writer.put_writes _).seq
  cases par with
  | sta sta => exact fillStatic_writes sta
  | nvs nvs => exact Writer.put_writes _
  | scn19 scn => exact fillScn19_writes scn
  | edf edf => exact Writer.put_writes _

theorem fillSlice_writes (slc : FrSlice) : (Enc.fillSlice slc).Writes (sliceBytes slc) := by
  apply ((Writer.put_writes _).seq (fillParams_writes slc.params)).inside
  apply List.ne_nil_of_length_pos
  rw [List.length_append, List.length_append, List.length_append, length_u32]
  omega

theorem fillUlDlSliceConf_writes (conf : UlDlSliceConf) :
    (Enc.fillUlDlSliceConf conf).Writes (ulDlBytes conf) :=
  (Writer.put_writes _).seq (Writer.Writes.each fillSlice_writes _)

theorem fillSliceConf_writes (conf : SliceConf) :
    (Enc.fillSliceConf conf).Writes (sliceConfBytes conf) :=
  (fillUlDlSliceConf_writes conf.dl).seq (fillUlDlSliceConf_writes conf.ul)

theorem fillUeSliceAssoc_writes (assoc : UeSliceAssoc) :
    (Enc.fillUeSliceAssoc assoc).Writes (ueSliceAssocBytes assoc) := by
  apply (Writer.put_writes _).inside
  exact List.ne_nil_of_length_pos (by simp)

theorem fillUeSliceConf_writes (slc : UeSliceConf) :
    (Enc.fillUeSliceConf slc).Writes (ueSliceConfBytes slc) :=
  (Writer.put_writes _).seq (Writer.Writes.each fillUeSliceAssoc_writes _)

theorem fillSliceCtrlMsg_writes (msg : SliceCtrlMsg) :
    (Enc.fillSliceCtrlMsg msg).Writes (ctrlMsgBytes msg) := by
  apply (Writer.put_writes _).seq
  cases msg with
  | addModSlice conf => exact fillSliceConf_writes conf
  | delSlice conf => exact Writer.put_writes _
  | ueSlice conf => exact fillUeSliceConf_writes conf

/-- No assertion of the encoders fails. -/
theorem sliceEncIndMsgPlain_ok (msg : SliceIndMsg) :
    sliceEncIndMsgPlain msg = .ok (indMsgBytes msg) := by
  have whole := length_indMsgBytes msg
  simp only [indMsgBytes, List.length_append] at whole
  have conf := fillSliceConf_writes msg.sliceConf (calIndMsgPayload msg) []
    (by rw [List.length_nil]; omega)
  have ues := fillUeSliceConf_writes msg.ueSliceConf (calIndMsgPayload msg)
    (sliceConfBytes msg.sliceConf) (by omega)
  rw [sliceEncIndMsgPlain, conf, ok_bind, List.nil_append, ues, ok_bind]
  exact writeAll_eq_ok.mpr ⟨length_indMsgBytes msg, rfl⟩

theorem sliceEncCtrlMsgPlain_ok (msg : SliceCtrlMsg) :
    sliceEncCtrlMsgPlain msg = .ok (ctrlMsgBytes msg) := by
  have written := fillSliceCtrlMsg_writes msg (calCtrlMsgPayload msg) []
    (by rw [List.length_nil, Nat.zero_add, length_ctrlMsgBytes])
  rw [sliceEncCtrlMsgPlain, written, ok_bind, List.nil_append]
  exact writeAll_eq_ok.mpr ⟨length_ctrlMsgBytes msg, rfl⟩

theorem sliceEncCtrlOutPlain_ok (out : SliceCtrlOut) :
    sliceEncCtrlOutPlain out = .ok (countedBytes out.diagnostic) :=
  writeAll_eq_ok.mpr ⟨length_countedBytes _, rfl⟩

@[simp] theorem fillStatic_run (sta : StaticSlice) (rest : Bytes) :
    Dec.fillStatic.run (staticBytes sta ++ rest) = .ok (sta, rest) := by
  simp [Dec.fillStatic, staticBytes]

@[simp] theorem fillRate_run (rate : NvsRate) (rest : Bytes) :
    Dec.fillRate.run (Enc.fillRate rate ++ rest) = .ok (rate, rest) := by
  simp [Dec.fillRate, Enc.fillRate]

@[simp] theorem fillNvs_run (nvs : NvsSlice) (rest : Bytes) :
    Dec.fillNvs.run (Enc.fillNvs nvs ++ rest) = .ok (nvs, rest) := by
  cases nvs <;>
    simp [Dec.fillNvs, Enc.fillNvs, NvsSlice.conf, Dec.fillCapacity, Enc.fillCapacity]

@[simp] theorem fillScn19_run (scn : Scn19Slice) (rest : Bytes) :
    Dec.fillScn19.run (scn19Bytes scn ++ rest) = .ok (scn, rest) := by
  cases scn <;>
    simp [Dec.fillScn19, scn19Bytes, Scn19Slice.conf, Dec.fillOnDemand, Enc.fillOnDemand]

@[simp] theorem fillEdf_run (edf : EdfSlice) (rest : Bytes) :
    Dec.fillEdf.run (Enc.fillEdf edf ++ rest) = .ok (edf, rest) := by
  simp [Dec.fillEdf, Enc.fillEdf]

@[simp] theorem fillParams_run (par : SliceParams) (rest : Bytes) :
    Dec.fillParams.run (paramsBytes par ++ rest) = .ok (par, rest) := by
  cases par <;> simp [Dec.fillParams, paramsBytes, SliceParams.type]

/-- The string and one more byte have a size of 32 bits. -/
def StringFits (s : Counted UInt8) : Prop := s.len + 1 ≠ 0

def FrSlice.Fits (slc : FrSlice) : Prop := StringFits slc.label ∧ StringFits slc.sched

def UlDlSliceConf.Fits (conf : UlDlSliceConf) : Prop :=
  StringFits conf.schedName ∧ ∀ slc ∈ conf.slices.items.toList, slc.Fits

def SliceConf.Fits (conf : SliceConf) : Prop := conf.dl.Fits ∧ conf.ul.Fits

theorem fillSlice_inverts : Inverts Dec.fillSlice sliceBytes FrSlice.Fits .outOfChunk := by
  intro slc rest
  simp only [Dec.fillSlice, sliceBytes, List.append_assoc, StateT.run_bind, readU32_run, ok_bind]
  rcases readString_inverts slc.label
      (countedBytes slc.sched ++ (paramsBytes slc.params ++ rest)) with
      ⟨label, reads⟩ | ⟨label, stops⟩
  · rw [reads, ok_bind]
    rcases readString_inverts slc.sched (paramsBytes slc.params ++ rest) with
        ⟨sched, reads⟩ | ⟨sched, stops⟩
    · left
      refine ⟨⟨label, sched⟩, ?_⟩
      rw [reads, ok_bind, fillParams_run]
      rfl
    · right
      rw [stops]
      exact ⟨fun fits => sched fits.2, rfl⟩
  · right
    rw [stops]
    exact ⟨fun fits => label fits.1, rfl⟩

theorem fillUlDlSliceConf_inverts :
    Inverts Dec.fillUlDlSliceConf ulDlBytes UlDlSliceConf.Fits .outOfChunk := by
  intro conf rest
  simp only [Dec.fillUlDlSliceConf, ulDlBytes, List.append_assoc, StateT.run_bind]
  rcases readString_inverts conf.schedName
      (u32 conf.slices.len ++ (writeMany sliceBytes conf.slices.items ++ rest)) with
      ⟨name, reads⟩ | ⟨name, stops⟩
  · rw [reads, ok_bind]
    simp only [readCounted, StateT.run_bind, readU32_run, ok_bind]
    rcases fillSlice_inverts.many conf.slices.items rest with ⟨slices, reads⟩ | ⟨slices, stops⟩
    · left
      rw [reads]
      exact ⟨⟨name, slices⟩, rfl⟩
    · right
      rw [stops]
      exact ⟨fun fits => slices fits.2, rfl⟩
  · right
    rw [stops]
    exact ⟨fun fits => name fits.1, rfl⟩

theorem fillSliceConf_inverts :
    Inverts Dec.fillSliceConf sliceConfBytes SliceConf.Fits .outOfChunk := by
  intro conf rest
  simp only [Dec.fillSliceConf, sliceConfBytes, List.append_assoc, StateT.run_bind]
  rcases fillUlDlSliceConf_inverts conf.dl (ulDlBytes conf.ul ++ rest) with
      ⟨dl, reads⟩ | ⟨dl, stops⟩
  · rw [reads, ok_bind]
    rcases fillUlDlSliceConf_inverts conf.ul rest with ⟨ul, reads⟩ | ⟨ul, stops⟩
    · left
      rw [reads]
      exact ⟨⟨dl, ul⟩, rfl⟩
    · right
      rw [stops]
      exact ⟨fun fits => ul fits.2, rfl⟩
  · right
    rw [stops]
    exact ⟨fun fits => dl fits.1, rfl⟩

@[simp] theorem fillUeSliceAssoc_run (assoc : UeSliceAssoc) (rest : Bytes) :
    Dec.fillUeSliceAssoc.run (ueSliceAssocBytes assoc ++ rest) = .ok (assoc, rest) := by
  simp [Dec.fillUeSliceAssoc, ueSliceAssocBytes]

@[simp] theorem fillUeSliceConf_run (slc : UeSliceConf) (rest : Bytes) :
    Dec.fillUeSliceConf.run (ueSliceConfBytes slc ++ rest) = .ok (slc, rest) := by
  simp [Dec.fillUeSliceConf, readCounted, ueSliceConfBytes, readMany_run fillUeSliceAssoc_run]

@[simp] theorem fillDelSlice_run (conf : DelSliceConf) (rest : Bytes) :
    Dec.fillDelSlice.run (Enc.fillDelSliceConf conf ++ rest) = .ok (conf, rest) := by
  simp [Dec.fillDelSlice, Enc.fillDelSliceConf]

theorem indMsg_reads_iff (msg : SliceIndMsg) :
    sliceDecIndMsgPlain (indMsgBytes msg) = .ok msg ↔ msg.sliceConf.Fits := by
  rw [sliceDecIndMsgPlain, readAll]
  simp only [Dec.indMsg, indMsgBytes, List.append_assoc, StateT.run_bind]
  rcases fillSliceConf_inverts msg.sliceConf (ueSliceConfBytes msg.ueSliceConf ++ i64 msg.tstamp)
      with ⟨fits, reads⟩ | ⟨misfit, stops⟩
  · have stamp : readI64.run (i64 msg.tstamp) = .ok (msg.tstamp, []) := by
      simpa using readI64_run msg.tstamp []
    refine iff_of_true ?_ fits
    rw [reads, ok_bind, fillUeSliceConf_run, ok_bind, stamp]
    rfl
  · rw [stops]
    exact iff_of_false (by intro here; cases here) misfit

/-- The slices that a control message brings along fit. -/
def SliceCtrlMsg.Fits : SliceCtrlMsg → Prop
  | .addModSlice conf => conf.Fits
  | .delSlice _ | .ueSlice _ => True

theorem ctrlMsg_reads_iff (msg : SliceCtrlMsg) :
    sliceDecCtrlMsgPlain (ctrlMsgBytes msg) = .ok msg ↔ msg.Fits := by
  rw [sliceDecCtrlMsgPlain]
  cases msg with
  | addModSlice conf =>
      rw [readAll]
      simp only [Dec.ctrlMsg, ctrlMsgBytes, StateT.run_bind, readTag_run, ok_bind,
        SliceCtrlMsg.type]
      rcases fillSliceConf_inverts conf [] with ⟨fits, reads⟩ | ⟨misfit, stops⟩
      · rw [List.append_nil] at reads
        refine iff_of_true ?_ fits
        rw [reads]
        rfl
      · rw [List.append_nil] at stops
        rw [stops]
        exact iff_of_false (by intro here; cases here) misfit
  | delSlice conf =>
      have reads := fillDelSlice_run conf []
      rw [List.append_nil] at reads
      refine iff_of_true (readAll_ok ?_) trivial
      simp [Dec.ctrlMsg, ctrlMsgBytes, SliceCtrlMsg.type, reads]
  | ueSlice conf =>
      have reads := fillUeSliceConf_run conf []
      rw [List.append_nil] at reads
      refine iff_of_true (readAll_ok ?_) trivial
      simp [Dec.ctrlMsg, ctrlMsgBytes, SliceCtrlMsg.type, reads]

theorem ctrlOut_reads (out : SliceCtrlOut) :
    sliceDecCtrlOutPlain (countedBytes out.diagnostic) = .ok ({ out with ans := .ok }, []) := by
  have reads := readCounted_bytes out.diagnostic []
  rw [List.append_nil] at reads
  simp [sliceDecCtrlOutPlain, Dec.ctrlOut, reads]

/-- What the service model sends. -/
inductive Message where
  | indMsg (msg : SliceIndMsg)
  | ctrlMsg (msg : SliceCtrlMsg)
  | ctrlOut (out : SliceCtrlOut)

namespace Message

/-- The size of the payload before it is written. -/
def size : Message → Nat
  | indMsg msg => calIndMsgPayload msg
  | ctrlMsg msg => calCtrlMsgPayload msg
  | ctrlOut out => 4 + out.diagnostic.len.toNat

def enc : Message → Except Fault Bytes
  | indMsg msg => sliceEncIndMsgPlain msg
  | ctrlMsg msg => sliceEncCtrlMsgPlain msg
  | ctrlOut out => sliceEncCtrlOutPlain out

/-- The decoder takes all the bytes, for the same message. -/
def Read (bytes : Bytes) : Message → Prop
  | indMsg msg => sliceDecIndMsgPlain bytes = .ok msg
  | ctrlMsg msg => sliceDecCtrlMsgPlain bytes = .ok msg
  | ctrlOut out => sliceDecCtrlOutPlain bytes = .ok (out, [])

/-- The strings of its slices have room, and the answer is the one that the decoder
    starts from. -/
def Kept : Message → Prop
  | indMsg msg => msg.sliceConf.Fits
  | ctrlMsg msg => msg.Fits
  | ctrlOut out => out.ans = .ok

end Message

/-- Every message is written in as many bytes as computed before. -/
theorem slice_messages_come_back_iff (msg : Message) :
    ∃ bytes, msg.enc = .ok bytes ∧ bytes.length = msg.size ∧ (msg.Read bytes ↔ msg.Kept) := by
  cases msg with
  | indMsg msg =>
      exact ⟨indMsgBytes msg, sliceEncIndMsgPlain_ok msg, length_indMsgBytes msg,
        indMsg_reads_iff msg⟩
  | ctrlMsg msg =>
      exact ⟨ctrlMsgBytes msg, sliceEncCtrlMsgPlain_ok msg, length_ctrlMsgBytes msg,
        ctrlMsg_reads_iff msg⟩
  | ctrlOut out =>
      refine ⟨countedBytes out.diagnostic, sliceEncCtrlOutPlain_ok out, length_countedBytes _, ?_⟩
      rw [Message.Read, ctrlOut_reads, Except.ok.injEq, Prod.mk.injEq]
      cases out with
      | mk ans diagnostic => simp [Message.Kept, eq_comm]

/-- An answer that says error comes back as one that says ok. -/
theorem slice_answer_lost :
    ∃ bytes, sliceEncCtrlOutPlain ⟨.error, ⟨0, .nil⟩⟩ = .ok bytes ∧
      sliceDecCtrlOutPlain bytes = .ok (⟨.ok, ⟨0, .nil⟩⟩, []) ∧
      ¬(Message.ctrlOut ⟨.error, ⟨0, .nil⟩⟩).Read bytes := by
  refine ⟨[0, 0, 0, 0], rfl, rfl, ?_⟩
  intro read
  cases read

end FlexRic.Slice
