import FlexRic.Stats.Messages

/-! # Statistics, there and back

Every message is written into as many bytes as announced, and read again as it was, unless
the announced size does not fit the type it is kept in.
-/

namespace FlexRic.Stats

open Wire

variable {fields : List Field}

/-- The bytes of a message. -/
def indMsgBytes (indMsg : IndMsg fields) : Bytes :=
  u32 indMsg.stats.len ++ writeMany List.Vector.toList indMsg.stats.items ++ i64 indMsg.tstamp

theorem length_indMsgBytes (indMsg : IndMsg fields) :
    (indMsgBytes indMsg).length = indMsg.size := by
  have records := length_writeMany (fun record : Record fields => record.toList_length)
    indMsg.stats.items
  simp only [indMsgBytes, IndMsg.size, List.length_append, length_u32, length_i64, records]

theorem fillIndMsg_eq_ok {indMsg : IndMsg fields} {sz : Nat} {bytes : Bytes} :
    fillIndMsg indMsg sz = .ok bytes ↔ indMsg.size = sz ∧ indMsgBytes indMsg = bytes := by
  rw [fillIndMsg, writeAll_eq_ok, ← length_indMsgBytes]
  rfl

/-- A buffer of the size of the message is filled. -/
theorem fillIndMsg_size {indMsg : IndMsg fields} {bytes : Bytes} :
    fillIndMsg indMsg indMsg.size = .ok bytes ↔ True ∧ indMsgBytes indMsg = bytes := by
  rw [fillIndMsg_eq_ok, eq_self]

theorem readIndMsg_run (indMsg : IndMsg fields) (rest : Bytes) :
    readIndMsg.run (indMsgBytes indMsg ++ rest) = .ok (indMsg, rest) := by
  have records := readMany_run (n := indMsg.stats.len.toNat)
    (fun (record : Record fields) rest => readU8_many record rest) indMsg.stats.items
  simp [readIndMsg, readCounted, indMsgBytes, records]

theorem readAll_indMsgBytes (indMsg : IndMsg fields) :
    readAll readIndMsg (indMsgBytes indMsg) = .ok indMsg := by
  have reads := readIndMsg_run indMsg []
  rw [List.append_nil] at reads
  exact readAll_ok reads

/-- A number between two bounds. -/
def Between (least : Nat) (x : UInt64) : Prop := least ≤ x.toNat ∧ x.toNat < 2 ^ 63

/-- A bit that is set below another leaves a number between the bounds. -/
theorem Between.or_shift {least : Nat} {x : UInt64} (between : Between least x) (k : UInt64) :
    Between least (x ||| (x >>> k)) := by
  rw [Between, UInt64.toNat_or, UInt64.toNat_shiftRight]
  constructor
  · exact between.1.trans Nat.left_le_or
  · apply Nat.or_lt_two_pow between.2
    exact (Nat.shiftRight_le _ _).trans_lt between.2

/-- The next power of two is not below a number, where there is one. -/
theorem le_nextPow2 {x : UInt64} (positive : 0 < x.toNat) (small : x.toNat ≤ 2 ^ 63) :
    x.toNat ≤ (nextPow2 x).toNat := by
  have before : (x - 1).toNat = x.toNat - 1 := by
    apply UInt64.toNat_sub_of_le
    rw [UInt64.le_iff_toNat_le]
    exact positive
  have start : Between (x.toNat - 1) (x - 1) := by
    rw [Between, before]
    omega
  obtain ⟨least, most⟩ := (((((start.or_shift 1).or_shift 2).or_shift 4).or_shift 8).or_shift
    16).or_shift 32
  rw [nextPow2, UInt64.toNat_add, UInt64.toNat_one, Nat.mod_eq_of_lt]
  · exact Nat.le_add_of_sub_le least
  · exact Nat.lt_of_le_of_lt (Nat.succ_le_of_lt most) (by decide)

theorem enoughBytes_ok {len : Nat} (least : 12 ≤ len) (small : len ≤ 2 ^ 63) :
    enoughBytes len = .ok () := by
  have same : (UInt64.ofNat len).toNat = len := by
    apply UInt64.toNat_ofNat_of_lt'
    exact small.trans_lt (by decide)
  have needed : byteSize indMsgFields - 8 = 16 := by decide +kernel
  rw [enoughBytes, needed]
  apply check_pass
  by_cases few : len < 16
  · -- the power behind a length of less than sixteen is sixteen itself
    obtain rfl | rfl | rfl | rfl : len = 12 ∨ len = 13 ∨ len = 14 ∨ len = 15 := by omega
    all_goals decide
  · have next := le_nextPow2 (x := .ofNat len) (by omega) (by omega)
    omega

/-- A message is written into as many bytes as announced, and these are read as the message. -/
def ComesBack (enc : IndMsg fields → Except Fault Bytes)
    (dec : Bytes → Except Fault (IndMsg fields))
    (indMsg : IndMsg fields) : Prop :=
  ∃ bytes, enc indMsg = .ok bytes ∧ bytes.length = indMsg.size ∧ dec bytes = .ok indMsg

theorem comesBack_of_size {dec : Bytes → Except Fault (IndMsg fields)} {indMsg : IndMsg fields}
    (reads : dec (indMsgBytes indMsg) = .ok indMsg) :
    ComesBack (fun indMsg => fillIndMsg indMsg indMsg.size) dec indMsg :=
  ⟨indMsgBytes indMsg, fillIndMsg_eq_ok.mpr ⟨rfl, rfl⟩, length_indMsgBytes indMsg, reads⟩

theorem least_size (indMsg : IndMsg fields) : 12 ≤ indMsg.size := by
  rw [IndMsg.size]
  omega

theorem size_le (narrow : byteSize fields ≤ 2 ^ 30) (indMsg : IndMsg fields) :
    indMsg.size ≤ 2 ^ 63 := by
  have records := Nat.mul_le_mul narrow indMsg.stats.len.toNat_lt.le
  rw [IndMsg.size]
  omega

theorem enoughBytes_indMsgBytes (narrow : byteSize fields ≤ 2 ^ 30) (indMsg : IndMsg fields) :
    enoughBytes (indMsgBytes indMsg).length = .ok () := by
  rw [length_indMsgBytes]
  exact enoughBytes_ok (least_size indMsg) (size_le narrow indMsg)

theorem macDecIndMsgPlain_ok (mac : MacIndMsg) : macDecIndMsgPlain (indMsgBytes mac) = .ok mac :=
  readAll_indMsgBytes mac

theorem rlcDecIndMsgPlain_ok (rlc : RlcIndMsg) : rlcDecIndMsgPlain (indMsgBytes rlc) = .ok rlc := by
  rw [rlcDecIndMsgPlain, enoughBytes_indMsgBytes (by decide +kernel), ok_bind]
  exact readAll_indMsgBytes rlc

theorem pdcpDecIndMsgPlain_ok (pdcp : PdcpIndMsg) :
    pdcpDecIndMsgPlain (indMsgBytes pdcp) = .ok pdcp := by
  have enough : 4 + 8 ≤ (indMsgBytes pdcp).length := by
    rw [length_indMsgBytes]
    exact least_size pdcp
  rw [pdcpDecIndMsgPlain, check_pass _ enough, ok_bind]
  exact readAll_indMsgBytes pdcp

theorem gtpDecIndMsgPlain_ok (gtp : GtpIndMsg) : gtpDecIndMsgPlain (indMsgBytes gtp) = .ok gtp := by
  rw [gtpDecIndMsgPlain, enoughBytes_indMsgBytes (by decide +kernel), ok_bind]
  exact readAll_indMsgBytes gtp

/-- The announced size of MAC statistics is the right one below 4 GiB. -/
theorem macEncIndMsgPlain_eq_ok {mac : MacIndMsg} {bytes : Bytes} :
    macEncIndMsgPlain mac = .ok bytes ↔ mac.size < 2 ^ 32 ∧ indMsgBytes mac = bytes := by
  rw [macEncIndMsgPlain, fillIndMsg_eq_ok, UInt32.toNat_ofNat']
  refine and_congr_left fun _ => ?_
  constructor
  · intro same
    rw [same]
    exact Nat.mod_lt _ (by decide)
  · intro small
    exact (Nat.mod_eq_of_lt small).symm

/-- Messages of the four models come back, those of MAC where their size is below 4 GiB. -/
theorem stats_come_back_iff (mac : MacIndMsg) (rlc : RlcIndMsg) (pdcp : PdcpIndMsg)
    (gtp : GtpIndMsg) :
    (ComesBack macEncIndMsgPlain macDecIndMsgPlain mac ↔ mac.size < 2 ^ 32) ∧
    ComesBack rlcEncIndMsgPlain rlcDecIndMsgPlain rlc ∧
    ComesBack pdcpEncIndMsgPlain pdcpDecIndMsgPlain pdcp ∧
    ComesBack gtpEncIndMsgPlain gtpDecIndMsgPlain gtp := by
  refine ⟨?_, comesBack_of_size (rlcDecIndMsgPlain_ok rlc),
    comesBack_of_size (pdcpDecIndMsgPlain_ok pdcp), comesBack_of_size (gtpDecIndMsgPlain_ok gtp)⟩
  constructor
  · rintro ⟨bytes, written, -, -⟩
    exact (macEncIndMsgPlain_eq_ok.mp written).1
  · intro small
    exact ⟨indMsgBytes mac, macEncIndMsgPlain_eq_ok.mpr ⟨small, rfl⟩, length_indMsgBytes mac,
      macDecIndMsgPlain_ok mac⟩

/-- As many UEs of one and the same kind as 4 GiB hold. -/
def manyUes : MacIndMsg where
  stats := ⟨24403224, .replicate _ (.replicate _ 0)⟩
  tstamp := 0

/-- The size of their message does not fit. -/
theorem mac_size_wraps : ¬ComesBack macEncIndMsgPlain macDecIndMsgPlain manyUes := by
  have large : ¬manyUes.size < 2 ^ 32 := by decide +kernel
  rintro ⟨bytes, written, -, -⟩
  exact large (macEncIndMsgPlain_eq_ok.mp written).1

end FlexRic.Stats
