import FlexRic.Library.Canonical
import FlexRic.Stats.Codec

/-! # What the readers of statistics accept

A payload is accepted just when it is what a writer writes. The number of records that a
payload announces is not compared with the bytes that there are, so a reader goes on behind
the end wherever the payload is too short and yet passes the check of its length, if there
is one.
-/

namespace FlexRic.Stats

open Wire

variable {fields : List Field}

theorem readIndMsg_exact :
    Exact (readIndMsg : Reader (IndMsg fields)) indMsgBytes fun _ => True := by
  have inverts : Inverts (readIndMsg : Reader (IndMsg fields)) indMsgBytes (fun _ => True) .short :=
    Inverts.always readIndMsg_run
  apply inverts.exact
  intro bytes indMsg rest taken
  simp only [readIndMsg, run_bind_eq_ok, run_pure_eq_ok, readI64_eq_ok] at taken
  obtain ⟨stats, _, records, tstamp, _, rfl, rfl, rfl⟩ := taken
  rw [(readMany_u8_canonical _).counted _ _ _ records]
  simp only [indMsgBytes, List.append_assoc]

/-- The number of records that the first four bytes announce. -/
def announced (bytes : Bytes) : Nat := (UInt32.ofNat (valueOf (bytes.take 4))).toNat

/-- The bytes that a payload with so many records has. -/
def needed (fields : List Field) (bytes : Bytes) : Nat :=
  4 + byteSize fields * announced bytes + 8

/-- What is read behind the number of records. -/
def readRecords (fields : List Field) (len : UInt32) : Reader (IndMsg fields) := do
  let items ← readMany (readMany readU8 (byteSize fields)) len.toNat
  let tstamp ← readI64
  pure { stats := { len, items }, tstamp }

theorem readRecords_takes (len : UInt32) :
    Wire.Takes (readRecords fields len) (byteSize fields * len.toNat + 8) :=
  ((readMany_u8_takes (byteSize fields)).many len.toNat).bind fun _ =>
    readI64_takes.bind fun _ => pure_takes _

theorem readIndMsg_eq : (readIndMsg : Reader (IndMsg fields)) = readU32 >>= readRecords fields := by
  simp only [readIndMsg, readCounted, bind_assoc, pure_bind]
  rfl

theorem readU32_begun {bytes : Bytes} (begun : 4 ≤ bytes.length) :
    readU32.run bytes = .ok (UInt32.ofNat (valueOf (bytes.take 4)), bytes.drop 4) := by
  rw [readU32, StateT.run_bind, StateT.run, readBytes, if_pos begun]
  rfl

theorem readIndMsg_enough {bytes : Bytes} (enough : needed fields bytes ≤ bytes.length) :
    ∃ indMsg : IndMsg fields,
      readIndMsg.run bytes = .ok (indMsg, bytes.drop (needed fields bytes)) := by
  rw [needed, Nat.add_assoc] at enough
  obtain ⟨indMsg, read⟩ := (readRecords_takes (UInt32.ofNat (valueOf (bytes.take 4)))).enough
    (bytes.drop 4) (by rw [List.length_drop]; exact Nat.le_sub_of_add_le' enough)
  refine ⟨indMsg, ?_⟩
  rw [readIndMsg_eq, StateT.run_bind, readU32_begun (Nat.le_trans (Nat.le_add_right 4 _) enough),
    ok_bind, read, List.drop_drop, needed, announced, Nat.add_assoc]

theorem readIndMsg_short {bytes : Bytes} (few : bytes.length < needed fields bytes) :
    (readIndMsg : Reader (IndMsg fields)).run bytes = .error .short := by
  rw [readIndMsg_eq, StateT.run_bind]
  by_cases begun : 4 ≤ bytes.length
  · rw [needed, Nat.add_assoc] at few
    rw [readU32_begun begun, ok_bind]
    apply (readRecords_takes _).short
    rw [List.length_drop]
    exact Nat.sub_lt_left_of_lt_add begun few
  · rw [readU32_takes.short bytes (Nat.not_le.mp begun), error_bind]

/-- How a reader of statistics deals with a payload. It accepts what its writer writes, where the
    writer gets so far, and all that has the shape of a message. It goes on behind the end where
    the announced records and the time stamp are not all there, and refuses the rest. -/
structure Classified (enc : IndMsg fields → Except Fault Bytes)
    (dec : Bytes → Except Fault (IndMsg fields)) (least : Nat) (written : Prop) (bytes : Bytes) :
    Prop where
  accepts : written → ∀ indMsg, dec bytes = .ok indMsg ↔ enc indMsg = .ok bytes
  unwritten : ¬written → ∀ indMsg, enc indMsg ≠ .ok bytes
  complete : (∃ indMsg, dec bytes = .ok indMsg) ↔
    least ≤ bytes.length ∧ needed fields bytes = bytes.length
  overreads : dec bytes = .error .short ↔
    least ≤ bytes.length ∧ bytes.length < needed fields bytes
  refuses : dec bytes = .error .mismatch ↔
    bytes.length < least ∨ needed fields bytes < bytes.length

theorem readAll_accepts (bytes : Bytes) (indMsg : IndMsg fields) :
    readAll readIndMsg bytes = .ok indMsg ↔ bytes = indMsgBytes indMsg := by
  rw [readIndMsg_exact.readAll_iff, true_and]

theorem readAll_overreads (bytes : Bytes) :
    readAll (readIndMsg : Reader (IndMsg fields)) bytes = .error .short ↔
      bytes.length < needed fields bytes := by
  constructor
  · intro over_end
    by_contra enough
    obtain ⟨indMsg, read⟩ := readIndMsg_enough (Nat.le_of_not_lt enough)
    rw [readAll, read, ok_bind, bind_eq_error, check_eq_error] at over_end
    rcases over_end with ⟨-, absurd⟩ | ⟨_, -, absurd⟩
    · cases absurd
    · cases absurd
  · intro few
    rw [readAll, readIndMsg_short few, error_bind]

theorem readAll_refuses (bytes : Bytes) :
    readAll (readIndMsg : Reader (IndMsg fields)) bytes = .error .mismatch ↔
      needed fields bytes < bytes.length := by
  by_cases few : bytes.length < needed fields bytes
  · rw [(readAll_overreads bytes).mpr few]
    constructor
    · intro absurd
      cases absurd
    · intro more
      omega
  · obtain ⟨indMsg, read⟩ := readIndMsg_enough (Nat.le_of_not_lt few)
    have left : bytes.drop (needed fields bytes) = [] ↔ bytes.length ≤ needed fields bytes :=
      List.drop_eq_nil_iff
    rw [readAll, read, ok_bind, bind_eq_error, check_eq_error]
    constructor
    · rintro (⟨more, -⟩ | ⟨_, -, absurd⟩)
      · exact Nat.lt_of_not_le fun all => more (left.mpr all)
      · cases absurd
    · intro more
      exact .inl ⟨fun none => Nat.not_le.mpr more (left.mp none), rfl⟩

theorem readAll_complete (bytes : Bytes) :
    (∃ indMsg : IndMsg fields, readAll readIndMsg bytes = .ok indMsg) ↔
      needed fields bytes = bytes.length := by
  constructor
  · rintro ⟨indMsg, read⟩
    have enough : ¬bytes.length < needed fields bytes := by
      intro few
      cases read.symm.trans ((readAll_overreads bytes).mpr few)
    have all : ¬needed fields bytes < bytes.length := by
      intro more
      cases read.symm.trans ((readAll_refuses bytes).mpr more)
    omega
  · intro same
    obtain ⟨indMsg, read⟩ : ∃ indMsg : IndMsg fields,
        readIndMsg.run bytes = .ok (indMsg, bytes.drop (needed fields bytes)) :=
      readIndMsg_enough (Nat.le_of_eq same)
    have left : bytes.drop (needed fields bytes) = [] :=
      List.drop_eq_nil_of_le (Nat.le_of_eq same.symm)
    refine ⟨indMsg, ?_⟩
    rw [readAll, read, ok_bind, left]
    rfl

/-- A check of the length that lets the shortest messages pass. -/
theorem guarded_classified {guard : Except Fault Unit} {enc : IndMsg fields → Except Fault Bytes}
    {dec : Bytes → Except Fault (IndMsg fields)} {least : Nat} {written : Prop} {bytes : Bytes}
    (small : least ≤ 12)
    (passes : least ≤ bytes.length → guard = .ok ())
    (stops : bytes.length < least → guard = .error .mismatch)
    (writes : ∀ indMsg, enc indMsg = .ok bytes ↔ written ∧ indMsgBytes indMsg = bytes)
    (reads : dec bytes = guard >>= fun _ => readAll readIndMsg bytes) :
    Classified enc dec least written bytes := by
  have unwritten (not : ¬written) (indMsg : IndMsg fields) : enc indMsg ≠ .ok bytes :=
    fun wrote => not ((writes indMsg).mp wrote).1
  by_cases few : bytes.length < least
  · have refused : dec bytes = .error .mismatch := by rw [reads, stops few, error_bind]
    constructor
    case accepts =>
      intro _ indMsg
      rw [refused, writes]
      constructor
      · intro absurd
        cases absurd
      · rintro ⟨-, same⟩
        have size := least_size indMsg
        rw [← length_indMsgBytes, same] at size
        omega
    case unwritten => exact unwritten
    case complete =>
      rw [refused]
      constructor
      · rintro ⟨_, absurd⟩
        cases absurd
      · intro both
        omega
    case overreads =>
      rw [refused]
      constructor
      · intro absurd
        cases absurd
      · intro both
        omega
    case refuses => exact iff_of_true refused (.inl few)
  · have enough := Nat.le_of_not_lt few
    have read : dec bytes = readAll readIndMsg bytes := by rw [reads, passes enough, ok_bind]
    constructor
    case accepts =>
      intro met indMsg
      rw [read, readAll_accepts, writes, and_iff_right met, eq_comm]
    case unwritten => exact unwritten
    case complete => rw [read, readAll_complete, and_iff_right enough]
    case overreads => rw [read, readAll_overreads, and_iff_right enough]
    case refuses => rw [read, readAll_refuses, or_iff_right few]

/-- The power of two behind the length of an object in memory is below sixteen only where the
    length is below nine. -/
theorem enoughBytes_passes {len : Nat} (least : 9 ≤ len) (small : len ≤ 2 ^ 63) :
    enoughBytes len = .ok () := by
  by_cases few : len < 12
  · obtain rfl | rfl | rfl : len = 9 ∨ len = 10 ∨ len = 11 := by omega
    all_goals decide +kernel
  · exact enoughBytes_ok (Nat.le_of_not_lt few) small

theorem enoughBytes_stops {len : Nat} (few : len < 9) : enoughBytes len = .error .mismatch := by
  have each : ∀ k : Fin 9, enoughBytes k = .error .mismatch := by decide +kernel
  exact each ⟨len, few⟩

theorem macEncIndMsgPlain_written {mac : MacIndMsg} {bytes : Bytes} :
    macEncIndMsgPlain mac = .ok bytes ↔ bytes.length < 2 ^ 32 ∧ indMsgBytes mac = bytes := by
  rw [macEncIndMsgPlain_eq_ok]
  apply and_congr_left
  rintro rfl
  rw [length_indMsgBytes]

end FlexRic.Stats
