import FlexRic.E2sm.UeIdRoundTrip
import FlexRic.Kpm.Formats
import FlexRic.Kpm.PartsRoundTrip

/-! # KPM messages survive their codec

An action definition or an indication comes back just when each of its measurements
does. The widths that the functions copy are what loses a value.
-/

namespace FlexRic.Kpm

open Asn (Fault)
open E2sm (UeIdE2sm Ueid CellGlobalIdKept cellGlobalId_back_iff LengthFits octetStringFromBuf
  octetStringFromBuf_back_iff)
open Octets
open Wire (Bytes bytesOf valueOf length_bytesOf valueOf_bytesOf)

theorem lst_kept_iff {α β : Type} {most : Nat} {enc : α → Except Fault β}
    {dec : β → Except Fault α} {Kept : α → Prop} {lst : List α}
    (kept : ∀ a, (enc a >>= dec) = .ok a ↔ Kept a) :
    (∃ o, encLst most enc lst = .ok o ∧ decLst most dec o = .ok lst) ↔
      lst.length ≤ most ∧ ∀ a ∈ lst, Kept a := by
  rw [encLst]
  split
  case isTrue empty =>
    subst empty
    exact iff_of_true ⟨none, rfl, rfl⟩ ⟨Nat.zero_le most, nofun⟩
  case isFalse some =>
    have least : 1 ≤ lst.length := List.length_pos_iff.mpr some
    constructor
    · rintro ⟨_, wrote, back⟩
      obtain ⟨asn, taken, rfl⟩ := map_eq_ok.mp wrote
      obtain ⟨count, each⟩ := (within_kept_iff kept).mp ⟨asn, taken, back⟩
      exact ⟨count.2, each⟩
    · rintro ⟨few, each⟩
      obtain ⟨asn, taken, back⟩ := (within_kept_iff kept).mpr ⟨⟨least, few⟩, each⟩
      exact ⟨.some asn, map_eq_ok.mpr ⟨asn, taken, rfl⟩, back⟩

def PeriodKept (period : UInt32) : Prop := 1 ≤ period.toNat

theorem period_back_iff (period : UInt32) :
    (encGranPeriod period >>= decGranPeriod) = .ok period ↔ PeriodKept period := by
  have small := period.toNat_lt
  simp only [encGranPeriod, decGranPeriod, bind_eq_ok, check_eq_ok, pure_eq_ok]
  constructor
  · rintro ⟨_, ⟨_, range, -⟩, -⟩
    exact range.1
  · intro least
    have range : 1 ≤ period.toNat ∧ period.toNat ≤ 4294967295 := ⟨least, by omega⟩
    refine ⟨_, ⟨(), range, rfl⟩, (), ?_, ?_⟩
    · rwa [UInt32.toUInt32_toUInt64]
    · rw [UInt32.toUInt32_toUInt64]

structure ActDefFormat1Kept (src : ActDefFormat1) : Prop where
  measInfoLst : MeasInfoLstKept src.measInfoLst
  granPeriodMs : PeriodKept src.granPeriodMs
  cellGlobalId : ∀ id ∈ src.cellGlobalId, CellGlobalIdKept id
  binCount : src.measBinInfoLst.length ≤ maxnoofBin
  measBinInfoLst : ∀ bin ∈ src.measBinInfoLst, MeasBinRangeKept bin

theorem actDefFormat1_back_iff (src : ActDefFormat1) :
    (kpmEncActionDefFrm1Asn src >>= kpmDecActionDefFrm1Asn) = .ok src ↔
      ActDefFormat1Kept src := by
  obtain ⟨measInfoLst, granPeriodMs, cellGlobalId, measBinInfoLst⟩ := src
  simp only [kpmEncActionDefFrm1Asn, kpmDecActionDefFrm1Asn, bind_eq_ok, check_eq_ok, pure_eq_ok,
    ActDefFormat1.mk.injEq]
  constructor
  · rintro ⟨_, ⟨infos, infosTaken, _, range, cell, cellTaken, bins, binsTaken, rfl⟩, _, -, _,
      infosBack, _, -, _, cellBack, _, binsBack, rfl, -, rfl, rfl⟩
    obtain ⟨few, each⟩ := (lst_kept_iff measBinRange_back_iff).mp ⟨bins, binsTaken, binsBack⟩
    exact
      { measInfoLst := (measInfoLst_back_iff _).mp (bind_eq_ok.mpr ⟨infos, infosTaken, infosBack⟩)
        granPeriodMs := range.1
        cellGlobalId := (optional_kept_iff cellGlobalId_back_iff).mp ⟨cell, cellTaken, cellBack⟩
        binCount := few
        measBinInfoLst := each }
  · rintro ⟨infosKept, least, cellKept, few, each⟩
    have small := granPeriodMs.toNat_lt
    have range : 1 ≤ granPeriodMs.toNat ∧ granPeriodMs.toNat ≤ 4294967295 := ⟨least, by omega⟩
    have same : granPeriodMs.toUInt64.toUInt32 = granPeriodMs := UInt32.toUInt32_toUInt64 _
    have read : 1 ≤ granPeriodMs.toUInt64.toUInt32.toNat ∧
        granPeriodMs.toUInt64.toUInt32.toNat ≤ 4294967295 := by rwa [same]
    obtain ⟨infos, infosTaken, infosBack⟩ :=
      bind_eq_ok.mp ((measInfoLst_back_iff measInfoLst).mpr infosKept)
    obtain ⟨cell, cellTaken, cellBack⟩ := (optional_kept_iff cellGlobalId_back_iff).mpr cellKept
    obtain ⟨bins, binsTaken, binsBack⟩ := (lst_kept_iff measBinRange_back_iff).mpr ⟨few, each⟩
    have count := length_of_mapM (within_eq_ok.mp infosTaken).2
    refine ⟨_, ⟨infos, infosTaken, (), range, cell, cellTaken, bins, binsTaken, rfl⟩, (), ?_,
      measInfoLst, infosBack, (), read, cellGlobalId, cellBack, measBinInfoLst, binsBack, rfl, same,
      rfl, rfl⟩
    rw [count]
    exact infosKept.count

structure ActDefFormat3Kept (src : ActDefFormat3) : Prop where
  count : 1 ≤ src.measInfoLst.length ∧ src.measInfoLst.length ≤ maxnoofMeasurementInfo
  measInfoLst : ∀ info ∈ src.measInfoLst, MeasInfoCondKept info
  granPeriodMs : PeriodKept src.granPeriodMs
  cellGlobalId : ∀ id ∈ src.cellGlobalId, CellGlobalIdKept id

theorem actDefFormat3_back_iff (src : ActDefFormat3) :
    (kpmEncActionDefFrm3Asn src >>= kpmDecActionDefFrm3Asn) = .ok src ↔
      ActDefFormat3Kept src := by
  obtain ⟨measInfoLst, granPeriodMs, cellGlobalId⟩ := src
  simp only [kpmEncActionDefFrm3Asn, kpmDecActionDefFrm3Asn, bind_eq_ok, check_eq_ok, pure_eq_ok,
    ActDefFormat3.mk.injEq]
  constructor
  · rintro ⟨_, ⟨infos, infosTaken, _, range, cell, cellTaken, rfl⟩, _, infosBack, _, -, _,
      cellBack, rfl, -, rfl⟩
    obtain ⟨count, each⟩ :=
      (within_kept_iff measInfoCond_back_iff).mp ⟨infos, infosTaken, infosBack⟩
    exact
      { count := count
        measInfoLst := each
        granPeriodMs := range.1
        cellGlobalId := (optional_kept_iff cellGlobalId_back_iff).mp ⟨cell, cellTaken, cellBack⟩ }
  · rintro ⟨count, each, least, cellKept⟩
    have small := granPeriodMs.toNat_lt
    have range : 1 ≤ granPeriodMs.toNat ∧ granPeriodMs.toNat ≤ 4294967295 := ⟨least, by omega⟩
    have same : granPeriodMs.toUInt64.toUInt32 = granPeriodMs := UInt32.toUInt32_toUInt64 _
    have read : 1 ≤ granPeriodMs.toUInt64.toUInt32.toNat ∧
        granPeriodMs.toUInt64.toUInt32.toNat ≤ 4294967295 := by rwa [same]
    obtain ⟨infos, infosTaken, infosBack⟩ :=
      (within_kept_iff measInfoCond_back_iff).mpr ⟨count, each⟩
    obtain ⟨cell, cellTaken, cellBack⟩ := (optional_kept_iff cellGlobalId_back_iff).mpr cellKept
    exact ⟨_, ⟨infos, infosTaken, (), range, cell, cellTaken, rfl⟩, measInfoLst, infosBack, (),
      read, cellGlobalId, cellBack, rfl, same, rfl⟩

structure ActDefFormat4Kept (src : ActDefFormat4) : Prop where
  count : 1 ≤ src.matchingCondLst.length ∧ src.matchingCondLst.length ≤ maxnoofConditionInfoPerSub
  matchingCondLst : ∀ cond ∈ src.matchingCondLst, MatchingCondFormat4Kept cond
  actionDefFormat1 : ActDefFormat1Kept src.actionDefFormat1

theorem actDefFormat4_back_iff (src : ActDefFormat4) :
    (kpmEncActionDefFrm4Asn src >>= kpmDecActionDefFrm4Asn) = .ok src ↔
      ActDefFormat4Kept src := by
  obtain ⟨matchingCondLst, format1⟩ := src
  simp only [kpmEncActionDefFrm4Asn, kpmDecActionDefFrm4Asn, bind_eq_ok, pure_eq_ok,
    ActDefFormat4.mk.injEq]
  constructor
  · rintro ⟨_, ⟨conds, condsTaken, info, taken, rfl⟩, _, condsBack, _, back, rfl, rfl⟩
    obtain ⟨count, each⟩ :=
      (within_kept_iff matchingCondFrm4_back_iff).mp ⟨conds, condsTaken, condsBack⟩
    exact
      { count := count
        matchingCondLst := each
        actionDefFormat1 := (actDefFormat1_back_iff _).mp (bind_eq_ok.mpr ⟨info, taken, back⟩) }
  · rintro ⟨count, each, kept⟩
    obtain ⟨conds, condsTaken, condsBack⟩ :=
      (within_kept_iff matchingCondFrm4_back_iff).mpr ⟨count, each⟩
    obtain ⟨info, taken, back⟩ := bind_eq_ok.mp ((actDefFormat1_back_iff format1).mpr kept)
    exact ⟨_, ⟨conds, condsTaken, info, taken, rfl⟩, matchingCondLst, condsBack, format1, back, rfl,
      rfl⟩

section
variable (UeKept : UeIdE2sm → Prop)

structure ActDefFormat2Kept (src : ActDefFormat2) : Prop where
  ueId : UeKept src.ueId
  actionDefFormat1 : ActDefFormat1Kept src.actionDefFormat1

structure ActDefFormat5Kept (src : ActDefFormat5) : Prop where
  count : 2 ≤ src.ueIdLst.length ∧ src.ueIdLst.length ≤ maxnoofUeIdPerSub
  ueIdLst : ∀ id ∈ src.ueIdLst, UeKept id
  actionDefFormat1 : ActDefFormat1Kept src.actionDefFormat1

/-- What of an action definition comes back. -/
def ActDefKept : ActDef → Prop
  | .format1 frm => ActDefFormat1Kept frm
  | .format2 frm => ActDefFormat2Kept UeKept frm
  | .format3 frm => ActDefFormat3Kept frm
  | .format4 frm => ActDefFormat4Kept frm
  | .format5 frm => ActDefFormat5Kept UeKept frm

def UeIdGranPeriodKept : UeIdGranPeriod → Prop
  | .noneMatched => True
  | .oneOrMore ueLst =>
      (1 ≤ ueLst.length ∧ ueLst.length ≤ maxnoofUeId) ∧ ∀ id ∈ ueLst, UeKept id

structure MeasInfoCondUeKept (src : MeasInfoCondUe) : Prop where
  measType : MeasTypeKept src.measType
  count : 1 ≤ src.matchingCondLst.length ∧ src.matchingCondLst.length ≤ maxnoofConditionInfo
  matchingCondLst : ∀ cond ∈ src.matchingCondLst, ConditionKept cond.cond
  matched : src.ueIdMatchedLst.length ≤ maxnoofUeId
  ueIdMatchedLst : ∀ id ∈ src.ueIdMatchedLst, UeKept id
  periods : src.ueIdGranPeriodLst.length ≤ maxnoofUeId
  ueIdGranPeriodLst : ∀ period ∈ src.ueIdGranPeriodLst, UeIdGranPeriodKept UeKept period

structure MeasDataLstKept (lst : List MeasData) : Prop where
  count : 1 ≤ lst.length ∧ lst.length ≤ maxnoofMeasurementRecord
  each : ∀ data ∈ lst, MeasDataKept data

structure IndMsgFormat1Kept (src : IndMsgFormat1) : Prop where
  measDataLst : MeasDataLstKept src.measDataLst
  measInfoLst : src.measInfoLst ≠ [] → MeasInfoLstKept src.measInfoLst
  granPeriodMs : ∀ period ∈ src.granPeriodMs, PeriodKept period

structure IndMsgFormat2Kept (src : IndMsgFormat2) : Prop where
  measDataLst : MeasDataLstKept src.measDataLst
  count : 1 ≤ src.measInfoCondUeLst.length ∧ src.measInfoCondUeLst.length ≤ maxnoofMeasurementInfo
  measInfoCondUeLst : ∀ info ∈ src.measInfoCondUeLst, MeasInfoCondUeKept UeKept info
  granPeriodMs : ∀ period ∈ src.granPeriodMs, PeriodKept period

structure MeasReportKept (src : MeasReportPerUe) : Prop where
  ueMeasReport : UeKept src.ueMeasReport
  indMsgFormat1 : IndMsgFormat1Kept src.indMsgFormat1

/-- What of a message of an indication comes back. -/
def IndMsgKept : IndMsg → Prop
  | .format1 frm => IndMsgFormat1Kept frm
  | .format2 frm => IndMsgFormat2Kept UeKept frm
  | .format3 reports =>
      (1 ≤ reports.length ∧ reports.length ≤ maxnoofUeMeasReport) ∧
        ∀ report ∈ reports, MeasReportKept UeKept report

end

theorem measDataLst_back_iff (lst : List MeasData) :
    (kpmEncMeasDataAsn lst >>= kpmDecMeasDataAsn) = .ok lst ↔ MeasDataLstKept lst := by
  rw [bind_eq_ok]
  refine (within_kept_iff measData_back_iff).trans ?_
  constructor
  · rintro ⟨count, each⟩
    exact ⟨count, each⟩
  · rintro ⟨count, each⟩
    exact ⟨count, each⟩

theorem indMeasInfo_back_iff (lst : List MeasInfoFormat1) :
    (encIndMeasInfo lst >>= decIndMeasInfo) = .ok lst ↔ (lst ≠ [] → MeasInfoLstKept lst) := by
  rw [encIndMeasInfo]
  split
  case isTrue empty =>
    subst empty
    exact iff_of_true rfl nofun
  case isFalse some =>
    rw [forall_prop_of_true some, ← measInfoLst_back_iff]
    simp only [bind_eq_ok, map_eq_ok]
    constructor
    · rintro ⟨_, ⟨asn, taken, rfl⟩, back⟩
      exact ⟨asn, taken, back⟩
    · rintro ⟨asn, taken, back⟩
      exact ⟨_, ⟨asn, taken, rfl⟩, back⟩

theorem indMsgFormat1_back_iff (src : IndMsgFormat1) :
    (kpmEncIndMsgFrm1Asn src >>= kpmDecIndMsgFrm1Asn) = .ok src ↔ IndMsgFormat1Kept src := by
  obtain ⟨measDataLst, measInfoLst, granPeriodMs⟩ := src
  simp only [kpmEncIndMsgFrm1Asn, kpmDecIndMsgFrm1Asn, bind_eq_ok, pure_eq_ok,
    IndMsgFormat1.mk.injEq]
  constructor
  · rintro ⟨_, ⟨data, dataTaken, infos, infosTaken, period, periodTaken, rfl⟩, _, dataBack, _,
      infosBack, _, periodBack, rfl, rfl, rfl⟩
    exact
      { measDataLst := (measDataLst_back_iff _).mp (bind_eq_ok.mpr ⟨data, dataTaken, dataBack⟩)
        measInfoLst := (indMeasInfo_back_iff _).mp (bind_eq_ok.mpr ⟨infos, infosTaken, infosBack⟩)
        granPeriodMs := (optional_kept_iff period_back_iff).mp ⟨period, periodTaken, periodBack⟩ }
  · rintro ⟨dataKept, infosKept, periodKept⟩
    obtain ⟨data, dataTaken, dataBack⟩ :=
      bind_eq_ok.mp ((measDataLst_back_iff measDataLst).mpr dataKept)
    obtain ⟨infos, infosTaken, infosBack⟩ :=
      bind_eq_ok.mp ((indMeasInfo_back_iff measInfoLst).mpr infosKept)
    obtain ⟨period, periodTaken, periodBack⟩ := (optional_kept_iff period_back_iff).mpr periodKept
    exact ⟨_, ⟨data, dataTaken, infos, infosTaken, period, periodTaken, rfl⟩, measDataLst, dataBack,
      measInfoLst, infosBack, granPeriodMs, periodBack, rfl, rfl, rfl⟩

theorem names_back_iff (o : Option Bytes) :
    o.mapM octetStringFromBuf = .ok o ↔ ∀ name ∈ o, LengthFits name := by
  have kept (name : Bytes) : octetStringFromBuf (id name) = .ok name ↔ LengthFits name :=
    octetStringFromBuf_back_iff name
  have mapped : (o.map id).mapM octetStringFromBuf = .ok o ↔ ∀ name ∈ o, LengthFits name :=
    optional_map_kept_iff kept
  rwa [Option.map_id] at mapped

theorem swap32_toNat (x : UInt32) : (swap32 x).toNat = unsigned (bytesOf 4 x.toNat) := by
  have small := unsigned_lt (bytesOf 4 x.toNat)
  rw [length_bytesOf] at small
  exact UInt32.toNat_ofNat_of_lt' small

@[simp] theorem swap32_back (x : UInt32) : swap32 (swap32 x) = x := by
  have four : (bytesOf 4 x.toNat).reverse.length = 4 := by simp
  have mirrored : bytesOf 4 (unsigned (bytesOf 4 x.toNat)) = (bytesOf 4 x.toNat).reverse := by
    have octets := bytesOf_valueOf (bytesOf 4 x.toNat).reverse
    rwa [four] at octets
  have whole : unsigned (bytesOf 4 x.toNat).reverse = x.toNat := by
    rw [unsigned, List.reverse_reverse, valueOf_bytesOf]
    exact Nat.mod_eq_of_lt x.toNat_lt
  rw [swap32, swap32_toNat, mirrored, whole, UInt32.ofNat_toNat]

@[simp] theorem int32_back (x : UInt32) : octetStringToInt32 (int32ToOctetString x) = .ok x := by
  have four : (int32ToOctetString x).length = 4 := length_bigEndian 4 _
  have whole : unsigned ((int32ToOctetString x).take 4) = x.toNat := by
    rw [List.take_of_length_le (by rw [four]), int32ToOctetString, unsigned_bigEndian]
    exact Nat.mod_eq_of_lt x.toNat_lt
  rw [octetStringToInt32, check_pass _ (Nat.le_of_eq four.symm), ok_bind, whole,
    UInt32.ofNat_toNat]
  rfl

/-- What of a header comes back. -/
structure IndHdrKept (src : IndHdr) : Prop where
  fileformatVersion : ∀ name ∈ src.fileformatVersion, LengthFits name
  senderName : ∀ name ∈ src.senderName, LengthFits name
  senderType : ∀ name ∈ src.senderType, LengthFits name
  vendorName : ∀ name ∈ src.vendorName, LengthFits name

theorem indHdr_back_iff (src : IndHdr) :
    (indHdrUnit src >>= indHdrOf) = .ok src ↔ IndHdrKept src := by
  obtain ⟨start, version, name, type, vendor⟩ := src
  simp only [indHdrUnit, indHdrOf, bind_eq_ok, pure_eq_ok, IndHdr.mk.injEq]
  constructor
  · rintro ⟨_, ⟨_, versionTaken, _, nameTaken, _, typeTaken, _, vendorTaken, rfl⟩, _, -, -, rfl,
      rfl, rfl, rfl⟩
    exact
      { fileformatVersion := (names_back_iff _).mp versionTaken
        senderName := (names_back_iff _).mp nameTaken
        senderType := (names_back_iff _).mp typeTaken
        vendorName := (names_back_iff _).mp vendorTaken }
  · rintro ⟨versionFits, nameFits, typeFits, vendorFits⟩
    exact ⟨_, ⟨version, (names_back_iff _).mpr versionFits, name, (names_back_iff _).mpr nameFits,
      type, (names_back_iff _).mpr typeFits, vendor, (names_back_iff _).mpr vendorFits, rfl⟩,
      swap32 start, int32_back _, swap32_back start, rfl, rfl, rfl, rfl⟩

theorem indHdr_packed_iff {p : Packing IndicationHeader} {src : IndHdr}
    (carries : p.Carries bufferLen indHdrUnit src) :
    (kpmEncIndHdrAsn p src >>= kpmDecIndHdrAsn p) = .ok src ↔ IndHdrKept src := by
  rw [kpmEncIndHdrAsn, kpmDecIndHdrAsn, packed_back carries]
  exact indHdr_back_iff src

section
variable {ue : UeIdCodec} {UeKept : UeIdE2sm → Prop} (keeps : ue.Keeps UeKept)
include keeps

theorem actDefFormat2_back_iff (src : ActDefFormat2) :
    (kpmEncActionDefFrm2Asn ue src >>= kpmDecActionDefFrm2Asn ue) = .ok src ↔
      ActDefFormat2Kept UeKept src := by
  obtain ⟨ueId, format1⟩ := src
  simp only [kpmEncActionDefFrm2Asn, kpmDecActionDefFrm2Asn, bind_eq_ok, pure_eq_ok,
    ActDefFormat2.mk.injEq]
  constructor
  · rintro ⟨_, ⟨asn, ueTaken, info, taken, rfl⟩, _, ueBack, _, back, rfl, rfl⟩
    exact
      { ueId := (keeps.exists_iff _).mp ⟨asn, ueTaken, ueBack⟩
        actionDefFormat1 := (actDefFormat1_back_iff _).mp (bind_eq_ok.mpr ⟨info, taken, back⟩) }
  · rintro ⟨ueKept, kept⟩
    obtain ⟨asn, ueTaken, ueBack⟩ := (keeps.exists_iff ueId).mpr ueKept
    obtain ⟨info, taken, back⟩ := bind_eq_ok.mp ((actDefFormat1_back_iff format1).mpr kept)
    exact ⟨_, ⟨asn, ueTaken, info, taken, rfl⟩, ueId, ueBack, format1, back, rfl, rfl⟩

theorem actDefFormat5_back_iff (src : ActDefFormat5) :
    (kpmEncActionDefFrm5Asn ue src >>= kpmDecActionDefFrm5Asn ue) = .ok src ↔
      ActDefFormat5Kept UeKept src := by
  obtain ⟨ueIdLst, format1⟩ := src
  simp only [kpmEncActionDefFrm5Asn, kpmDecActionDefFrm5Asn, bind_eq_ok, pure_eq_ok,
    ActDefFormat5.mk.injEq]
  constructor
  · rintro ⟨_, ⟨asn, ueTaken, info, taken, rfl⟩, _, ueBack, _, back, rfl, rfl⟩
    obtain ⟨count, each⟩ := (within_kept_iff keeps).mp ⟨asn, ueTaken, ueBack⟩
    exact
      { count := count
        ueIdLst := each
        actionDefFormat1 := (actDefFormat1_back_iff _).mp (bind_eq_ok.mpr ⟨info, taken, back⟩) }
  · rintro ⟨count, each, kept⟩
    obtain ⟨asn, ueTaken, ueBack⟩ :=
      (within_kept_iff keeps).mpr ⟨count, each⟩
    obtain ⟨info, taken, back⟩ := bind_eq_ok.mp ((actDefFormat1_back_iff format1).mpr kept)
    exact ⟨_, ⟨asn, ueTaken, info, taken, rfl⟩, ueIdLst, ueBack, format1, back, rfl, rfl⟩

theorem actDef_back_iff (src : ActDef) :
    (actionDefUnit ue src >>= actionDefOf ue) = .ok src ↔ ActDefKept UeKept src := by
  have formats : (actionDefUnit ue src >>= actionDefOf ue) =
      (encActionDefFormats ue src >>= decActionDefFormats ue) := by
    rw [actionDefUnit]
    cases encActionDefFormats ue src <;> rfl
  rw [formats]
  cases src with
  | format1 frm =>
      refine (map_back_iff kpmEncActionDefFrm1Asn kpmDecActionDefFrm1Asn
        ActionDefinitionFormats.format1 (decActionDefFormats ue) ActDef.format1 (fun _ => rfl)
        fun _ _ => ActDef.format1.inj).trans ?_
      exact actDefFormat1_back_iff frm
  | format2 frm =>
      refine (map_back_iff (kpmEncActionDefFrm2Asn ue) (kpmDecActionDefFrm2Asn ue)
        ActionDefinitionFormats.format2 (decActionDefFormats ue) ActDef.format2 (fun _ => rfl)
        fun _ _ => ActDef.format2.inj).trans ?_
      exact actDefFormat2_back_iff keeps frm
  | format3 frm =>
      refine (map_back_iff kpmEncActionDefFrm3Asn kpmDecActionDefFrm3Asn
        ActionDefinitionFormats.format3 (decActionDefFormats ue) ActDef.format3 (fun _ => rfl)
        fun _ _ => ActDef.format3.inj).trans ?_
      exact actDefFormat3_back_iff frm
  | format4 frm =>
      refine (map_back_iff kpmEncActionDefFrm4Asn kpmDecActionDefFrm4Asn
        ActionDefinitionFormats.format4 (decActionDefFormats ue) ActDef.format4 (fun _ => rfl)
        fun _ _ => ActDef.format4.inj).trans ?_
      exact actDefFormat4_back_iff frm
  | format5 frm =>
      refine (map_back_iff (kpmEncActionDefFrm5Asn ue) (kpmDecActionDefFrm5Asn ue)
        ActionDefinitionFormats.format5 (decActionDefFormats ue) ActDef.format5 (fun _ => rfl)
        fun _ _ => ActDef.format5.inj).trans ?_
      exact actDefFormat5_back_iff keeps frm

theorem ueIdGranPeriod_back_iff (src : UeIdGranPeriod) :
    (kpmEncUeIdGranPeriodAsn ue src >>= decUeIdGranPeriod ue) = .ok src ↔
      UeIdGranPeriodKept UeKept src := by
  cases src with
  | noneMatched => exact iff_of_true rfl trivial
  | oneOrMore ueLst =>
      refine (map_back_iff (mapMWithin 1 maxnoofUeId .bound ue.enc)
        (mapMWithin 1 maxnoofUeId .bound ue.dec) MatchingUeIdPerGpItem.oneOrMoreUeMatched
        (decUeIdGranPeriod ue) UeIdGranPeriod.oneOrMore (fun _ => rfl)
        fun _ _ => UeIdGranPeriod.oneOrMore.inj).trans ?_
      rw [bind_eq_ok]
      exact within_kept_iff keeps

theorem measInfoCondUe_back_iff (src : MeasInfoCondUe) :
    (encMeasInfoCondUe ue src >>= decMeasInfoCondUe ue) = .ok src ↔
      MeasInfoCondUeKept UeKept src := by
  obtain ⟨measType, matchingCondLst, matched, periods⟩ := src
  simp only [encMeasInfoCondUe, decMeasInfoCondUe, bind_eq_ok, pure_eq_ok, MeasInfoCondUe.mk.injEq]
  constructor
  · rintro ⟨_, ⟨typeAsn, typeTaken, conds, condsTaken, ues, uesTaken, gps, gpsTaken, rfl⟩, _,
      condsBack, _, uesBack, _, gpsBack, typeBack, rfl, rfl, rfl⟩
    obtain ⟨count, conds⟩ :=
      (within_kept_iff matchingCond_back_iff).mp ⟨conds, condsTaken, condsBack⟩
    obtain ⟨fewUes, ues⟩ := (lst_kept_iff keeps).mp ⟨ues, uesTaken, uesBack⟩
    obtain ⟨fewGps, gps⟩ :=
      (lst_kept_iff (ueIdGranPeriod_back_iff keeps)).mp ⟨gps, gpsTaken, gpsBack⟩
    exact
      { measType := (measType_back_iff _).mp ⟨typeAsn, typeTaken, typeBack⟩
        count := count
        matchingCondLst := conds
        matched := fewUes
        ueIdMatchedLst := ues
        periods := fewGps
        ueIdGranPeriodLst := gps }
  · rintro ⟨typeKept, count, condsKept, fewUes, uesKept, fewGps, gpsKept⟩
    obtain ⟨typeAsn, typeTaken, typeBack⟩ := (measType_back_iff measType).mpr typeKept
    obtain ⟨conds, condsTaken, condsBack⟩ :=
      (within_kept_iff matchingCond_back_iff).mpr ⟨count, condsKept⟩
    obtain ⟨ues, uesTaken, uesBack⟩ :=
      (lst_kept_iff keeps).mpr ⟨fewUes, uesKept⟩
    obtain ⟨gps, gpsTaken, gpsBack⟩ :=
      (lst_kept_iff (ueIdGranPeriod_back_iff keeps)).mpr ⟨fewGps, gpsKept⟩
    exact ⟨_, ⟨typeAsn, typeTaken, conds, condsTaken, ues, uesTaken, gps, gpsTaken, rfl⟩,
      matchingCondLst, condsBack, matched, uesBack, periods, gpsBack, typeBack, rfl, rfl, rfl⟩

theorem indMsgFormat2_back_iff (src : IndMsgFormat2) :
    (kpmEncIndMsgFrm2Asn ue src >>= kpmDecIndMsgFrm2Asn ue) = .ok src ↔
      IndMsgFormat2Kept UeKept src := by
  obtain ⟨measDataLst, measInfoCondUeLst, granPeriodMs⟩ := src
  simp only [kpmEncIndMsgFrm2Asn, kpmDecIndMsgFrm2Asn, bind_eq_ok, pure_eq_ok,
    IndMsgFormat2.mk.injEq]
  constructor
  · rintro ⟨_, ⟨data, dataTaken, infos, infosTaken, period, periodTaken, rfl⟩, _, dataBack, _,
      infosBack, _, periodBack, rfl, rfl, rfl⟩
    obtain ⟨count, each⟩ :=
      (within_kept_iff (measInfoCondUe_back_iff keeps)).mp ⟨infos, infosTaken, infosBack⟩
    exact
      { measDataLst := (measDataLst_back_iff _).mp (bind_eq_ok.mpr ⟨data, dataTaken, dataBack⟩)
        count := count
        measInfoCondUeLst := each
        granPeriodMs := (optional_kept_iff period_back_iff).mp ⟨period, periodTaken, periodBack⟩ }
  · rintro ⟨dataKept, count, each, periodKept⟩
    obtain ⟨data, dataTaken, dataBack⟩ :=
      bind_eq_ok.mp ((measDataLst_back_iff measDataLst).mpr dataKept)
    obtain ⟨infos, infosTaken, infosBack⟩ :=
      (within_kept_iff (measInfoCondUe_back_iff keeps)).mpr ⟨count, each⟩
    obtain ⟨period, periodTaken, periodBack⟩ := (optional_kept_iff period_back_iff).mpr periodKept
    exact ⟨_, ⟨data, dataTaken, infos, infosTaken, period, periodTaken, rfl⟩, measDataLst, dataBack,
      measInfoCondUeLst, infosBack, granPeriodMs, periodBack, rfl, rfl, rfl⟩

theorem measReport_back_iff (src : MeasReportPerUe) :
    (encMeasReport ue src >>= decMeasReport ue) = .ok src ↔ MeasReportKept UeKept src := by
  obtain ⟨ueId, format1⟩ := src
  simp only [encMeasReport, decMeasReport, bind_eq_ok, pure_eq_ok, MeasReportPerUe.mk.injEq]
  constructor
  · rintro ⟨_, ⟨asn, ueTaken, msg, taken, rfl⟩, _, ueBack, _, back, rfl, rfl⟩
    exact
      { ueMeasReport := (keeps.exists_iff _).mp ⟨asn, ueTaken, ueBack⟩
        indMsgFormat1 := (indMsgFormat1_back_iff _).mp (bind_eq_ok.mpr ⟨msg, taken, back⟩) }
  · rintro ⟨ueKept, kept⟩
    obtain ⟨asn, ueTaken, ueBack⟩ := (keeps.exists_iff ueId).mpr ueKept
    obtain ⟨msg, taken, back⟩ := bind_eq_ok.mp ((indMsgFormat1_back_iff format1).mpr kept)
    exact ⟨_, ⟨asn, ueTaken, msg, taken, rfl⟩, ueId, ueBack, format1, back, rfl, rfl⟩

theorem indMsg_back_iff (src : IndMsg) :
    (indMsgUnit ue src >>= indMsgOf ue) = .ok src ↔ IndMsgKept UeKept src := by
  cases src with
  | format1 frm =>
      refine (map_back_iff kpmEncIndMsgFrm1Asn kpmDecIndMsgFrm1Asn IndicationMessage.format1
        (indMsgOf ue) IndMsg.format1 (fun _ => rfl) fun _ _ => IndMsg.format1.inj).trans ?_
      exact indMsgFormat1_back_iff frm
  | format2 frm =>
      refine (map_back_iff (kpmEncIndMsgFrm2Asn ue) (kpmDecIndMsgFrm2Asn ue)
        IndicationMessage.format2 (indMsgOf ue) IndMsg.format2 (fun _ => rfl)
        fun _ _ => IndMsg.format2.inj).trans ?_
      exact indMsgFormat2_back_iff keeps frm
  | format3 reports =>
      refine (map_back_iff (kpmEncIndMsgFrm3Asn ue) (kpmDecIndMsgFrm3Asn ue)
        IndicationMessage.format3 (indMsgOf ue) IndMsg.format3 (fun _ => rfl)
        fun _ _ => IndMsg.format3.inj).trans ?_
      rw [bind_eq_ok]
      exact within_kept_iff (measReport_back_iff keeps)

theorem actDef_packed_iff {p : Packing ActionDefinition} {src : ActDef}
    (carries : p.Carries bufferLen (actionDefUnit ue) src) :
    (kpmEncActionDefAsn ue p src >>= kpmDecActionDefAsn ue p) = .ok src ↔
      ActDefKept UeKept src := by
  rw [kpmEncActionDefAsn, kpmDecActionDefAsn, packed_back carries]
  exact actDef_back_iff keeps src

theorem indMsg_packed_iff {p : Packing IndicationMessage} {src : IndMsg}
    (carries : p.Carries bufferLen (indMsgUnit ue) src) :
    (kpmEncIndMsgAsn ue p src >>= kpmDecIndMsgAsn ue p) = .ok src ↔ IndMsgKept UeKept src := by
  rw [kpmEncIndMsgAsn, kpmDecIndMsgAsn, packed_back carries]
  exact indMsg_back_iff keeps src

end

/-- Action definitions, headers and messages come back from their bytes just where each
    part is kept. -/
theorem kpm_messages_come_back_iff {ue : UeIdCodec} (inverse : ue.Inverse) :
    (∀ p (src : ActDef), p.Carries bufferLen (actionDefUnit ue) src →
      ((kpmEncActionDefAsn ue p src >>= kpmDecActionDefAsn ue p) = .ok src ↔
        ActDefKept ue.Taken src)) ∧
    (∀ p (src : IndHdr), p.Carries bufferLen indHdrUnit src →
      ((kpmEncIndHdrAsn p src >>= kpmDecIndHdrAsn p) = .ok src ↔ IndHdrKept src)) ∧
    (∀ p (src : IndMsg), p.Carries bufferLen (indMsgUnit ue) src →
      ((kpmEncIndMsgAsn ue p src >>= kpmDecIndMsgAsn ue p) = .ok src ↔
        IndMsgKept ue.Taken src)) := by
  refine ⟨?_, ?_, ?_⟩
  · intro p src carries
    exact actDef_packed_iff inverse.keeps carries
  · intro p src carries
    exact indHdr_packed_iff carries
  · intro p src carries
    exact indMsg_packed_iff inverse.keeps carries

/-- The codec of UE ids as far as those in a gNB-DU go. -/
def gnbDuIds : UeIdCodec where
  enc
    | .gnbDu id => .ok (.gnbDu (E2sm.encGnbDuUeAsn id))
    | _ => .error .bound
  dec := E2sm.decUeIdAsn

theorem gnbDuIds_inverse : gnbDuIds.Inverse := by
  intro id asn taken
  cases id with
  | gnbDu id =>
      cases taken
      exact map_eq_ok.mpr ⟨id, E2sm.gnbDu_back id, rfl⟩
  | _ => cases taken

/-- The measurement with id 1 and no label, every millisecond. -/
def firstMeasurement : ActDefFormat1 :=
  ⟨[⟨.id 1, [⟨some .trueEnumValue, none, none, none, .absent, none, .absent⟩]⟩], 1, none, []⟩

theorem firstMeasurement_kept : ActDefFormat1Kept firstMeasurement := by
  have label : LabelKept ⟨some .trueEnumValue, none, none, none, .absent, none, .absent⟩ :=
    { alone := fun _ => ⟨rfl, rfl, rfl, rfl⟩
      plmnId := by
        intro plmn here
        cases here
      sliceId := by
        intro slice here
        cases here
      refused := rfl
      ignored := rfl }
  have info : MeasInfoKept
      ⟨.id 1, [⟨some .trueEnumValue, none, none, none, .absent, none, .absent⟩]⟩ :=
    { measType := trivial
      count := by decide
      labelInfoLst := List.forall_mem_singleton.mpr label }
  exact
    { measInfoLst := ⟨by decide, List.forall_mem_singleton.mpr info⟩
      granPeriodMs := Nat.le_refl 1
      cellGlobalId := by
        intro cell here
        cases here
      binCount := Nat.zero_le _
      measBinInfoLst := List.forall_mem_nil _ }

/-- One record without a value. -/
theorem noValue_kept : IndMsgFormat1Kept ⟨[⟨[.noValue], none⟩], [], none⟩ := by
  have data : MeasDataKept ⟨[.noValue], none⟩ := by
    rw [MeasDataKept]
    decide
  exact
    { measDataLst := ⟨by decide, List.forall_mem_singleton.mpr data⟩
      measInfoLst := fun some => (some rfl).elim
      granPeriodMs := by
        intro period here
        cases here }

/-- One measurement as its bytes, and a message with one record without a value as its own. -/
theorem kpm_messages_come_back_one :
    (∃ unit, (kpmEncActionDefAsn gnbDuIds (.only unit
        [0, 1, 1, 0, 0, 0, 0x20, 0, 0, 1, 0x20, 0, 0, 0, 0]) (.format1 firstMeasurement) >>=
      kpmDecActionDefAsn gnbDuIds (.only unit
        [0, 1, 1, 0, 0, 0, 0x20, 0, 0, 1, 0x20, 0, 0, 0, 0])) = .ok (.format1 firstMeasurement)) ∧
    ∃ unit, (kpmEncIndMsgAsn gnbDuIds (.only unit [0, 0, 0, 0, 1, 0x40])
        (.format1 ⟨[⟨[.noValue], none⟩], [], none⟩) >>=
      kpmDecIndMsgAsn gnbDuIds (.only unit [0, 0, 0, 0, 1, 0x40])) =
        .ok (.format1 ⟨[⟨[.noValue], none⟩], [], none⟩) := by
  have all := kpm_messages_come_back_iff gnbDuIds_inverse
  constructor
  · exact ⟨_, (all.1 _ (.format1 _) (Packing.only_carries rfl (by decide) (by decide))).mpr
      firstMeasurement_kept⟩
  · exact ⟨_, (all.2.2 _ _ (Packing.only_carries rfl (by decide) (by decide))).mpr
      noValue_kept⟩

/-- The first measurement, distributed over one bin from 2^32 to 2^32 + 1. -/
def wideBin : ActDef :=
  .format1 ⟨[⟨.id 1, [⟨some .trueEnumValue, none, none, none, .absent, none, .absent⟩]⟩], 1, none,
    [⟨.id 1, ⟨[⟨1, .integer 4294967296, .integer 4294967297⟩], [], []⟩⟩]⟩

/-- It in aligned PER, with what is left of the bounds. -/
def wideBinBytes : Bytes :=
  [0x00, 0x01, 0x01, 0x04, 0x00, 0x00, 0x20, 0x00, 0x00, 0x01, 0x20, 0x00, 0x00, 0x00, 0x00, 0x00,
   0x00, 0x20, 0x00, 0x00, 0x00, 0x00, 0x00, 0x00, 0x00, 0x00, 0x00, 0x01, 0x00, 0x00, 0x01, 0x01]

/-- Four bytes of each bound are copied, and the rest is lost. -/
theorem wide_bin_truncated :
    ∃ p : Packing ActionDefinition, gnbDuIds.Inverse ∧
      p.Carries bufferLen (actionDefUnit gnbDuIds) wideBin ∧
      (actionDefUnit gnbDuIds wideBin).isOk ∧
      (kpmEncActionDefAsn gnbDuIds p wideBin >>= kpmDecActionDefAsn gnbDuIds p) ≠ .ok wideBin := by
  have carries : (Packing.only _ wideBinBytes).Carries bufferLen (actionDefUnit gnbDuIds) wideBin :=
    Packing.only_carries rfl (by decide) (by decide)
  refine ⟨_, gnbDuIds_inverse, carries, rfl, ?_⟩
  rw [kpmEncActionDefAsn, kpmDecActionDefAsn, packed_back carries]
  decide +kernel

end FlexRic.Kpm
