import FlexRic.Asn.BitStrings
import FlexRic.Kpm.Parts

/-! # Measurements survive their codec

For each part what comes back is exact.
-/

namespace FlexRic.Kpm

open Asn (Fault PlmnFits)
open E2sm (LengthFits longOf16 low16_longOf16 octetStringFromBuf octetStringFromBuf_back_iff)
open Wire (Bytes)

/-- There is one value, so that all of an optional one is whether it is there. -/
@[simp] theorem flag_back {α : Type} (o : Option EnumValue) (a : α) :
    ((o.map fun _ => a).map fun _ => EnumValue.trueEnumValue) = o := by
  rcases o with _ | ⟨⟨⟩⟩ <;> rfl

theorem flag_zero (o : Option EnumValue) : ∀ x ∈ o.map fun _ => (0 : Int64), x = 0 := by
  rintro _ mem
  obtain ⟨_, _, rfl⟩ := Option.map_eq_some_iff.mp mem
  rfl

def MeasTypeKept : MeasType → Prop
  | .name name => LengthFits name
  | .id _ => True

theorem measType_back_iff (src : MeasType) :
    (∃ asn, encMeasType src = .ok asn ∧ decMeasType asn = src) ↔ MeasTypeKept src := by
  cases src with
  | name name =>
      rw [MeasTypeKept, ← octetStringFromBuf_back_iff]
      simp only [encMeasType, map_eq_ok]
      constructor
      · rintro ⟨_, ⟨octets, taken, rfl⟩, same⟩
        cases same
        exact taken
      · intro taken
        exact ⟨_, ⟨name, taken, rfl⟩, rfl⟩
  | id id =>
      apply iff_of_true _ trivial
      exact ⟨_, rfl, congrArg MeasType.id (low16_longOf16 id)⟩

theorem int24_back_iff (x : UInt32) :
    bufferToInt24 (int24ToBuffer x) = .ok x ↔ x.toNat < 2 ^ 24 := by
  have value : UInt32.ofNat ((UInt8.ofNat (x.toNat >>> 16)).toNat <<< 16 |||
      (UInt8.ofNat (x.toNat >>> 8)).toNat <<< 8 ||| (UInt8.ofNat x.toNat).toNat) =
        UInt32.ofNat (x.toNat % 2 ^ 24) := by
    rw [Asn.three_octets]
    congr 1
    simp only [UInt8.toNat_ofNat', Nat.shiftRight_eq_div_pow]
    omega
  rw [int24ToBuffer, bufferToInt24, value, Except.ok.injEq, ← UInt32.toNat_inj,
    UInt32.toNat_ofNat']
  omega

/-- Three octets hold the differentiator of a slice. -/
def SliceKept (src : SNssai) : Prop := ∀ sd ∈ src.sd, sd.toNat < 2 ^ 24

theorem slice_back_iff (src : SNssai) : decSliceId (encSliceId src) = .ok src ↔ SliceKept src := by
  obtain ⟨sst, sd⟩ := src
  rw [SliceKept, ← optional_map_kept_iff int24_back_iff]
  simp only [decSliceId, encSliceId, bind_eq_ok, pure_eq_ok, SNssai.mk.injEq]
  constructor
  · rintro ⟨_, -, _, back, -, rfl⟩
    exact back
  · intro back
    exact ⟨(), rfl, sd, back, rfl, rfl⟩

/-- What of a label comes back: next to `noLabel` there is nothing else. -/
structure LabelKept (src : LabelInfo) : Prop where
  alone : src.noLabel.isSome →
    src.plmnId = none ∧ src.sliceId = none ∧ src.fiveQI = none ∧ src.avg = none
  plmnId : ∀ plmn ∈ src.plmnId, PlmnFits plmn
  sliceId : ∀ slice ∈ src.sliceId, SliceKept slice
  refused : src.refused = .absent
  ignored : src.ignored = .absent

@[simp] theorem fiveQI_back (o : Option UInt8) :
    ((o.map fun x => x.toUInt64.toInt64).map fun x => x.toUInt64.toUInt8) = o := by
  cases o with
  | none => rfl
  | some x => simp

theorem label_back_iff (src : LabelInfo) :
    (kpmEncLabelInfoAsn src >>= kpmDecLabelInfoAsn) = .ok src ↔ LabelKept src := by
  obtain ⟨noLabel, plmnId, sliceId, fiveQI, refused, avg, ignored⟩ := src
  cases noLabel with
  | some value =>
      cases value
      have back : (kpmEncLabelInfoAsn ⟨some .trueEnumValue, plmnId, sliceId, fiveQI, refused, avg,
          ignored⟩ >>= kpmDecLabelInfoAsn) =
            .ok ⟨some .trueEnumValue, none, none, none, .absent, none, .absent⟩ := rfl
      rw [back]
      constructor
      · rintro ⟨⟩
        exact
          { alone := fun _ => ⟨rfl, rfl, rfl, rfl⟩
            plmnId := by
              intro _ here
              cases here
            sliceId := by
              intro _ here
              cases here
            refused := rfl
            ignored := rfl }
      · rintro ⟨alone, -, -, rfl, rfl⟩
        obtain ⟨rfl, rfl, rfl, rfl⟩ := alone rfl
        rfl
  | none =>
      have plmns : (plmnId.map Asn.mccMncToPlmnid).mapM Asn.plmnidToMccMnc = .ok plmnId ↔
          ∀ plmn ∈ plmnId, PlmnFits plmn := optional_map_kept_iff Asn.plmnid_back_iff
      have slices : (sliceId.map encSliceId).mapM decSliceId = .ok sliceId ↔
          ∀ slice ∈ sliceId, SliceKept slice := optional_map_kept_iff slice_back_iff
      simp only [kpmEncLabelInfoAsn, kpmDecLabelInfoAsn, bind_eq_ok, check_eq_ok, pure_eq_ok]
      constructor
      · rintro ⟨_, ⟨_, refused, rfl⟩, _, plmnBack, _, sliceBack, _, -, same⟩
        simp only [LabelInfo.mk.injEq] at same
        obtain ⟨-, rfl, rfl, -, -, -, rfl⟩ := same
        exact
          { alone := by
              intro here
              cases here
            plmnId := plmns.mp plmnBack
            sliceId := slices.mp sliceBack
            refused := refused
            ignored := rfl }
      · rintro ⟨-, plmnFits, sliceFits, refused, ignored⟩
        refine ⟨_, ⟨(), refused, rfl⟩, plmnId, plmns.mpr plmnFits, sliceId, slices.mpr sliceFits,
          (), rfl, ?_⟩
        simp only [fiveQI_back, flag_back, Option.map_none, LabelInfo.mk.injEq, true_and]
        exact ⟨refused.symm, ignored.symm⟩

def BinRangeValueKept : BinRangeValue → Prop
  | .integer value => value.toNat < 2 ^ 32
  | .real _ => True

theorem binRangeValue_back_iff (src : BinRangeValue) :
    decBinRangeValue (encBinRangeValue src) = src ↔ BinRangeValueKept src := by
  cases src with
  | integer value =>
      simp only [encBinRangeValue, decBinRangeValue, BinRangeValueKept, BinRangeValue.integer.injEq,
        ← UInt64.toNat_inj]
      simp
  | real value => exact iff_of_true rfl trivial

/-- Four bytes hold the bounds of a bin. -/
def BinKept (src : BinDistr) : Prop :=
  BinRangeValueKept src.startValue ∧ BinRangeValueKept src.endValue

theorem bin_back_iff (src : BinDistr) : decBinDistr (encBinDistr src) = src ↔ BinKept src := by
  obtain ⟨binIndex, startValue, endValue⟩ := src
  rw [BinKept, ← binRangeValue_back_iff, ← binRangeValue_back_iff]
  simp only [decBinDistr, encBinDistr, low16_longOf16, BinDistr.mk.injEq, true_and]

structure BinRangeDefKept (src : BinRangeDef) : Prop where
  count : 1 ≤ src.binX.length ∧ src.binX.length ≤ maxnoofBin
  binX : ∀ bin ∈ src.binX, BinKept bin
  binY : src.binY = []
  binZ : src.binZ = []

theorem binRangeDef_back_iff (src : BinRangeDef) :
    (kpmEncBinRangeDef src >>= kpmDecBinRangeDef) = .ok src ↔ BinRangeDefKept src := by
  obtain ⟨binX, binY, binZ⟩ := src
  have bins : (binX.map encBinDistr).map decBinDistr = binX ↔ ∀ bin ∈ binX, BinKept bin :=
    map_map_self_iff.trans (forall₂_congr fun bin _ => bin_back_iff bin)
  simp only [kpmEncBinRangeDef, kpmDecBinRangeDef, bind_eq_ok, check_eq_ok, pure_eq_ok]
  constructor
  · rintro ⟨_, ⟨_, count, _, ⟨rfl, rfl⟩, rfl⟩, _, -, _, -, same⟩
    exact ⟨count, bins.mp (congrArg BinRangeDef.binX same), rfl, rfl⟩
  · rintro ⟨count, kept, rfl, rfl⟩
    refine ⟨_, ⟨(), count, (), ⟨rfl, rfl⟩, rfl⟩, (), ?_, (), ⟨rfl, rfl⟩, ?_⟩
    · rwa [List.length_map]
    · rw [bins.mpr kept]

structure MeasBinRangeKept (src : MeasBinRangeInfo) : Prop where
  measType : MeasTypeKept src.measType
  binRangeDef : BinRangeDefKept src.binRangeDef

theorem measBinRange_back_iff (src : MeasBinRangeInfo) :
    (kpmEncMeasBinRangeItem src >>= kpmDecMeasBinRangeItem) = .ok src ↔ MeasBinRangeKept src := by
  obtain ⟨measType, binRangeDef⟩ := src
  simp only [kpmEncMeasBinRangeItem, kpmDecMeasBinRangeItem, bind_eq_ok, pure_eq_ok,
    MeasBinRangeInfo.mk.injEq]
  constructor
  · rintro ⟨_, ⟨typeAsn, typeTaken, bins, binsTaken, rfl⟩, _, binsBack, typeBack, rfl⟩
    exact
      { measType := (measType_back_iff _).mp ⟨typeAsn, typeTaken, typeBack⟩
        binRangeDef := (binRangeDef_back_iff _).mp (bind_eq_ok.mpr ⟨bins, binsTaken, binsBack⟩) }
  · rintro ⟨typeKept, binsKept⟩
    obtain ⟨typeAsn, typeTaken, typeBack⟩ := (measType_back_iff measType).mpr typeKept
    obtain ⟨bins, binsTaken, binsBack⟩ :=
      bind_eq_ok.mp ((binRangeDef_back_iff binRangeDef).mpr binsKept)
    exact ⟨_, ⟨typeAsn, typeTaken, bins, binsTaken, rfl⟩, binRangeDef, binsBack, typeBack, rfl⟩

@[simp] theorem testCondType_back (src : TestCondType) :
    decTestCondType (encTestCondType src) = src := by
  cases src <;> rfl

@[simp] theorem testCond_back (src : Option TestCond) :
    (src.map encTestCond).map decTestCond = src := by
  rcases src with _ | ⟨⟨⟩⟩ <;> rfl

/-- A bit string is refused. -/
def TestCondValueKept : TestCondValue → Prop
  | .bitString _ => False
  | _ => True

theorem testCondValue_back_iff (src : TestCondValue) :
    (encTestCondValue src >>= decTestCondValue) = .ok src ↔ TestCondValueKept src := by
  cases src with
  | bitString _ => exact iff_of_false nofun id
  | _ => exact iff_of_true rfl trivial

def TestInfoKept (src : TestInfo) : Prop := ∀ value ∈ src.testCondValue, TestCondValueKept value

theorem testInfo_back_iff (src : TestInfo) :
    (kpmEncTestInfoAsn src >>= kpmDecTestInfoAsn) = .ok src ↔ TestInfoKept src := by
  obtain ⟨testCondType, testCond, testCondValue⟩ := src
  rw [TestInfoKept, ← optional_kept_iff testCondValue_back_iff]
  simp only [kpmEncTestInfoAsn, kpmDecTestInfoAsn, bind_eq_ok, pure_eq_ok, TestInfo.mk.injEq]
  constructor
  · rintro ⟨_, ⟨value, taken, rfl⟩, _, back, -, -, rfl⟩
    exact ⟨value, taken, back⟩
  · rintro ⟨value, taken, back⟩
    exact ⟨_, ⟨value, taken, rfl⟩, testCondValue, back, testCondType_back _, testCond_back _, rfl⟩

def ConditionKept : Condition → Prop
  | .label info => LabelKept info
  | .test info => TestInfoKept info

theorem condition_back_iff (src : Condition) :
    (encCondition src >>= decCondition) = .ok src ↔ ConditionKept src := by
  cases src with
  | label info =>
      refine (map_back_iff kpmEncLabelInfoAsn kpmDecLabelInfoAsn MatchingCondItemChoice.measLabel
        decCondition Condition.label (fun _ => rfl) fun _ _ => Condition.label.inj).trans ?_
      exact label_back_iff info
  | test info =>
      refine (map_back_iff kpmEncTestInfoAsn kpmDecTestInfoAsn MatchingCondItemChoice.testCondInfo
        decCondition Condition.test (fun _ => rfl) fun _ _ => Condition.test.inj).trans ?_
      exact testInfo_back_iff info

theorem matchingCond_back_iff (src : MatchingCondFormat3) :
    (kpmEncMatchingCondAsn src >>= kpmDecMatchingCondAsn) = .ok src ↔ ConditionKept src.cond := by
  obtain ⟨cond, logicalOr⟩ := src
  rw [← condition_back_iff]
  simp only [kpmEncMatchingCondAsn, kpmDecMatchingCondAsn, bind_eq_ok, check_eq_ok, pure_eq_ok,
    MatchingCondFormat3.mk.injEq]
  constructor
  · rintro ⟨_, ⟨choice, taken, rfl⟩, _, back, _, -, rfl, -⟩
    exact ⟨choice, taken, back⟩
  · rintro ⟨choice, taken, back⟩
    exact ⟨_, ⟨choice, taken, rfl⟩, cond, back, (), flag_zero logicalOr, rfl, flag_back _ _⟩

structure MatchingCondFormat4Kept (src : MatchingCondFormat4) : Prop where
  testInfo : TestInfoKept src.testInfo
  logicalOr : src.logicalOr = none

theorem matchingCondFrm4_back_iff (src : MatchingCondFormat4) :
    (kpmEncMatchingCondFrm4Asn src >>= kpmDecMatchingCondFrm4Asn) = .ok src ↔
      MatchingCondFormat4Kept src := by
  obtain ⟨testInfo, logicalOr⟩ := src
  simp only [kpmEncMatchingCondFrm4Asn, kpmDecMatchingCondFrm4Asn, bind_eq_ok, check_eq_ok,
    pure_eq_ok, MatchingCondFormat4.mk.injEq]
  constructor
  · rintro ⟨_, ⟨info, taken, _, absent, rfl⟩, _, back, rfl, -⟩
    exact ⟨(testInfo_back_iff _).mp (bind_eq_ok.mpr ⟨info, taken, back⟩), absent⟩
  · rintro ⟨kept, absent⟩
    obtain ⟨info, taken, back⟩ := bind_eq_ok.mp ((testInfo_back_iff testInfo).mpr kept)
    exact ⟨_, ⟨info, taken, (), absent, rfl⟩, testInfo, back, rfl, absent.symm⟩

structure MeasInfoKept (src : MeasInfoFormat1) : Prop where
  measType : MeasTypeKept src.measType
  count : 1 ≤ src.labelInfoLst.length ∧ src.labelInfoLst.length ≤ maxnoofLabelInfo
  labelInfoLst : ∀ label ∈ src.labelInfoLst, LabelKept label

theorem measInfo_back_iff (src : MeasInfoFormat1) :
    (encMeasInfo src >>= decMeasInfo) = .ok src ↔ MeasInfoKept src := by
  obtain ⟨measType, labelInfoLst⟩ := src
  simp only [encMeasInfo, decMeasInfo, bind_eq_ok, pure_eq_ok, MeasInfoFormat1.mk.injEq]
  constructor
  · rintro ⟨_, ⟨typeAsn, typeTaken, labels, taken, rfl⟩, _, back, typeBack, rfl⟩
    obtain ⟨count, kept⟩ := (within_kept_iff label_back_iff).mp ⟨labels, taken, back⟩
    exact
      { measType := (measType_back_iff _).mp ⟨typeAsn, typeTaken, typeBack⟩
        count := count
        labelInfoLst := kept }
  · rintro ⟨typeKept, count, kept⟩
    obtain ⟨typeAsn, typeTaken, typeBack⟩ := (measType_back_iff measType).mpr typeKept
    obtain ⟨labels, taken, back⟩ := (within_kept_iff label_back_iff).mpr ⟨count, kept⟩
    exact ⟨_, ⟨typeAsn, typeTaken, labels, taken, rfl⟩, labelInfoLst, back, typeBack, rfl⟩

structure MeasInfoLstKept (lst : List MeasInfoFormat1) : Prop where
  count : 1 ≤ lst.length ∧ lst.length ≤ maxnoofMeasurementInfo
  each : ∀ info ∈ lst, MeasInfoKept info

/-- The decoder of a list of measurements leaves its length to its callers. -/
theorem measInfoLst_back_iff (lst : List MeasInfoFormat1) :
    (kpmEncMeasInfoAsn lst >>= kpmDecMeasInfoAsn) = .ok lst ↔ MeasInfoLstKept lst := by
  simp only [kpmEncMeasInfoAsn, kpmDecMeasInfoAsn, bind_eq_ok, within_eq_ok]
  constructor
  · rintro ⟨asn, ⟨count, taken⟩, back⟩
    exact ⟨count, (list_kept_iff measInfo_back_iff).mp ⟨asn, taken, back⟩⟩
  · rintro ⟨count, each⟩
    obtain ⟨asn, taken, back⟩ := (list_kept_iff measInfo_back_iff).mpr each
    exact ⟨asn, ⟨count, taken⟩, back⟩

structure MeasInfoCondKept (src : MeasInfoFormat3) : Prop where
  measType : MeasTypeKept src.measType
  count : 1 ≤ src.matchingCondLst.length ∧ src.matchingCondLst.length ≤ maxnoofConditionInfo
  matchingCondLst : ∀ cond ∈ src.matchingCondLst, ConditionKept cond.cond
  binRangeDef : ∀ bins ∈ src.binRangeDef, BinRangeDefKept bins

theorem measInfoCond_back_iff (src : MeasInfoFormat3) :
    (encMeasInfoCond src >>= decMeasInfoCond) = .ok src ↔ MeasInfoCondKept src := by
  obtain ⟨measType, matchingCondLst, binRangeDef⟩ := src
  simp only [encMeasInfoCond, decMeasInfoCond, bind_eq_ok, pure_eq_ok, MeasInfoFormat3.mk.injEq]
  constructor
  · rintro ⟨_, ⟨typeAsn, typeTaken, conds, taken, bins, binsTaken, rfl⟩, _, back, _, binsBack,
      typeBack, rfl, rfl⟩
    obtain ⟨count, kept⟩ := (within_kept_iff matchingCond_back_iff).mp ⟨conds, taken, back⟩
    exact
      { measType := (measType_back_iff _).mp ⟨typeAsn, typeTaken, typeBack⟩
        count := count
        matchingCondLst := kept
        binRangeDef := (optional_kept_iff binRangeDef_back_iff).mp ⟨bins, binsTaken, binsBack⟩ }
  · rintro ⟨typeKept, count, kept, binsKept⟩
    obtain ⟨typeAsn, typeTaken, typeBack⟩ := (measType_back_iff measType).mpr typeKept
    obtain ⟨conds, taken, back⟩ := (within_kept_iff matchingCond_back_iff).mpr ⟨count, kept⟩
    obtain ⟨bins, binsTaken, binsBack⟩ := (optional_kept_iff binRangeDef_back_iff).mpr binsKept
    exact ⟨_, ⟨typeAsn, typeTaken, conds, taken, bins, binsTaken, rfl⟩, matchingCondLst, back,
      binRangeDef, binsBack, typeBack, rfl, rfl⟩

@[simp] theorem measRecord_back (src : MeasRecord) : decMeasRecord (encMeasRecord src) = src := by
  cases src with
  | integer value => simp [encMeasRecord, decMeasRecord]
  | real value => rfl
  | noValue => rfl

def MeasDataKept (src : MeasData) : Prop :=
  1 ≤ src.measRecordLst.length ∧ src.measRecordLst.length ≤ maxnoofMeasurementValue

theorem measData_back_iff (src : MeasData) :
    (encMeasData src >>= decMeasData) = .ok src ↔ MeasDataKept src := by
  obtain ⟨measRecordLst, incompleteFlag⟩ := src
  simp only [encMeasData, decMeasData, bind_eq_ok, check_eq_ok, pure_eq_ok]
  constructor
  · rintro ⟨_, ⟨_, count, -⟩, -⟩
    exact count
  · intro count
    refine ⟨_, ⟨(), count, rfl⟩, (), ?_, (), flag_zero incompleteFlag, ?_⟩
    · rw [List.length_map]
      exact count
    · rw [map_map_self_iff.mpr fun record _ => measRecord_back record, flag_back]

end FlexRic.Kpm
