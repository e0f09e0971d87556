import FlexRic.Library.Coverage
import FlexRic.Slice.Messages

/-! # What the readers of the slice service model need

No reader compares a number of slices, of UEs or of characters with the bytes that are left.
A reader stays inside just where the payload covers all that it announces.
-/

namespace FlexRic.Slice

open Wire
open Cover (skip word counted never tagged)

theorem overrun : Astray .short := .inl rfl

theorem unknown : ¬Astray .unknownTag := by
  rintro (absurd | absurd) <;> cases absurd

theorem mismatch : ¬Astray .mismatch := by
  rintro (absurd | absurd) <;> cases absurd

/-- A string, but not one of the greatest length, for which no room is made. -/
def stringCover : Cover := word fun len =>
  if len ≠ 0 ∧ len + 1 = 0 then never else skip len.toNat

def nvsCover : Cover := tagged fun
  | NvsSliceConf.rate => skip 8
  | NvsSliceConf.capacity => skip 4

def scn19Cover : Cover := tagged fun
  | Scn19SliceConf.dynamic => skip 8
  | Scn19SliceConf.fixed => skip 8
  | Scn19SliceConf.onDemand => skip 12

def edfCover : Cover := skip 4 ∘ skip 4 ∘ skip 4 ∘ counted (skip 4)

def paramsCover : Cover := tagged fun
  | SliceAlgorithm.static => skip 8
  | SliceAlgorithm.nvs => nvsCover
  | SliceAlgorithm.scn19 => scn19Cover
  | SliceAlgorithm.edf => edfCover

def sliceCover : Cover := skip 4 ∘ stringCover ∘ stringCover ∘ paramsCover

def ulDlCover : Cover := stringCover ∘ counted sliceCover

def sliceConfCover : Cover := ulDlCover ∘ ulDlCover

def ueSliceConfCover : Cover := counted (skip 10)

def delSliceCover : Cover := counted (skip 4) ∘ counted (skip 4)

def indMsgCover : Cover := sliceConfCover ∘ ueSliceConfCover ∘ skip 8

def ctrlMsgCover : Cover := tagged fun
  | SliceCtrlMsgType.add => sliceConfCover
  | SliceCtrlMsgType.del => delSliceCover
  | SliceCtrlMsgType.ueSliceAssoc => ueSliceConfCover

def ctrlOutCover : Cover := counted (skip 1)

theorem readString_covered : Covered Astray readString stringCover := by
  apply Covered.word overrun
  intro len
  split
  case isTrue => exact bad_covered (.inr rfl)
  case isFalse => exact ((readMany_u8_takes len.toNat).covered overrun).last (Counted.mk len)

theorem fillStatic_takes : Wire.Takes Dec.fillStatic 8 :=
  readU32_takes.bind fun _ => readU32_takes.bind fun _ => pure_takes _

theorem fillRate_takes : Wire.Takes Dec.fillRate 8 :=
  readU32_takes.bind fun _ => readU32_takes.bind fun _ => pure_takes _

theorem fillCapacity_takes : Wire.Takes Dec.fillCapacity 4 :=
  readU32_takes.bind fun _ => pure_takes _

theorem fillOnDemand_takes : Wire.Takes Dec.fillOnDemand 12 :=
  readU32_takes.bind fun _ => readU32_takes.bind fun _ => readU32_takes.bind fun _ => pure_takes _

theorem fillUeSliceAssoc_takes : Wire.Takes Dec.fillUeSliceAssoc 10 :=
  readU32_takes.bind fun _ => readU32_takes.bind fun _ => readU16_takes.bind fun _ => pure_takes _

theorem fillNvs_covered : Covered Astray Dec.fillNvs nvsCover := by
  apply Covered.tagged overrun unknown
  intro conf
  cases conf with
  | rate => exact (fillRate_takes.covered overrun).last NvsSlice.rate
  | capacity => exact (fillCapacity_takes.covered overrun).last NvsSlice.capacity

theorem fillScn19_covered : Covered Astray Dec.fillScn19 scn19Cover := by
  apply Covered.tagged overrun unknown
  intro conf
  cases conf with
  | dynamic => exact (fillRate_takes.covered overrun).last Scn19Slice.dynamic
  | fixed => exact (fillStatic_takes.covered overrun).last Scn19Slice.fixed
  | onDemand => exact (fillOnDemand_takes.covered overrun).last Scn19Slice.onDemand

theorem u32_covered : Covered Astray readU32 (skip 4) := readU32_takes.covered overrun

theorem u32s_covered : Covered Astray (readCounted readU32) (counted (skip 4)) :=
  u32_covered.counted overrun

theorem fillEdf_covered : Covered Astray Dec.fillEdf edfCover :=
  u32_covered.bind fun deadline => u32_covered.bind fun guaranteedPrbs =>
    u32_covered.bind fun maxReplenish => u32s_covered.last fun overIds =>
      EdfSlice.mk deadline guaranteedPrbs maxReplenish overIds

theorem fillParams_covered : Covered Astray Dec.fillParams paramsCover := by
  apply Covered.tagged overrun unknown
  intro algorithm
  cases algorithm with
  | static => exact (fillStatic_takes.covered overrun).last SliceParams.sta
  | nvs => exact fillNvs_covered.last SliceParams.nvs
  | scn19 => exact fillScn19_covered.last SliceParams.scn19
  | edf => exact fillEdf_covered.last SliceParams.edf

theorem fillSlice_covered : Covered Astray Dec.fillSlice sliceCover :=
  u32_covered.bind fun id => readString_covered.bind fun label =>
    readString_covered.bind fun sched => fillParams_covered.last fun params =>
      FrSlice.mk id label sched params

theorem fillUlDlSliceConf_covered : Covered Astray Dec.fillUlDlSliceConf ulDlCover :=
  readString_covered.bind fun schedName => (fillSlice_covered.counted overrun).last fun slices =>
    UlDlSliceConf.mk slices schedName

theorem fillSliceConf_covered : Covered Astray Dec.fillSliceConf sliceConfCover :=
  fillUlDlSliceConf_covered.bind fun dl => fillUlDlSliceConf_covered.last fun ul =>
    SliceConf.mk dl ul

theorem fillUeSliceConf_covered : Covered Astray Dec.fillUeSliceConf ueSliceConfCover :=
  (fillUeSliceAssoc_takes.covered overrun).counted overrun

theorem fillDelSlice_covered : Covered Astray Dec.fillDelSlice delSliceCover :=
  u32s_covered.bind fun dl => u32s_covered.last fun ul => DelSliceConf.mk dl ul

theorem indMsg_covered : Covered Astray Dec.indMsg indMsgCover :=
  fillSliceConf_covered.bind fun sliceConf => fillUeSliceConf_covered.bind fun ueSliceConf =>
    (readI64_takes.covered overrun).last fun tstamp =>
      SliceIndMsg.mk sliceConf ueSliceConf tstamp

theorem ctrlMsg_covered : Covered Astray Dec.ctrlMsg ctrlMsgCover := by
  apply Covered.tagged overrun unknown
  intro type
  cases type with
  | add => exact fillSliceConf_covered.last SliceCtrlMsg.addModSlice
  | del => exact fillDelSlice_covered.last SliceCtrlMsg.delSlice
  | ueSliceAssoc => exact fillUeSliceConf_covered.last SliceCtrlMsg.ueSlice

theorem ctrlOut_covered : Covered Astray Dec.ctrlOut ctrlOutCover :=
  ((readU8_takes.covered overrun).counted overrun).last fun diagnostic =>
    SliceCtrlOut.mk .ok diagnostic

end FlexRic.Slice
