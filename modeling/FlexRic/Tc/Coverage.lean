import FlexRic.Library.Coverage
import FlexRic.Tc.Control
import FlexRic.Tc.Indication

/-! # What the readers of the traffic control service model need

No reader compares a number of priorities, of filters or of queues with the bytes that are
left. That something is left is asserted in between, when it is late.
-/

namespace FlexRic.Tc

open Wire
open Cover (skip word counted many tagged left)

theorem overrun : Overrun .short := rfl

theorem unknown : ¬Overrun .unknownTag := by
  intro absurd
  cases absurd

theorem outOfChunk : ¬Overrun .outOfChunk := by
  intro absurd
  cases absurd

theorem mismatch : ¬Overrun .mismatch := by
  intro absurd
  cases absurd

theorem u32_covered : Covered Overrun readU32 (skip 4) := readU32_takes.covered overrun

theorem decDummy_takes : Wire.Takes decDummy 4 := readU32_takes.bind fun _ => pure_takes _

theorem decDummy_covered : Covered Overrun decDummy (skip 4) := decDummy_takes.covered overrun

theorem decOsiFilter_takes : Wire.Takes decOsiFilter sizeofOsiFilter :=
  readU32_takes.bind fun _ => readU32_takes.bind fun _ => readI64_takes.bind fun _ =>
    readI64_takes.bind fun _ => readI32_takes.bind fun _ => readI32_takes.bind fun _ =>
      readI32_takes.bind fun _ => decDummy_takes.bind fun _ => readI32_takes.bind fun _ =>
        readU32_takes.bind fun _ => pure_takes _

def schPrioCover : Cover := counted (skip 4)

theorem decSchPrio_covered : Covered Overrun decSchPrio schPrioCover := u32_covered.counted overrun

/-- Nothing comes behind the tag of a round robin. -/
def schCover : Cover := tagged fun
  | SchE.rr => id
  | SchE.prio => schPrioCover

theorem tcDecSch_covered : Covered Overrun tcDecSch schCover := by
  apply Covered.tagged overrun unknown
  intro type
  cases type with
  | rr => exact pure_covered _
  | prio => exact decSchPrio_covered.last Sch.prio

theorem tcDecMtr_takes : Wire.Takes tcDecMtr 8 :=
  readU32_takes.bind fun _ => readU32_takes.bind fun _ => pure_takes _

theorem tcDecPcr_takes : Wire.Takes tcDecPcr 16 :=
  readU32_takes.bind fun _ => readU32_takes.bind fun _ => tcDecMtr_takes.bind fun _ => pure_takes _

def clsCover : Cover := tagged fun
  | ClsE.rr => skip 4
  | ClsE.osi => counted (skip sizeofOsiFilter)
  | ClsE.sto => skip 4

theorem tcDecClsOsi_covered : Covered Overrun tcDecClsOsi (counted (skip sizeofOsiFilter)) :=
  (decOsiFilter_takes.covered overrun).counted overrun

theorem tcDecCls_covered : Covered Overrun tcDecCls clsCover := by
  apply Covered.tagged overrun unknown
  intro type
  cases type with
  | rr => exact decDummy_covered.last Cls.rr
  | osi => exact tcDecClsOsi_covered.last Cls.osi
  | sto => exact decDummy_covered.last Cls.sto

theorem tcDecShp_takes : Wire.Takes tcDecShp 20 :=
  readU32_takes.bind fun _ => readU32_takes.bind fun _ => readU32_takes.bind fun _ =>
    tcDecMtr_takes.bind fun _ => pure_takes _

theorem tcDecDrp_takes : Wire.Takes tcDecDrp 4 := readU32_takes.bind fun _ => pure_takes _

theorem tcDecMrk_takes : Wire.Takes tcDecMrk 4 := readU32_takes.bind fun _ => pure_takes _

theorem tcDecPlc_takes : Wire.Takes tcDecPlc 36 :=
  readU32_takes.bind fun _ => tcDecMtr_takes.bind fun _ => tcDecDrp_takes.bind fun _ =>
    tcDecMrk_takes.bind fun _ => readU32_takes.bind fun _ => readU32_takes.bind fun _ =>
      readU32_takes.bind fun _ => readU32_takes.bind fun _ => pure_takes _

theorem decQueueStats_takes {κ : Type} {dec : Reader κ} (count : Wire.Takes dec 4) :
    Wire.Takes (decQueueStats dec) 32 :=
  readU32_takes.bind fun _ => readU32_takes.bind fun _ => readU32_takes.bind fun _ =>
    readU32_takes.bind fun _ => count.bind fun _ => readU32_takes.bind fun _ =>
      readI64_takes.bind fun _ => pure_takes _

/-- Behind each tag comes the same. -/
def qCover : Cover := tagged fun (_ : QueueE) => skip 32

theorem tcDecQ_covered : Covered Overrun tcDecQ qCover := by
  have dropped := (decQueueStats_takes tcDecDrp_takes).covered overrun
  have marked := (decQueueStats_takes tcDecMrk_takes).covered overrun
  apply Covered.tagged overrun unknown
  intro type
  cases type with
  | fifo => exact dropped.last fun fifo => Queue.mk 0 (.fifo fifo)
  | codel => exact dropped.last fun codel => Queue.mk 0 (.codel codel)
  | ecnCodel => exact marked.last fun ecn => Queue.mk 0 (.ecn ecn)

def qShpPlcCover : Cover := skip 20 ∘ left ∘ skip 36 ∘ left ∘ qCover ∘ left

theorem more_left : Covered Overrun more left := more_covered outOfChunk

theorem decQShpPlc_covered : Covered Overrun decQShpPlc qShpPlcCover :=
  (tcDecShp_takes.covered overrun).bind fun shp => more_left.bind fun _ =>
    (tcDecPlc_takes.covered overrun).bind fun plc => more_left.bind fun _ =>
      tcDecQ_covered.bind fun q => more_left.last fun _ => QShpPlc.mk shp plc q

/-- Before the queues something has to be left. -/
def queuesCover : Cover := word fun lenQ => left ∘ many qShpPlcCover lenQ.toNat ∘ skip 8

def indMsgCover : Cover := schCover ∘ left ∘ skip 16 ∘ left ∘ clsCover ∘ left ∘ queuesCover

theorem tcDecIndMsg_covered : Covered Overrun tcDecIndMsg indMsgCover :=
  tcDecSch_covered.bind fun sch => more_left.bind fun _ =>
    (tcDecPcr_takes.covered overrun).bind fun pcr => more_left.bind fun _ =>
      tcDecCls_covered.bind fun cls => more_left.bind fun _ =>
        Covered.word overrun fun lenQ => more_left.bind fun _ =>
          (decQShpPlc_covered.many lenQ.toNat).bind fun qShpPlc =>
            (readI64_takes.covered overrun).last fun tstamp =>
              IndMsg.mk sch pcr cls lenQ (qShpPlc.map QShpPlc.shp) (qShpPlc.map QShpPlc.plc)
                (qShpPlc.map QShpPlc.q) tstamp

/-- An action, and what it needs. -/
def ctrlCover (add del mod : Cover) : Cover := tagged fun
  | CtrlActE.add => add
  | CtrlActE.del => del
  | CtrlActE.mod => mod

theorem decCtrl_covered {α δ μ : Type} {decAdd : Reader α} {decDel : Reader δ} {decMod : Reader μ}
    {add del mod : Cover} (addCovered : Covered Overrun decAdd add)
    (delCovered : Covered Overrun decDel del) (modCovered : Covered Overrun decMod mod) :
    Covered Overrun (decCtrl decAdd decDel decMod) (ctrlCover add del mod) := by
  apply Covered.tagged overrun unknown
  intro act
  cases act with
  | add => exact addCovered.last Ctrl.add
  | del => exact delCovered.last Ctrl.del
  | mod => exact modCovered.last Ctrl.mod

def ctrlClsOfCover (osi : Nat) : Cover := tagged fun
  | ClsE.rr => skip 4
  | ClsE.osi => skip osi
  | ClsE.sto => skip 4

theorem decCtrlClsOf_covered {ο : Type} {decOsi : Reader ο} {osi : Nat}
    (takes : Wire.Takes decOsi osi) :
    Covered Overrun (decCtrlClsOf decOsi) (ctrlClsOfCover osi) := by
  apply Covered.tagged overrun unknown
  intro type
  cases type with
  | rr => exact decDummy_covered.last CtrlClsOf.rr
  | osi => exact (takes.covered overrun).last CtrlClsOf.osi
  | sto => exact decDummy_covered.last CtrlClsOf.sto

theorem addClsOsi_takes : Wire.Takes decTcAddCtrlPayloadClsOsi 32 :=
  readI64_takes.bind fun _ => readI64_takes.bind fun _ => readI32_takes.bind fun _ =>
    readI32_takes.bind fun _ => readI32_takes.bind fun _ => readI32_takes.bind fun _ =>
      pure_takes _

theorem delClsOsi_takes : Wire.Takes decTcDelCtrlPayloadClsOsi 4 :=
  readU32_takes.bind fun _ => pure_takes _

theorem modClsOsi_takes : Wire.Takes decTcModCtrlPayloadClsOsi sizeofOsiFilter :=
  decOsiFilter_takes.bind fun _ => pure_takes _

def ctrlClsCover : Cover :=
  ctrlCover (ctrlClsOfCover 32) (ctrlClsOfCover 4) (ctrlClsOfCover sizeofOsiFilter)

theorem ctrlCls_covered : Covered Overrun decTcCtrlPayloadCls ctrlClsCover :=
  decCtrl_covered (decCtrlClsOf_covered addClsOsi_takes) (decCtrlClsOf_covered delClsOsi_takes)
    (decCtrlClsOf_covered modClsOsi_takes)

theorem decDelById_takes : Wire.Takes decDelById 4 := readU32_takes.bind fun _ => pure_takes _

theorem modPlc_takes : Wire.Takes decTcModCtrlPayloadPlc 20 :=
  readU32_takes.bind fun _ => readU32_takes.bind fun _ => readU32_takes.bind fun _ =>
    readU32_takes.bind fun _ => readU32_takes.bind fun _ => pure_takes _

def ctrlPlcCover : Cover := ctrlCover (skip 4) (skip 4) (skip 20)

theorem ctrlPlc_covered : Covered Overrun decTcCtrlPayloadPlc ctrlPlcCover :=
  decCtrl_covered decDummy_covered (decDelById_takes.covered overrun)
    (modPlc_takes.covered overrun)

theorem qCodel_takes : Wire.Takes decTcCtrlPayloadQCodel 8 :=
  readU32_takes.bind fun _ => readU32_takes.bind fun _ => pure_takes _

def addQCover : Cover := tagged fun
  | QueueE.fifo => skip 4
  | QueueE.codel => skip 8
  | QueueE.ecnCodel => skip 8

theorem addQ_covered : Covered Overrun decTcAddCtrlPayloadQ addQCover := by
  apply Covered.tagged overrun unknown
  intro type
  cases type with
  | fifo => exact decDummy_covered.last AddCtrlQueue.fifo
  | codel => exact (qCodel_takes.covered overrun).last AddCtrlQueue.codel
  | ecnCodel => exact (qCodel_takes.covered overrun).last AddCtrlQueue.ecn

theorem modQ_covered : Covered Overrun decTcModCtrlPayloadQ (skip 4 ∘ addQCover) :=
  u32_covered.bind fun id => addQ_covered.last fun queue => ModCtrlQueue.mk id queue

theorem delQ_takes : Wire.Takes decTcDelCtrlPayloadQ 8 :=
  readU32_takes.bind fun _ => readU32_takes.bind fun _ => pure_takes _

def ctrlQCover : Cover := ctrlCover addQCover (skip 8) (skip 4 ∘ addQCover)

theorem ctrlQ_covered : Covered Overrun decTcCtrlPayloadQ ctrlQCover :=
  decCtrl_covered addQ_covered (delQ_takes.covered overrun) modQ_covered

def modSchCover : Cover := tagged fun
  | SchE.rr => skip 4
  | SchE.prio => schPrioCover

theorem modSch_covered : Covered Overrun decTcModCtrlPayloadSch modSchCover := by
  apply Covered.tagged overrun unknown
  intro type
  cases type with
  | rr => exact decDummy_covered.last ModCtrlSch.rr
  | prio => exact decSchPrio_covered.last ModCtrlSch.prio

def ctrlSchCover : Cover := ctrlCover (skip 4) (skip 4) modSchCover

theorem ctrlSch_covered : Covered Overrun decTcCtrlPayloadSch ctrlSchCover :=
  decCtrl_covered decDummy_covered decDummy_covered modSch_covered

theorem modShp_takes : Wire.Takes decTcModCtrlPayloadShp 16 :=
  readU32_takes.bind fun _ => readU32_takes.bind fun _ => readU32_takes.bind fun _ =>
    readU32_takes.bind fun _ => pure_takes _

def ctrlShpCover : Cover := ctrlCover (skip 4) (skip 4) (skip 16)

theorem ctrlShp_covered : Covered Overrun decTcCtrlPayloadShp ctrlShpCover :=
  decCtrl_covered decDummy_covered (decDelById_takes.covered overrun)
    (modShp_takes.covered overrun)

theorem modPcrBdp_takes : Wire.Takes decTcModCtrlPayloadPcrBdp 12 :=
  readU32_takes.bind fun _ => readI64_takes.bind fun _ => pure_takes _

def modPcrCover : Cover := tagged fun
  | PcrE.dummy => skip 4
  | PcrE.bdp5g => skip 12

theorem modPcr_covered : Covered Overrun decTcModCtrlPayloadPcr modPcrCover := by
  apply Covered.tagged overrun unknown
  intro type
  cases type with
  | dummy => exact decDummy_covered.last ModCtrlPcr.dummy
  | bdp5g => exact (modPcrBdp_takes.covered overrun).last ModCtrlPcr.bdp

def ctrlPcrCover : Cover := ctrlCover (skip 4) (skip 4) modPcrCover

theorem ctrlPcr_covered : Covered Overrun decTcCtrlPayloadPcr ctrlPcrCover :=
  decCtrl_covered decDummy_covered decDummy_covered modPcr_covered

def ctrlMsgCover : Cover := tagged fun
  | CtrlMsgE.cls => ctrlClsCover
  | CtrlMsgE.plc => ctrlPlcCover
  | CtrlMsgE.queue => ctrlQCover
  | CtrlMsgE.sch => ctrlSchCover
  | CtrlMsgE.shp => ctrlShpCover
  | CtrlMsgE.pcr => ctrlPcrCover

theorem tcDecCtrlMsg_covered : Covered Overrun tcDecCtrlMsg ctrlMsgCover := by
  apply Covered.tagged overrun unknown
  intro type
  cases type with
  | cls => exact ctrlCls_covered.last CtrlMsg.cls
  | plc => exact ctrlPlc_covered.last CtrlMsg.plc
  | queue => exact ctrlQ_covered.last CtrlMsg.q
  | sch => exact ctrlSch_covered.last CtrlMsg.sch
  | shp => exact ctrlShp_covered.last CtrlMsg.shp
  | pcr => exact ctrlPcr_covered.last CtrlMsg.pcr

end FlexRic.Tc
