import FlexRic.Tc.Indication
import FlexRic.Util.EqFloat

/-! # Equality and copies of traffic control messages

A message that differs stops the process, unless the difference is in a field that is not
compared. A copy leaves some of these fields out, and is compared with what was copied.
-/

namespace FlexRic.Tc

open Wire

/-- The tolerance of the meters and of the rates. -/
def hundredth : Float := 0.01

/-- The tolerance of the sojourn times. -/
def thousandth : Float := 0.001

def eqTcSchPrio (m0 m1 : SchPrio) : Bool :=
  m0.len = m1.len && m0.items.toList = m1.items.toList

/-- Any two round robins are equal. -/
def eqTcSch : Sch → Sch → Bool
  | .rr _, .rr _ => true
  | .prio m0, .prio m1 => eqTcSchPrio m0 m1
  | _, _ => false

def eqTcMtr (m0 m1 : Mtr) : Except Abort Bool :=
  both (pure (m0.timeWindowMs = m1.timeWindowMs)) <|
    eqFloat (.ofBits m0.bnd) (.ofBits m1.bnd) hundredth

def eqTcPcr (m0 m1 : Pcr) : Except Abort Bool :=
  both (pure (m0.type = m1.type)) <| both (pure (m0.id = m1.id)) <| eqTcMtr m0.mtr m1.mtr

def eqL3Filter (m0 m1 : L3Filter) : Bool := m0.srcAddr = m1.srcAddr && m0.dstAddr = m1.dstAddr

def eqL4Filter (m0 m1 : L4Filter) : Bool :=
  m0.srcPort = m1.srcPort && m0.dstPort = m1.dstPort && m0.protocol = m1.protocol

/-- The seventh layer is not compared. -/
def eqTcClsOsiFilter (m0 m1 : OsiFilter) : Bool :=
  m0.id = m1.id && eqL3Filter m0.l3 m1.l3 && eqL4Filter m0.l4 m1.l4 && m0.dstQueue = m1.dstQueue

def eqTcClsOsi (m0 m1 : ClsOsi) : Bool :=
  m0.len = m1.len &&
    (m0.items.toList.zip m1.items.toList).all fun flts => eqTcClsOsiFilter flts.1 flts.2

def eqTcCls : Cls → Cls → Bool
  | .rr m0, .rr m1 => m0.dummy = m1.dummy
  | .osi m0, .osi m1 => eqTcClsOsi m0 m1
  | .sto m0, .sto m1 => m0.dummy = m1.dummy
  | _, _ => false

/-- The rate is not compared. -/
def eqTcShp (m0 m1 : Shp) : Except Abort Bool :=
  both (pure (m0.id = m1.id)) <| both (pure (m0.active = m1.active)) <| eqTcMtr m0.mtr m1.mtr

def eqTcDrp (m0 m1 : Drp) : Bool := m0.droppedPkts = m1.droppedPkts

def eqTcMrk (m0 m1 : Mrk) : Bool := m0.markedPkts = m1.markedPkts

def eqTcPlc (m0 m1 : Plc) : Except Abort Bool :=
  both (pure (m0.id = m1.id)) <|
  both (eqTcMtr m0.mtr m1.mtr) <|
  both (pure (eqTcDrp m0.drp m1.drp)) <|
  both (pure (eqTcMrk m0.mrk m1.mrk)) <|
  both (eqFloat (.ofBits m0.maxRateKbps) (.ofBits m1.maxRateKbps) hundredth) <|
    pure (m0.active = m1.active && m0.dstId = m1.dstId && m0.devId = m1.devId)

/-- `eq_tc_queue_fifo`, `eq_tc_queue_codel` and `eq_tc_queue_ecn_codel`, each with its count. The
    last sojourn time is not compared. -/
def eqTcQueueStats {κ : Type} (eqCount : κ → κ → Bool) (m0 m1 : QueueStats κ) :
    Except Abort Bool :=
  both (pure (eqCount m0.count m1.count)) <|
  both (eqFloat (.ofBits m0.avgSojournTime) (.ofBits m1.avgSojournTime) thousandth) <|
    pure (m0.bytes = m1.bytes && m0.pkts = m1.pkts && m0.bytesFwd = m1.bytesFwd &&
      m0.pktsFwd = m1.pktsFwd)

def eqTcQKind : QueueKind → QueueKind → Except Abort Bool
  | .fifo m0, .fifo m1 => eqTcQueueStats eqTcDrp m0 m1
  | .codel m0, .codel m1 => eqTcQueueStats eqTcDrp m0 m1
  | .ecn m0, .ecn m1 => eqTcQueueStats eqTcMrk m0 m1
  | _, _ => pure false

/-- The ids are not compared. -/
def eqTcQ (m0 m1 : Queue) : Except Abort Bool := eqTcQKind m0.kind m1.kind

/-- A turn of the loop of `eq_tc_ind_msg`. -/
def eqShpPlcQ (e0 e1 : QShpPlc) : Except Abort Unit := do
  orAbort (eqTcShp e0.shp e1.shp)
  orAbort (eqTcPlc e0.plc e1.plc)
  orAbort (eqTcQ e0.q e1.q)

def eqTcIndMsg (m0 m1 : IndMsg) : Except Abort Bool := do
  orAbort (pure (m0.tstamp = m1.tstamp))
  orAbort (pure (eqTcSch m0.sch m1.sch))
  orAbort (eqTcPcr m0.pcr m1.pcr)
  orAbort (pure (eqTcCls m0.cls m1.cls))
  orAbort (pure (m0.lenQ = m1.lenQ))
  eachPair eqShpPlcQ m0.qShpPlc.toList m1.qShpPlc.toList
  pure true

def cpTcSchPrio (src : SchPrio) : SchPrio where
  len := src.len
  items := src.items

def cpTcSch : Sch → Sch
  | .rr src => .rr ⟨src.dummy⟩
  | .prio src => .prio (cpTcSchPrio src)

def cpTcMtr (src : Mtr) : Mtr where
  bnd := src.bnd
  timeWindowMs := src.timeWindowMs

def cpTcPcr (src : Pcr) : Pcr where
  type := src.type
  id := src.id
  mtr := cpTcMtr src.mtr

def cpL3Filter (src : L3Filter) : L3Filter where
  srcAddr := src.srcAddr
  dstAddr := src.dstAddr

def cpL4Filter (src : L4Filter) : L4Filter where
  srcPort := src.srcPort
  dstPort := src.dstPort
  protocol := src.protocol

/-- Of the seventh layer nothing is copied. -/
def cpTcClsOsiFilter (src : OsiFilter) : OsiFilter where
  id := src.id
  padL3 := 0
  l3 := cpL3Filter src.l3
  l4 := cpL4Filter src.l4
  l7 := ⟨0⟩
  dstQueue := src.dstQueue
  padEnd := 0

def cpTcClsOsi (src : ClsOsi) : ClsOsi where
  len := src.len
  items := src.items.map cpTcClsOsiFilter

def cpTcCls : Cls → Cls
  | .rr src => .rr ⟨src.dummy⟩
  | .osi src => .osi (cpTcClsOsi src)
  | .sto src => .sto ⟨src.dummy⟩

def cpTcDrp (src : Drp) : Drp where
  droppedPkts := src.droppedPkts

def cpTcMrk (src : Mrk) : Mrk where
  markedPkts := src.markedPkts

/-- The last sojourn time is not copied. -/
def cpTcQueueStats {κ : Type} (cpCount : κ → κ) (src : QueueStats κ) : QueueStats κ where
  bytes := src.bytes
  pkts := src.pkts
  bytesFwd := src.bytesFwd
  pktsFwd := src.pktsFwd
  count := cpCount src.count
  avgSojournTime := src.avgSojournTime
  lastSojournTime := 0

def cpTcQueueKind : QueueKind → QueueKind
  | .fifo src => .fifo (cpTcQueueStats cpTcDrp src)
  | .codel src => .codel (cpTcQueueStats cpTcDrp src)
  | .ecn src => .ecn (cpTcQueueStats cpTcMrk src)

/-- The id is not copied. -/
def cpTcQueue (src : Queue) : Queue where
  id := 0
  kind := cpTcQueueKind src.kind

/-- The rate is not copied. -/
def cpTcShp (src : Shp) : Except Abort Shp := do
  check (src.active = 0 ∨ src.active = 1) .active
  pure { id := src.id, active := src.active, maxRateKbps := 0, mtr := cpTcMtr src.mtr }

def cpTcPlc (src : Plc) : Except Abort Plc := do
  check (src.active = 0 ∨ src.active = 1) .active
  pure {
    id := src.id
    mtr := cpTcMtr src.mtr
    drp := cpTcDrp src.drp
    mrk := cpTcMrk src.mrk
    maxRateKbps := src.maxRateKbps
    active := src.active
    dstId := src.dstId
    devId := src.devId }

/-- A turn of the loop of `cp_tc_shp_q_plc`. -/
def cpShpQPlc (src : QShpPlc) : Except Abort QShpPlc := do
  let shp ← cpTcShp src.shp
  let plc ← cpTcPlc src.plc
  pure { shp, plc, q := cpTcQueue src.q }

/-- The loop of `cp_tc_shp_q_plc`. -/
def cpShpQPlcs : (n : Nat) → List.Vector QShpPlc n → Except Abort (List.Vector QShpPlc n)
  | 0, _ => pure .nil
  | n + 1, es => do
      let e ← cpShpQPlc es.head
      let rest ← cpShpQPlcs n es.tail
      pure (e ::ᵥ rest)

/-- The copy, before it is compared. -/
def copyOf (src : IndMsg) : Except Abort IndMsg := do
  let es ← cpShpQPlcs src.lenQ.toNat src.qShpPlc
  pure {
    sch := cpTcSch src.sch
    pcr := cpTcPcr src.pcr
    cls := cpTcCls src.cls
    lenQ := src.lenQ
    shp := es.map QShpPlc.shp
    plc := es.map QShpPlc.plc
    q := es.map QShpPlc.q
    tstamp := src.tstamp }

def cpTcIndMsg (src : IndMsg) : Except Abort IndMsg := do
  let dst ← copyOf src
  let same ← eqTcIndMsg src dst
  check (same = true) .copy
  pure dst

end FlexRic.Tc
