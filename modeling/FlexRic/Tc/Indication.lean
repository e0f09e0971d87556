import FlexRic.Tc.Parts

/-! # The indication message of the traffic control service model -/

namespace FlexRic.Tc

open Wire

/-- `tc_sch_t`. -/
inductive Sch where
  | rr (rr : Dummy)
  | prio (prio : SchPrio)

def Sch.type : Sch → SchE
  | .rr _ => .rr
  | .prio _ => .prio

/-- `tc_mtr_t`. -/
structure Mtr where
  timeWindowMs : UInt32
  bnd : FloatBits
  deriving DecidableEq

/-- `tc_pcr_t`. Neither side looks at the type. -/
structure Pcr where
  type : UInt32
  id : UInt32
  mtr : Mtr
  deriving DecidableEq

/-- `tc_cls_osi_t`. -/
abbrev ClsOsi := Counted OsiFilter

/-- `tc_cls_t`. -/
inductive Cls where
  | rr (rr : Dummy)
  | osi (osi : ClsOsi)
  | sto (sto : Dummy)

def Cls.type : Cls → ClsE
  | .rr _ => .rr
  | .osi _ => .osi
  | .sto _ => .sto

/-- `tc_shp_t`. -/
structure Shp where
  id : UInt32
  active : UInt32
  maxRateKbps : UInt32
  mtr : Mtr
  deriving DecidableEq

/-- `tc_drp_t`. -/
structure Drp where
  droppedPkts : UInt32
  deriving DecidableEq

/-- `tc_mrk_t`. -/
structure Mrk where
  markedPkts : UInt32
  deriving DecidableEq

/-- `tc_plc_t`. -/
structure Plc where
  id : UInt32
  mtr : Mtr
  drp : Drp
  mrk : Mrk
  maxRateKbps : FloatBits
  active : UInt32
  dstId : UInt32
  devId : UInt32
  deriving DecidableEq

/-- `tc_queue_fifo_t` and `tc_queue_codel_t` count the packets they drop,
    `tc_queue_ecn_codel_t` those it marks. They are alike otherwise. -/
structure QueueStats (κ : Type) where
  bytes : UInt32
  pkts : UInt32
  bytesFwd : UInt32
  pktsFwd : UInt32
  count : κ
  avgSojournTime : FloatBits
  lastSojournTime : Int64
  deriving DecidableEq

/-- The union of `tc_queue_t`. -/
inductive QueueKind where
  | fifo (fifo : QueueStats Drp)
  | codel (codel : QueueStats Drp)
  | ecn (ecn : QueueStats Mrk)
  deriving DecidableEq

def QueueKind.type : QueueKind → QueueE
  | .fifo _ => .fifo
  | .codel _ => .codel
  | .ecn _ => .ecnCodel

/-- `tc_queue_t`. -/
structure Queue where
  id : UInt32
  kind : QueueKind
  deriving DecidableEq

/-- `tc_ind_msg_t`. Its three arrays have one length. -/
structure IndMsg where
  sch : Sch
  pcr : Pcr
  cls : Cls
  lenQ : UInt32
  shp : List.Vector Shp lenQ.toNat
  plc : List.Vector Plc lenQ.toNat
  q : List.Vector Queue lenQ.toNat
  tstamp : Int64

/-- What the three arrays hold at one index. -/
structure QShpPlc where
  shp : Shp
  plc : Plc
  q : Queue

def IndMsg.qShpPlc (m : IndMsg) : List.Vector QShpPlc m.lenQ.toNat :=
  List.Vector.zipWith (fun shp plcQ => { shp, plc := plcQ.1, q := plcQ.2 }) m.shp
    (List.Vector.zipWith Prod.mk m.plc m.q)

def calSchPayload : Sch → Nat
  | .rr _ => 4
  | .prio p => 4 + calSchPrio p

def calMtrPayload (_ : Mtr) : Nat := 4 + 4

def calPcrPayload (pcr : Pcr) : Nat := 4 + 4 + calMtrPayload pcr.mtr

def calClsOsiPayload (osi : ClsOsi) : Nat := 4 + sizeofOsiFilter * osi.len.toNat

def calClsPayload : Cls → Nat
  | .rr rr => 4 + calDummy rr
  | .osi osi => 4 + calClsOsiPayload osi
  | .sto sto => 4 + calDummy sto

def calDrpPayload (_ : Drp) : Nat := 4

def calMrkPayload (_ : Mrk) : Nat := 4

def calQueueStats {κ : Type} (cal : κ → Nat) (q : QueueStats κ) : Nat :=
  4 + 4 + 4 + 4 + cal q.count + 4 + 8

def calQPayload (q : Queue) : Nat :=
  4 + match q.kind with
    | .fifo fifo => calQueueStats calDrpPayload fifo
    | .codel codel => calQueueStats calDrpPayload codel
    | .ecn ecn => calQueueStats calMrkPayload ecn

def calShpPayload (shp : Shp) : Nat := 4 + 4 + 4 + calMtrPayload shp.mtr

def calPlcPayload (plc : Plc) : Nat :=
  4 + calMtrPayload plc.mtr + calDrpPayload plc.drp + calMrkPayload plc.mrk + 4 + 4 + 4 + 4

def calQShpPlc (e : QShpPlc) : Nat :=
  calQPayload e.q + calShpPayload e.shp + calPlcPayload e.plc

def calIndMsgPayload (m : IndMsg) : Nat :=
  calSchPayload m.sch + calPcrPayload m.pcr + calClsPayload m.cls + 4 +
    (m.qShpPlc.toList.map calQShpPlc).sum + 8

/-- Nothing of a round robin is written. -/
def tcEncSch (sch : Sch) : Bytes :=
  tag sch.type ++ match sch with
    | .rr _ => []
    | .prio p => encSchPrio p

def tcEncMtr (mtr : Mtr) : Bytes := u32 mtr.bnd ++ u32 mtr.timeWindowMs

def tcEncPcr (pcr : Pcr) : Bytes := u32 pcr.type ++ u32 pcr.id ++ tcEncMtr pcr.mtr

def tcEncClsOsi (osi : ClsOsi) : Bytes := u32 osi.len ++ writeMany encOsiFilter osi.items

def tcEncCls (cls : Cls) : Bytes :=
  tag cls.type ++ match cls with
    | .rr rr => encDummy rr
    | .osi osi => tcEncClsOsi osi
    | .sto sto => encDummy sto

def tcEncShp (shp : Shp) : Bytes :=
  u32 shp.id ++ u32 shp.active ++ u32 shp.maxRateKbps ++ tcEncMtr shp.mtr

def tcEncDrp (drp : Drp) : Bytes := u32 drp.droppedPkts

def tcEncMrk (mrk : Mrk) : Bytes := u32 mrk.markedPkts

def tcEncPlc (plc : Plc) : Bytes :=
  u32 plc.id ++ tcEncMtr plc.mtr ++ tcEncDrp plc.drp ++ tcEncMrk plc.mrk ++ u32 plc.maxRateKbps ++
    u32 plc.active ++ u32 plc.dstId ++ u32 plc.devId

def encQueueStats {κ : Type} (enc : κ → Bytes) (q : QueueStats κ) : Bytes :=
  u32 q.bytes ++ u32 q.pkts ++ u32 q.bytesFwd ++ u32 q.pktsFwd ++ enc q.count ++
    u32 q.avgSojournTime ++ i64 q.lastSojournTime

/-- The id of the queue is not written. -/
def tcEncQ (q : Queue) : Bytes :=
  tag q.kind.type ++ match q.kind with
    | .fifo fifo => encQueueStats tcEncDrp fifo
    | .codel codel => encQueueStats tcEncDrp codel
    | .ecn ecn => encQueueStats tcEncMrk ecn

/-- Write `part` behind `it`; the place reached is inside the chunk. -/
def advanceIn (sz : Nat) (it part : Bytes) : Except Fault Bytes := do
  check ((it ++ part).length < sz) .outOfChunk
  pure (it ++ part)

def encQShpPlc (sz : Nat) (it : Bytes) (e : QShpPlc) : Except Fault Bytes := do
  let it ← advanceIn sz it (tcEncShp e.shp)
  let it ← advanceIn sz it (tcEncPlc e.plc)
  advanceIn sz it (tcEncQ e.q)

def tcEncIndMsgPlain (m : IndMsg) : Except Fault Bytes := do
  let sz := calIndMsgPayload m
  let it ← advanceIn sz [] (tcEncSch m.sch)
  let it ← advanceIn sz it (tcEncPcr m.pcr)
  let it ← advanceIn sz it (tcEncCls m.cls)
  let it ← advanceIn sz it (u32 m.lenQ)
  let it ← m.qShpPlc.toList.foldlM (encQShpPlc sz) it
  writeAll sz (it ++ i64 m.tstamp)

/-- A round robin stays as `calloc` left it. -/
def tcDecSch : Reader Sch := do
  match ← readTag with
  | SchE.rr => pure (.rr { dummy := 0 })
  | SchE.prio =>
      let prio ← decSchPrio
      pure (.prio prio)

def tcDecMtr : Reader Mtr := do
  let bnd ← readU32
  let timeWindowMs ← readU32
  pure { bnd, timeWindowMs }

def tcDecPcr : Reader Pcr := do
  let type ← readU32
  let id ← readU32
  let mtr ← tcDecMtr
  pure { type, id, mtr }

def tcDecClsOsi : Reader ClsOsi := do
  let len ← readU32
  let items ← readMany decOsiFilter len.toNat
  pure { len, items }

def tcDecCls : Reader Cls := do
  match ← readTag with
  | ClsE.rr =>
      let rr ← decDummy
      pure (.rr rr)
  | ClsE.osi =>
      let osi ← tcDecClsOsi
      pure (.osi osi)
  | ClsE.sto =>
      let sto ← decDummy
      pure (.sto sto)

def tcDecShp : Reader Shp := do
  let id ← readU32
  let active ← readU32
  let maxRateKbps ← readU32
  let mtr ← tcDecMtr
  pure { id, active, maxRateKbps, mtr }

def tcDecDrp : Reader Drp := do
  let droppedPkts ← readU32
  pure { droppedPkts }

def tcDecMrk : Reader Mrk := do
  let markedPkts ← readU32
  pure { markedPkts }

def tcDecPlc : Reader Plc := do
  let id ← readU32
  let mtr ← tcDecMtr
  let drp ← tcDecDrp
  let mrk ← tcDecMrk
  let maxRateKbps ← readU32
  let active ← readU32
  let dstId ← readU32
  let devId ← readU32
  pure { id, mtr, drp, mrk, maxRateKbps, active, dstId, devId }

def decQueueStats {κ : Type} (dec : Reader κ) : Reader (QueueStats κ) := do
  let bytes ← readU32
  let pkts ← readU32
  let bytesFwd ← readU32
  let pktsFwd ← readU32
  let count ← dec
  let avgSojournTime ← readU32
  let lastSojournTime ← readI64
  pure { bytes, pkts, bytesFwd, pktsFwd, count, avgSojournTime, lastSojournTime }

/-- The id of the queue stays as `calloc` left it. -/
def tcDecQ : Reader Queue := do
  match ← readTag with
  | QueueE.fifo =>
      let fifo ← decQueueStats tcDecDrp
      pure { id := 0, kind := .fifo fifo }
  | QueueE.codel =>
      let codel ← decQueueStats tcDecDrp
      pure { id := 0, kind := .codel codel }
  | QueueE.ecnCodel =>
      let ecn ← decQueueStats tcDecMrk
      pure { id := 0, kind := .ecn ecn }

def decQShpPlc : Reader QShpPlc := do
  let shp ← tcDecShp
  more
  let plc ← tcDecPlc
  more
  let q ← tcDecQ
  more
  pure { shp, plc, q }

def tcDecIndMsg : Reader IndMsg := do
  let sch ← tcDecSch
  more
  let pcr ← tcDecPcr
  more
  let cls ← tcDecCls
  more
  let lenQ ← readU32
  more
  let qShpPlc ← readMany decQShpPlc lenQ.toNat
  let tstamp ← readI64
  pure { sch, pcr, cls, lenQ, shp := qShpPlc.map QShpPlc.shp, plc := qShpPlc.map QShpPlc.plc,
         q := qShpPlc.map QShpPlc.q, tstamp }

def tcDecIndMsgPlain (indMsg : Bytes) : Except Fault IndMsg := readAll tcDecIndMsg indMsg

end FlexRic.Tc
