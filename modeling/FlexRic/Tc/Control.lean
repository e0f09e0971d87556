import FlexRic.Tc.Parts

/-! # The control message of the traffic control service model -/

namespace FlexRic.Tc

open Wire

/-! Classifier, policer, queue, scheduler, shaper and pacer are each added, deleted or
modified. -/

/-- `tc_ctrl_act_e`. -/
inductive CtrlActE where
  | add
  | del
  | mod
  deriving DecidableEq, Repr

instance : Tag CtrlActE where
  code
    | .add => 0
    | .del => 1
    | .mod => 2
  ofCode v :=
    if v = 0 then some .add else if v = 1 then some .del
    else if v = 2 then some .mod else none
  ofCode_code a := by cases a <;> rfl

/-- `tc_ctrl_cls_t` and its five siblings. -/
inductive Ctrl (α δ μ : Type) where
  | add (add : α)
  | del (del : δ)
  | mod (mod : μ)

section

variable {α δ μ : Type}

def Ctrl.act : Ctrl α δ μ → CtrlActE
  | .add _ => .add
  | .del _ => .del
  | .mod _ => .mod

def calCtrl (calAdd : α → Nat) (calDel : δ → Nat) (calMod : μ → Nat) : Ctrl α δ μ → Nat
  | .add add => 4 + calAdd add
  | .del del => 4 + calDel del
  | .mod mod => 4 + calMod mod

def encCtrl (encAdd : α → Bytes) (encDel : δ → Bytes) (encMod : μ → Bytes) (c : Ctrl α δ μ) :
    Bytes :=
  tag c.act ++ match c with
    | .add add => encAdd add
    | .del del => encDel del
    | .mod mod => encMod mod

def decCtrl (decAdd : Reader α) (decDel : Reader δ) (decMod : Reader μ) :
    Reader (Ctrl α δ μ) := do
  match ← readTag with
  | CtrlActE.add =>
      let add ← decAdd
      pure (.add add)
  | CtrlActE.del =>
      let del ← decDel
      pure (.del del)
  | CtrlActE.mod =>
      let mod ← decMod
      pure (.mod mod)

end

/-- `tc_add_ctrl_cls_t`, `tc_del_ctrl_cls_t` and `tc_mod_ctrl_cls_t`, told apart by
    what they hold of an OSI classifier. -/
inductive CtrlClsOf (ο : Type) where
  | rr (rr : Dummy)
  | osi (osi : ο)
  | sto (sto : Dummy)

/-- `tc_add_cls_osi_t`. -/
structure AddClsOsi where
  l3 : L3Filter
  l4 : L4Filter
  l7 : Dummy
  dstQueue : Int32
  deriving DecidableEq

/-- `tc_del_cls_osi_t`. -/
structure DelClsOsi where
  filterId : UInt32
  deriving DecidableEq

/-- `tc_mod_cls_osi_t`. -/
structure ModClsOsi where
  filter : OsiFilter
  deriving DecidableEq

abbrev CtrlCls := Ctrl (CtrlClsOf AddClsOsi) (CtrlClsOf DelClsOsi) (CtrlClsOf ModClsOsi)

section

variable {ο : Type}

def CtrlClsOf.type : CtrlClsOf ο → ClsE
  | .rr _ => .rr
  | .osi _ => .osi
  | .sto _ => .sto

def calCtrlClsOf (calOsi : ο → Nat) : CtrlClsOf ο → Nat
  | .rr rr => 4 + calDummy rr
  | .osi osi => 4 + calOsi osi
  | .sto sto => 4 + calDummy sto

def encCtrlClsOf (encOsi : ο → Bytes) (c : CtrlClsOf ο) : Bytes :=
  tag c.type ++ match c with
    | .rr rr => encDummy rr
    | .osi osi => encOsi osi
    | .sto sto => encDummy sto

def decCtrlClsOf (decOsi : Reader ο) : Reader (CtrlClsOf ο) := do
  match ← readTag with
  | ClsE.rr =>
      let rr ← decDummy
      pure (.rr rr)
  | ClsE.osi =>
      let osi ← decOsi
      pure (.osi osi)
  | ClsE.sto =>
      let sto ← decDummy
      pure (.sto sto)

end

/-- `sizeof(osi->l3) + sizeof(osi->l4) + sizeof(osi->l7) + sizeof(osi->dst_queue)`. -/
def calTcAddCtrlPayloadClsOsi (_ : AddClsOsi) : Nat := 16 + 12 + 4 + 4

/-- The layer 7 filter is not written. -/
def encTcAddCtrlPayloadClsOsi (osi : AddClsOsi) : Bytes :=
  i64 osi.l3.srcAddr ++ i64 osi.l3.dstAddr ++ i32 osi.l4.srcPort ++ i32 osi.l4.dstPort ++
    i32 osi.l4.protocol ++ i32 osi.dstQueue

def decTcAddCtrlPayloadClsOsi : Reader AddClsOsi := do
  let srcAddr ← readI64
  let dstAddr ← readI64
  let srcPort ← readI32
  let dstPort ← readI32
  let protocol ← readI32
  let dstQueue ← readI32
  pure { l3 := { srcAddr, dstAddr }, l4 := { srcPort, dstPort, protocol }, l7 := { dummy := 0 },
         dstQueue }

def calTcDelCtrlPayloadClsOsi (_ : DelClsOsi) : Nat := 4

def encTcDelCtrlPayloadClsOsi (osi : DelClsOsi) : Bytes := u32 osi.filterId

def decTcDelCtrlPayloadClsOsi : Reader DelClsOsi := do
  let filterId ← readU32
  pure { filterId }

def calTcModCtrlPayloadClsOsi (_ : ModClsOsi) : Nat := sizeofOsiFilter

def encTcModCtrlPayloadClsOsi (osi : ModClsOsi) : Bytes := encOsiFilter osi.filter

def decTcModCtrlPayloadClsOsi : Reader ModClsOsi := do
  let filter ← decOsiFilter
  pure { filter }

def calTcCtrlPayloadCls : CtrlCls → Nat :=
  calCtrl (calCtrlClsOf calTcAddCtrlPayloadClsOsi) (calCtrlClsOf calTcDelCtrlPayloadClsOsi)
    (calCtrlClsOf calTcModCtrlPayloadClsOsi)

def encTcCtrlPayloadCls : CtrlCls → Bytes :=
  encCtrl (encCtrlClsOf encTcAddCtrlPayloadClsOsi) (encCtrlClsOf encTcDelCtrlPayloadClsOsi)
    (encCtrlClsOf encTcModCtrlPayloadClsOsi)

def decTcCtrlPayloadCls : Reader CtrlCls :=
  decCtrl (decCtrlClsOf decTcAddCtrlPayloadClsOsi) (decCtrlClsOf decTcDelCtrlPayloadClsOsi)
    (decCtrlClsOf decTcModCtrlPayloadClsOsi)

/-- `tc_mod_ctrl_plc_t`. -/
structure ModCtrlPlc where
  id : UInt32
  dropRateKbps : UInt32
  devId : UInt32
  devRateKbps : UInt32
  active : UInt32
  deriving DecidableEq

/-- `tc_del_ctrl_plc_t` and `tc_del_ctrl_shp_t`. -/
structure DelById where
  id : UInt32
  deriving DecidableEq

abbrev CtrlPlc := Ctrl Dummy DelById ModCtrlPlc

def calDelById (_ : DelById) : Nat := 4

def encDelById (del : DelById) : Bytes := u32 del.id

def decDelById : Reader DelById := do
  let id ← readU32
  pure { id }

def calTcModCtrlPayloadPlc (_ : ModCtrlPlc) : Nat := 4 + 4 + 4 + 4 + 4

def encTcModCtrlPayloadPlc (mod : ModCtrlPlc) : Bytes :=
  u32 mod.id ++ u32 mod.dropRateKbps ++ u32 mod.devId ++ u32 mod.devRateKbps ++ u32 mod.active

def decTcModCtrlPayloadPlc : Reader ModCtrlPlc := do
  let id ← readU32
  let dropRateKbps ← readU32
  let devId ← readU32
  let devRateKbps ← readU32
  let active ← readU32
  pure { id, dropRateKbps, devId, devRateKbps, active }

def calTcCtrlPayloadPlc : CtrlPlc → Nat := calCtrl calDummy calDelById calTcModCtrlPayloadPlc

def encTcCtrlPayloadPlc : CtrlPlc → Bytes := encCtrl encDummy encDelById encTcModCtrlPayloadPlc

def decTcCtrlPayloadPlc : Reader CtrlPlc := decCtrl decDummy decDelById decTcModCtrlPayloadPlc

/-- `tc_ctrl_queue_codel_t` and `tc_ctrl_queue_ecn_codel_t`. -/
structure CtrlQueueCodel where
  targetMs : UInt32
  intervalMs : UInt32
  deriving DecidableEq

/-- `tc_add_ctrl_queue_t`. -/
inductive AddCtrlQueue where
  | fifo (fifo : Dummy)
  | codel (codel : CtrlQueueCodel)
  | ecn (ecn : CtrlQueueCodel)
  deriving DecidableEq

/-- `tc_mod_ctrl_queue_t`: an id before what an addition holds. -/
structure ModCtrlQueue where
  id : UInt32
  queue : AddCtrlQueue
  deriving DecidableEq

/-- `tc_del_ctrl_queue_t`. Neither side looks at the type. -/
structure DelCtrlQueue where
  id : UInt32
  type : UInt32
  deriving DecidableEq

abbrev CtrlQueue := Ctrl AddCtrlQueue DelCtrlQueue ModCtrlQueue

def AddCtrlQueue.type : AddCtrlQueue → QueueE
  | .fifo _ => .fifo
  | .codel _ => .codel
  | .ecn _ => .ecnCodel

def calTcCtrlPayloadQCodel (_ : CtrlQueueCodel) : Nat := 4 + 4

def encTcCtrlPayloadQCodel (codel : CtrlQueueCodel) : Bytes :=
  u32 codel.targetMs ++ u32 codel.intervalMs

def decTcCtrlPayloadQCodel : Reader CtrlQueueCodel := do
  let targetMs ← readU32
  let intervalMs ← readU32
  pure { targetMs, intervalMs }

def calTcCtrlPayloadQAdd : AddCtrlQueue → Nat
  | .fifo fifo => 4 + calDummy fifo
  | .codel codel => 4 + calTcCtrlPayloadQCodel codel
  | .ecn ecn => 4 + calTcCtrlPayloadQCodel ecn

def encTcAddCtrlPayloadQ (add : AddCtrlQueue) : Bytes :=
  tag add.type ++ match add with
    | .fifo fifo => encDummy fifo
    | .codel codel => encTcCtrlPayloadQCodel codel
    | .ecn ecn => encTcCtrlPayloadQCodel ecn

def decTcAddCtrlPayloadQ : Reader AddCtrlQueue := do
  match ← readTag with
  | QueueE.fifo =>
      let fifo ← decDummy
      pure (.fifo fifo)
  | QueueE.codel =>
      let codel ← decTcCtrlPayloadQCodel
      pure (.codel codel)
  | QueueE.ecnCodel =>
      let ecn ← decTcCtrlPayloadQCodel
      pure (.ecn ecn)

def calTcCtrlPayloadQMod (mod : ModCtrlQueue) : Nat := 4 + calTcCtrlPayloadQAdd mod.queue

def encTcModCtrlPayloadQ (mod : ModCtrlQueue) : Bytes :=
  u32 mod.id ++ encTcAddCtrlPayloadQ mod.queue

def decTcModCtrlPayloadQ : Reader ModCtrlQueue := do
  let id ← readU32
  let queue ← decTcAddCtrlPayloadQ
  pure { id, queue }

def calTcCtrlPayloadQDel (_ : DelCtrlQueue) : Nat := 4 + 4

def encTcDelCtrlPayloadQ (del : DelCtrlQueue) : Bytes := u32 del.id ++ u32 del.type

def decTcDelCtrlPayloadQ : Reader DelCtrlQueue := do
  let id ← readU32
  let type ← readU32
  pure { id, type }

def calTcCtrlPayloadQ : CtrlQueue → Nat :=
  calCtrl calTcCtrlPayloadQAdd calTcCtrlPayloadQDel calTcCtrlPayloadQMod

def encTcCtrlPayloadQ : CtrlQueue → Bytes :=
  encCtrl encTcAddCtrlPayloadQ encTcDelCtrlPayloadQ encTcModCtrlPayloadQ

def decTcCtrlPayloadQ : Reader CtrlQueue :=
  decCtrl decTcAddCtrlPayloadQ decTcDelCtrlPayloadQ decTcModCtrlPayloadQ

/-- `tc_mod_ctrl_sch_t`. -/
inductive ModCtrlSch where
  | rr (rr : Dummy)
  | prio (prio : SchPrio)

abbrev CtrlSch := Ctrl Dummy Dummy ModCtrlSch

def ModCtrlSch.type : ModCtrlSch → SchE
  | .rr _ => .rr
  | .prio _ => .prio

def calTcCtrlPayloadSchMod : ModCtrlSch → Nat
  | .rr rr => 4 + calDummy rr
  | .prio prio => 4 + calSchPrio prio

def encTcModCtrlPayloadSch (mod : ModCtrlSch) : Bytes :=
  tag mod.type ++ match mod with
    | .rr rr => encDummy rr
    | .prio prio => encSchPrio prio

def decTcModCtrlPayloadSch : Reader ModCtrlSch := do
  match ← readTag with
  | SchE.rr =>
      let rr ← decDummy
      pure (.rr rr)
  | SchE.prio =>
      let prio ← decSchPrio
      pure (.prio prio)

def calTcCtrlPayloadSch : CtrlSch → Nat := calCtrl calDummy calDummy calTcCtrlPayloadSchMod

def encTcCtrlPayloadSch : CtrlSch → Bytes := encCtrl encDummy encDummy encTcModCtrlPayloadSch

def decTcCtrlPayloadSch : Reader CtrlSch := decCtrl decDummy decDummy decTcModCtrlPayloadSch

/-- `tc_mod_ctrl_shp_t`. -/
structure ModCtrlShp where
  id : UInt32
  timeWindowMs : UInt32
  maxRateKbps : UInt32
  active : UInt32
  deriving DecidableEq

abbrev CtrlShp := Ctrl Dummy DelById ModCtrlShp

def calTcCtrlPayloadShpMod (_ : ModCtrlShp) : Nat := 4 + 4 + 4 + 4

def encTcModCtrlPayloadShp (mod : ModCtrlShp) : Bytes :=
  u32 mod.id ++ u32 mod.timeWindowMs ++ u32 mod.maxRateKbps ++ u32 mod.active

def decTcModCtrlPayloadShp : Reader ModCtrlShp := do
  let id ← readU32
  let timeWindowMs ← readU32
  let maxRateKbps ← readU32
  let active ← readU32
  pure { id, timeWindowMs, maxRateKbps, active }

def calTcCtrlPayloadShp : CtrlShp → Nat := calCtrl calDummy calDelById calTcCtrlPayloadShpMod

def encTcCtrlPayloadShp : CtrlShp → Bytes := encCtrl encDummy encDelById encTcModCtrlPayloadShp

def decTcCtrlPayloadShp : Reader CtrlShp := decCtrl decDummy decDelById decTcModCtrlPayloadShp

/-- `tc_pcr_5g_bdp_t`. -/
structure Pcr5gBdp where
  drbSz : UInt32
  tstamp : Int64
  deriving DecidableEq

/-- `tc_mod_ctrl_pcr_t`. -/
inductive ModCtrlPcr where
  | dummy (dummy : Dummy)
  | bdp (bdp : Pcr5gBdp)
  deriving DecidableEq

abbrev CtrlPcr := Ctrl Dummy Dummy ModCtrlPcr

def ModCtrlPcr.type : ModCtrlPcr → PcrE
  | .dummy _ => .dummy
  | .bdp _ => .bdp5g

def calTcCtrlPayloadPcrMod : ModCtrlPcr → Nat
  | .dummy dummy => 4 + calDummy dummy
  | .bdp _ => 4 + (4 + 8)

def encTcModCtrlPayloadPcrBdp (bdp : Pcr5gBdp) : Bytes := u32 bdp.drbSz ++ i64 bdp.tstamp

def encTcModCtrlPayloadPcr (mod : ModCtrlPcr) : Bytes :=
  tag mod.type ++ match mod with
    | .dummy dummy => encDummy dummy
    | .bdp bdp => encTcModCtrlPayloadPcrBdp bdp

def decTcModCtrlPayloadPcrBdp : Reader Pcr5gBdp := do
  let drbSz ← readU32
  let tstamp ← readI64
  pure { drbSz, tstamp }

def decTcModCtrlPayloadPcr : Reader ModCtrlPcr := do
  match ← readTag with
  | PcrE.dummy =>
      let dummy ← decDummy
      pure (.dummy dummy)
  | PcrE.bdp5g =>
      let bdp ← decTcModCtrlPayloadPcrBdp
      pure (.bdp bdp)

def calTcCtrlPayloadPcr : CtrlPcr → Nat := calCtrl calDummy calDummy calTcCtrlPayloadPcrMod

def encTcCtrlPayloadPcr : CtrlPcr → Bytes := encCtrl encDummy encDummy encTcModCtrlPayloadPcr

def decTcCtrlPayloadPcr : Reader CtrlPcr := decCtrl decDummy decDummy decTcModCtrlPayloadPcr

/-- `tc_ctrl_msg_e`. -/
inductive CtrlMsgE where
  | cls
  | plc
  | queue
  | sch
  | shp
  | pcr
  deriving DecidableEq, Repr

instance : Tag CtrlMsgE where
  code
    | .cls => 0
    | .plc => 1
    | .queue => 2
    | .sch => 3
    | .shp => 4
    | .pcr => 5
  ofCode v :=
    if v = 0 then some .cls else if v = 1 then some .plc else if v = 2 then some .queue
    else if v = 3 then some .sch else if v = 4 then some .shp else if v = 5 then some .pcr
    else none
  ofCode_code a := by cases a <;> rfl

/-- `tc_ctrl_msg_t`. -/
inductive CtrlMsg where
  | cls (cls : CtrlCls)
  | plc (plc : CtrlPlc)
  | q (q : CtrlQueue)
  | sch (sch : CtrlSch)
  | shp (shp : CtrlShp)
  | pcr (pcr : CtrlPcr)

def CtrlMsg.type : CtrlMsg → CtrlMsgE
  | .cls _ => .cls
  | .plc _ => .plc
  | .q _ => .queue
  | .sch _ => .sch
  | .shp _ => .shp
  | .pcr _ => .pcr

def calTcCtrlPayload : CtrlMsg → Nat
  | .cls cls => 4 + calTcCtrlPayloadCls cls
  | .plc plc => 4 + calTcCtrlPayloadPlc plc
  | .q q => 4 + calTcCtrlPayloadQ q
  | .sch sch => 4 + calTcCtrlPayloadSch sch
  | .shp shp => 4 + calTcCtrlPayloadShp shp
  | .pcr pcr => 4 + calTcCtrlPayloadPcr pcr

/-- What the encoder writes. -/
def encTcCtrlPayload (m : CtrlMsg) : Bytes :=
  tag m.type ++ match m with
    | .cls cls => encTcCtrlPayloadCls cls
    | .plc plc => encTcCtrlPayloadPlc plc
    | .q q => encTcCtrlPayloadQ q
    | .sch sch => encTcCtrlPayloadSch sch
    | .shp shp => encTcCtrlPayloadShp shp
    | .pcr pcr => encTcCtrlPayloadPcr pcr

def tcEncCtrlMsgPlain (m : CtrlMsg) : Except Fault Bytes :=
  writeAll (calTcCtrlPayload m) (encTcCtrlPayload m)

def tcDecCtrlMsg : Reader CtrlMsg := do
  match ← readTag with
  | CtrlMsgE.cls =>
      let cls ← decTcCtrlPayloadCls
      pure (.cls cls)
  | CtrlMsgE.plc =>
      let plc ← decTcCtrlPayloadPlc
      pure (.plc plc)
  | CtrlMsgE.queue =>
      let q ← decTcCtrlPayloadQ
      pure (.q q)
  | CtrlMsgE.sch =>
      let sch ← decTcCtrlPayloadSch
      pure (.sch sch)
  | CtrlMsgE.shp =>
      let shp ← decTcCtrlPayloadShp
      pure (.shp shp)
  | CtrlMsgE.pcr =>
      let pcr ← decTcCtrlPayloadPcr
      pure (.pcr pcr)

/-- `assert(len > 0)` comes first. -/
def tcDecCtrlMsgPlain (ctrlMsg : Bytes) : Except Fault CtrlMsg := do
  check (ctrlMsg ≠ []) .outOfChunk
  readAll tcDecCtrlMsg ctrlMsg

end FlexRic.Tc
