import FlexRic.E2sm.UeId
import FlexRic.Library.Comparison

/-! # Equality and copies of the identities of UEs

A part that may be left out is compared only where both sides have it, and the node of
a gNB is compared with itself. Two kinds of node read a part that may be missing.
-/

namespace FlexRic.E2sm

open Asn (Fault)

def eqE2smPlmn (m0 m1 : Plmn) : Bool :=
  m0.mcc = m1.mcc && m0.mnc = m1.mnc && m0.mncDigitLen = m1.mncDigitLen

def eqGuami (m0 m1 : Guami) : Bool :=
  eqE2smPlmn m0.plmnId m1.plmnId && m0.amfRegionId = m1.amfRegionId &&
    m0.amfSetId = m1.amfSetId && m0.amfPtr = m1.amfPtr

def eqE2smGummei (m0 m1 : Gummei) : Bool :=
  eqE2smPlmn m0.plmnId m1.plmnId && m0.mmeGroupId = m1.mmeGroupId && m0.mmeCode = m1.mmeCode

def eqGlobalGnbId (m0 m1 : GlobalGnbId) : Bool :=
  eqE2smPlmn m0.plmnId m1.plmnId && m0.gnbId.nbId = m1.gnbId.nbId &&
    m0.gnbId.unused = m1.gnbId.unused

/-- The types, and then the one id that the type has. -/
def eqGlobalEnbId (m0 m1 : GlobalEnbId) : Bool :=
  eqE2smPlmn m0.plmnId m1.plmnId &&
    match m0.id, m1.id with
    | .macroEnb id0, .macroEnb id1 => id0 = id1
    | .homeEnb id0, .homeEnb id1 => id0 = id1
    | .shortMacroEnb id0, .shortMacroEnb id1 => id0 = id1
    | .longMacroEnb id0, .longMacroEnb id1 => id0 = id1
    | _, _ => false

def eqGlobalNgEnbId (m0 m1 : GlobalNgEnbId) : Bool :=
  eqE2smPlmn m0.plmnId m1.plmnId &&
    match m0.id, m1.id with
    | .macroNgEnb id0, .macroNgEnb id1 => id0 = id1
    | .shortMacroNgEnb id0, .shortMacroNgEnb id1 => id0 = id1
    | .longMacroNgEnb id0, .longMacroNgEnb id1 => id0 = id1
    | _, _ => false

def eqGlobalNgRanNodeId : GlobalNgRanNodeId → GlobalNgRanNodeId → Bool
  | .gnb id0, .gnb id1 => eqGlobalGnbId id0 id1
  | .ngEnb id0, .ngEnb id1 => eqGlobalNgEnbId id0 id1
  | _, _ => false

/-- The lengths and then the ids. A list that is not there has no ids. -/
def eqIdLst (lst0 lst1 : Option (List UInt32)) : Bool := lst0.getD [] = lst1.getD []

/-- Of the two NG-RAN nodes only the first is looked at. -/
def eqGnbUeId (m0 m1 : GnbE2sm) : Bool :=
  m0.amfUeNgapId = m1.amfUeNgapId && eqGuami m0.guami m1.guami &&
    eqIdLst m0.gnbCuUeF1apLst m1.gnbCuUeF1apLst &&
    eqIdLst m0.gnbCuCpUeE1apLst m1.gnbCuCpUeE1apLst &&
    !clash (· == ·) m0.ranUeId m1.ranUeId &&
    !clash (· == ·) m0.ngRanNodeUeXnapId m1.ngRanNodeUeXnapId &&
    !clash eqGlobalGnbId m0.globalGnbId m1.globalGnbId &&
    !clash (fun id _ => eqGlobalNgRanNodeId id id) m0.globalNgRanNodeId m1.globalNgRanNodeId

/-- The ids that the RAN gave are read, whether they are there or not. -/
def eqGnbDuUeId (m0 m1 : GnbDuE2sm) : Except Fault Bool :=
  both (pure (m0.gnbCuUeF1ap = m1.gnbCuUeF1ap)) <|
    match m0.ranUeId, m1.ranUeId with
    | some id0, some id1 => pure (id0 = id1)
    | _, _ => throw .null

def eqGnbCuUpUeId (m0 m1 : GnbCuUpE2sm) : Bool :=
  m0.gnbCuCpUeE1ap = m1.gnbCuCpUeE1ap && !clash (· == ·) m0.ranUeId m1.ranUeId

def eqNgEnbUeId (m0 m1 : NgEnbE2sm) : Bool :=
  m0.amfUeNgapId = m1.amfUeNgapId && eqGuami m0.guami m1.guami &&
    !clash (· == ·) m0.ngEnbCuUeW1apId m1.ngEnbCuUeW1apId &&
    !clash (· == ·) m0.ngRanNodeUeXnapId m1.ngRanNodeUeXnapId &&
    !clash eqGlobalNgEnbId m0.globalNgEnbId m1.globalNgEnbId &&
    !clash eqGlobalNgRanNodeId m0.globalNgRanNodeId m1.globalNgRanNodeId

def eqNgEnbDuUeId (m0 m1 : NgEnbDuE2sm) : Bool := m0.ngEnbCuUeW1apId = m1.ngEnbCuUeW1apId

def eqEnGnbUeId (m0 m1 : EnGnbE2sm) : Bool :=
  m0.enbUeX2apId = m1.enbUeX2apId &&
    !clash (· == ·) m0.enbUeX2apIdExtension m1.enbUeX2apIdExtension &&
    eqGlobalEnbId m0.globalEnbId m1.globalEnbId &&
    !clash (· == ·) m0.gnbCuUeF1apLst m1.gnbCuUeF1apLst &&
    eqIdLst m0.gnbCuCpUeE1apLst m1.gnbCuCpUeE1apLst && !clash (· == ·) m0.ranUeId m1.ranUeId

/-- The assertions of `eq_global_enb_id`, that neither pointer is null. -/
def eqGlobalEnbIds : Option GlobalEnbId → Option GlobalEnbId → Except Fault Bool
  | some id0, some id1 => pure (eqGlobalEnbId id0 id1)
  | _, _ => throw .null

def eqEnbUeId (m0 m1 : EnbE2sm) : Except Fault Bool :=
  both (pure (m0.mmeUeS1apId = m1.mmeUeS1apId)) <|
  both (pure (eqE2smGummei m0.gummei m1.gummei)) <|
  both (pure (!clash (· == ·) m0.enbUeX2apId m1.enbUeX2apId)) <|
  both (pure (!clash (· == ·) m0.enbUeX2apIdExtension m1.enbUeX2apIdExtension)) <|
    eqGlobalEnbIds m0.globalEnbId m1.globalEnbId

def eqUeIdE2sm : UeIdE2sm → UeIdE2sm → Except Fault Bool
  | .gnb m0, .gnb m1 => pure (eqGnbUeId m0 m1)
  | .gnbDu m0, .gnbDu m1 => eqGnbDuUeId m0 m1
  | .gnbCuUp m0, .gnbCuUp m1 => pure (eqGnbCuUpUeId m0 m1)
  | .ngEnb m0, .ngEnb m1 => pure (eqNgEnbUeId m0 m1)
  | .ngEnbDu m0, .ngEnbDu m1 => pure (eqNgEnbDuUeId m0 m1)
  | .enGnb m0, .enGnb m1 => pure (eqEnGnbUeId m0 m1)
  | .enb m0, .enb m1 => eqEnbUeId m0 m1
  | _, _ => pure false

def cpE2smPlmn (src : Plmn) : Plmn where
  mcc := src.mcc
  mnc := src.mnc
  mncDigitLen := src.mncDigitLen

def cpGuami (src : Guami) : Guami where
  plmnId := cpE2smPlmn src.plmnId
  amfRegionId := src.amfRegionId
  amfSetId := src.amfSetId
  amfPtr := src.amfPtr

def cpE2smGummei (src : Gummei) : Gummei where
  plmnId := cpE2smPlmn src.plmnId
  mmeGroupId := src.mmeGroupId
  mmeCode := src.mmeCode

def cpGlobalGnbId (src : GlobalGnbId) : GlobalGnbId where
  plmnId := cpE2smPlmn src.plmnId
  gnbId := src.gnbId

def cpGlobalEnbUeId (src : GlobalEnbId) : GlobalEnbId where
  plmnId := cpE2smPlmn src.plmnId
  id :=
    match src.id with
    | .macroEnb id => .macroEnb id
    | .homeEnb id => .homeEnb id
    | .shortMacroEnb id => .shortMacroEnb id
    | .longMacroEnb id => .longMacroEnb id

def cpGlobalNgEnbId (src : GlobalNgEnbId) : GlobalNgEnbId where
  plmnId := cpE2smPlmn src.plmnId
  id :=
    match src.id with
    | .macroNgEnb id => .macroNgEnb id
    | .shortMacroNgEnb id => .shortMacroNgEnb id
    | .longMacroNgEnb id => .longMacroNgEnb id

def cpGlobalNgRanNodeId : GlobalNgRanNodeId → GlobalNgRanNodeId
  | .gnb id => .gnb (cpGlobalGnbId id)
  | .ngEnb id => .ngEnb (cpGlobalNgEnbId id)

/-- Memory is taken only where there are ids. -/
def cpIdLst (lst : Option (List UInt32)) : Option (List UInt32) :=
  if 0 < (lst.getD []).length then some (lst.getD []) else none

def cpGnbUeId (src : GnbE2sm) : GnbE2sm where
  amfUeNgapId := src.amfUeNgapId
  guami := cpGuami src.guami
  gnbCuUeF1apLst := cpIdLst src.gnbCuUeF1apLst
  gnbCuCpUeE1apLst := cpIdLst src.gnbCuCpUeE1apLst
  ranUeId := src.ranUeId
  ngRanNodeUeXnapId := src.ngRanNodeUeXnapId
  globalGnbId := src.globalGnbId.map cpGlobalGnbId
  globalNgRanNodeId := src.globalNgRanNodeId.map cpGlobalNgRanNodeId

def cpGnbDuUeId (src : GnbDuE2sm) : GnbDuE2sm where
  gnbCuUeF1ap := src.gnbCuUeF1ap
  ranUeId := src.ranUeId

def cpGnbCuUpId (src : GnbCuUpE2sm) : GnbCuUpE2sm where
  gnbCuCpUeE1ap := src.gnbCuCpUeE1ap
  ranUeId := src.ranUeId

def cpNgEnbUeId (src : NgEnbE2sm) : NgEnbE2sm where
  amfUeNgapId := src.amfUeNgapId
  guami := cpGuami src.guami
  ngEnbCuUeW1apId := src.ngEnbCuUeW1apId
  ngRanNodeUeXnapId := src.ngRanNodeUeXnapId
  globalNgEnbId := src.globalNgEnbId.map cpGlobalNgEnbId
  globalNgRanNodeId := src.globalNgRanNodeId.map cpGlobalNgRanNodeId

def cpNgEnbDuUeId (src : NgEnbDuE2sm) : NgEnbDuE2sm where
  ngEnbCuUeW1apId := src.ngEnbCuUeW1apId

/-- A list is there where its pointer is. -/
def cpEnGnbUeId (src : EnGnbE2sm) : EnGnbE2sm where
  enbUeX2apId := src.enbUeX2apId
  enbUeX2apIdExtension := src.enbUeX2apIdExtension
  globalEnbId := cpGlobalEnbUeId src.globalEnbId
  gnbCuUeF1apLst := src.gnbCuUeF1apLst
  gnbCuCpUeE1apLst := src.gnbCuCpUeE1apLst
  ranUeId := src.ranUeId

def cpEnbUeId (src : EnbE2sm) : EnbE2sm where
  mmeUeS1apId := src.mmeUeS1apId
  gummei := cpE2smGummei src.gummei
  enbUeX2apId := src.enbUeX2apId
  enbUeX2apIdExtension := src.enbUeX2apIdExtension
  globalEnbId := src.globalEnbId.map cpGlobalEnbUeId

def cpUeIdE2sm : UeIdE2sm → UeIdE2sm
  | .gnb src => .gnb (cpGnbUeId src)
  | .gnbDu src => .gnbDu (cpGnbDuUeId src)
  | .gnbCuUp src => .gnbCuUp (cpGnbCuUpId src)
  | .ngEnb src => .ngEnb (cpNgEnbUeId src)
  | .ngEnbDu src => .ngEnbDu (cpNgEnbDuUeId src)
  | .enGnb src => .enGnb (cpEnGnbUeId src)
  | .enb src => .enb (cpEnbUeId src)

end FlexRic.E2sm
