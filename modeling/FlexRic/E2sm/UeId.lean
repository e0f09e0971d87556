import FlexRic.Asn.Conversions
import FlexRic.Library.Octets

/-! # Identities of UEs

A UE has a different identity in each kind of node. The service models send it in
their units, so what is written here travels through the generated codec.
-/

namespace FlexRic.E2sm

open Asn (BitString Fault)
open Octets (signed shorten bigEndian)
open Wire (Bytes bytesOf valueOf)

/-- `guami_t`. The network has the fields of `e2ap_plmn_t`; set and pointer are bit-fields. -/
structure Guami where
  plmnId : Plmn
  amfRegionId : UInt8
  amfSetId : BitVec 10
  amfPtr : BitVec 6
  deriving DecidableEq

/-- `e2sm_gummei_t`. -/
structure Gummei where
  plmnId : Plmn
  mmeGroupId : UInt16
  mmeCode : UInt8
  deriving DecidableEq

/-- `global_gnb_id_t`. There is one type of gNB. -/
structure GlobalGnbId where
  plmnId : Plmn
  gnbId : GnbId
  deriving DecidableEq

/-- The type and the union of `global_enb_id_t`. -/
inductive EnbId where
  | macroEnb (id : UInt32)
  | homeEnb (id : UInt32)
  | shortMacroEnb (id : UInt32)
  | longMacroEnb (id : UInt32)
  deriving DecidableEq

/-- `global_enb_id_t`. -/
structure GlobalEnbId where
  plmnId : Plmn
  id : EnbId
  deriving DecidableEq

/-- The type and the union of `global_ng_enb_id_t`. -/
inductive NgEnbId where
  | macroNgEnb (id : UInt32)
  | shortMacroNgEnb (id : UInt32)
  | longMacroNgEnb (id : UInt32)
  deriving DecidableEq

/-- `global_ng_enb_id_t`. -/
structure GlobalNgEnbId where
  plmnId : Plmn
  id : NgEnbId
  deriving DecidableEq

/-- `global_ng_ran_node_id_t`. -/
inductive GlobalNgRanNodeId where
  | gnb (id : GlobalGnbId)
  | ngEnb (id : GlobalNgEnbId)
  deriving DecidableEq

/-- `gnb_e2sm_t`. -/
structure GnbE2sm where
  amfUeNgapId : UInt64
  guami : Guami
  gnbCuUeF1apLst : Option (List UInt32)
  gnbCuCpUeE1apLst : Option (List UInt32)
  ranUeId : Option UInt64
  ngRanNodeUeXnapId : Option UInt32
  globalGnbId : Option GlobalGnbId
  globalNgRanNodeId : Option GlobalNgRanNodeId
  deriving DecidableEq

/-- `gnb_du_e2sm_t`. -/
structure GnbDuE2sm where
  gnbCuUeF1ap : UInt32
  ranUeId : Option UInt64
  deriving DecidableEq

/-- `gnb_cu_up_e2sm_t`. -/
structure GnbCuUpE2sm where
  gnbCuCpUeE1ap : UInt32
  ranUeId : Option UInt64
  deriving DecidableEq

/-- `ng_enb_e2sm_t`. -/
structure NgEnbE2sm where
  amfUeNgapId : UInt64
  guami : Guami
  ngEnbCuUeW1apId : Option UInt32
  ngRanNodeUeXnapId : Option UInt32
  globalNgEnbId : Option GlobalNgEnbId
  globalNgRanNodeId : Option GlobalNgRanNodeId
  deriving DecidableEq

/-- `ng_enb_du_e2sm_t`. -/
structure NgEnbDuE2sm where
  ngEnbCuUeW1apId : UInt32
  deriving DecidableEq

/-- `en_gnb_e2sm_t`. -/
structure EnGnbE2sm where
  enbUeX2apId : UInt16
  enbUeX2apIdExtension : Option UInt16
  globalEnbId : GlobalEnbId
  gnbCuUeF1apLst : Option UInt32
  gnbCuCpUeE1apLst : Option (List UInt32)
  ranUeId : Option UInt64
  deriving DecidableEq

/-- `enb_e2sm_t`. -/
structure EnbE2sm where
  mmeUeS1apId : UInt32
  gummei : Gummei
  enbUeX2apId : Option UInt16
  enbUeX2apIdExtension : Option UInt16
  globalEnbId : Option GlobalEnbId
  deriving DecidableEq

/-- `ue_id_e2sm_t`. -/
inductive UeIdE2sm where
  | gnb (id : GnbE2sm)
  | gnbDu (id : GnbDuE2sm)
  | gnbCuUp (id : GnbCuUpE2sm)
  | ngEnb (id : NgEnbE2sm)
  | ngEnbDu (id : NgEnbDuE2sm)
  | enGnb (id : EnGnbE2sm)
  | enb (id : EnbE2sm)
  deriving DecidableEq

/-- `INTEGER_t`: its octets, and the memory that was allocated behind them. -/
structure Integer where
  octets : Bytes
  behind : Bytes
  deriving DecidableEq

/-- `GUAMI_t`. -/
structure GuamiAsn where
  plmnIdentity : Bytes
  amfRegionId : BitString
  amfSetId : BitString
  amfPointer : BitString
  deriving DecidableEq

/-- `GUMMEI_t`. -/
structure GummeiAsn where
  plmnIdentity : Bytes
  mmeGroupId : Bytes
  mmeCode : Bytes
  deriving DecidableEq

/-- `GlobalGNB_ID_t`. -/
structure GlobalGnbIdAsn where
  plmnIdentity : Bytes
  gnbId : BitString
  deriving DecidableEq

/-- `ENB_ID_t`. -/
inductive EnbIdAsn where
  | macroEnb (id : BitString)
  | homeEnb (id : BitString)
  | shortMacroEnb (id : BitString)
  | longMacroEnb (id : BitString)
  deriving DecidableEq

/-- `GlobalENB_ID_t`. -/
structure GlobalEnbIdAsn where
  plmnIdentity : Bytes
  enbId : EnbIdAsn
  deriving DecidableEq

/-- `NgENB_ID_t`. -/
inductive NgEnbIdAsn where
  | macroNgEnb (id : BitString)
  | shortMacroNgEnb (id : BitString)
  | longMacroNgEnb (id : BitString)
  deriving DecidableEq

/-- `GlobalNgENB_ID_t`. -/
structure GlobalNgEnbIdAsn where
  plmnIdentity : Bytes
  ngEnbId : NgEnbIdAsn
  deriving DecidableEq

/-- `GlobalNGRANNodeID_t`. -/
inductive GlobalNgRanNodeIdAsn where
  | gnb (id : GlobalGnbIdAsn)
  | ngEnb (id : GlobalNgEnbIdAsn)
  deriving DecidableEq

/-- `UEID_GNB_t`. -/
structure UeidGnb where
  amfUeNgapId : Integer
  guami : GuamiAsn
  gnbCuUeF1apIdList : Option (List UInt32)
  gnbCuCpUeE1apIdList : Option (List UInt32)
  ranUeid : Option Bytes
  mNgRanUeXnapId : Option UInt32
  globalGnbId : Option GlobalGnbIdAsn
  globalNgRanNodeId : Option GlobalNgRanNodeIdAsn
  deriving DecidableEq

/-- `UEID_GNB_DU_t`. -/
structure UeidGnbDu where
  gnbCuUeF1apId : UInt32
  ranUeid : Option Bytes
  deriving DecidableEq

/-- `UEID_GNB_CU_UP_t`. -/
structure UeidGnbCuUp where
  gnbCuCpUeE1apId : UInt32
  ranUeid : Option Bytes
  deriving DecidableEq

/-- `UEID_NG_ENB_t`. -/
structure UeidNgEnb where
  amfUeNgapId : Integer
  guami : GuamiAsn
  ngEnbCuUeW1apId : Option UInt32
  mNgRanUeXnapId : Option UInt32
  globalNgEnbId : Option GlobalNgEnbIdAsn
  globalNgRanNodeId : Option GlobalNgRanNodeIdAsn
  deriving DecidableEq

/-- `UEID_NG_ENB_DU_t`. -/
structure UeidNgEnbDu where
  ngEnbCuUeW1apId : UInt32
  deriving DecidableEq

/-- `UEID_EN_GNB_t`. -/
structure UeidEnGnb where
  mEnbUeX2apId : UInt16
  mEnbUeX2apIdExtension : Option UInt16
  globalEnbId : GlobalEnbIdAsn
  gnbCuUeF1apId : Option UInt32
  gnbCuCpUeE1apIdList : Option (List UInt32)
  ranUeid : Option Bytes
  deriving DecidableEq

/-- `UEID_ENB_t`. -/
structure UeidEnb where
  mmeUeS1apId : UInt32
  gummei : GummeiAsn
  mEnbUeX2apId : Option UInt16
  mEnbUeX2apIdExtension : Option UInt16
  globalEnbId : Option GlobalEnbIdAsn
  deriving DecidableEq

/-- `UEID_t`. -/
inductive Ueid where
  | gnb (id : UeidGnb)
  | gnbDu (id : UeidGnbDu)
  | gnbCuUp (id : UeidGnbCuUp)
  | ngEnb (id : UeidNgEnb)
  | ngEnbDu (id : UeidNgEnbDu)
  | enGnb (id : UeidEnGnb)
  | enb (id : UeidEnb)
  deriving DecidableEq

/-- `maxF1APid`. -/
def maxF1apId : Nat := 4

/-- `maxE1APid`. -/
def maxE1apId : Nat := 65535

/-- `max_val_ENB_UE_X2AP_ID`. -/
def maxValEnbUeX2apId : Nat := 4095

/-- Eight bytes as they are when they are allocated. -/
abbrev Memory := List.Vector UInt8 8

end FlexRic.E2sm
