import FlexRic.E2sm.UeId

/-! # Encoders and decoders of UE identities

Each kind of identity has a pair of functions of its own. The two kinds of node that
know an AMF fill its INTEGER in different ways.
-/

namespace FlexRic.E2sm

open Asn (BitString Fault)
open Octets (signed unsigned shorten bigEndian)
open Wire (Bytes bytesOf valueOf)

/-- `asn_imax2INTEGER_static` and `asn_int642INTEGER`, of a number in 64 bits: the octets
    are written to the front of eight bytes. -/
def asnInt642Integer (memory : Memory) (value : UInt64) : Integer :=
  let octets := shorten (bigEndian 8 value.toNat)
  ⟨octets, memory.toList.drop octets.length⟩

/-- `asn_INTEGER2ulong_static`, of at most eight octets. -/
def asnInteger2ulong (src : Integer) : UInt64 := UInt64.ofNat (unsigned src.octets)

/-- What the generated codec makes of an `AMF_UE_NGAP_ID_t`: a number of at most 40 bits,
    in octets that it allocates. -/
def aperAmfUeNgapId (memory : Memory) (src : Integer) : Except Fault Integer := do
  let value := signed src.octets
  check (0 ≤ value ∧ value ≤ 1099511627775) .aper
  pure (asnInt642Integer memory (UInt64.ofNat value.toNat))

def encGuami (src : Guami) : Except Fault GuamiAsn := do
  let amfRegionId ← Asn.cpAmfRegionIdToBitString src.amfRegionId
  let amfSetId ← Asn.cpAmfSetIdToBitString (UInt16.ofNat src.amfSetId.toNat)
  let amfPointer ← Asn.cpAmfPtrToBitString (UInt8.ofNat src.amfPtr.toNat)
  pure { plmnIdentity := Asn.mccMncToPlmnid src.plmnId, amfRegionId, amfSetId, amfPointer }

def decGuami (src : GuamiAsn) : Except Fault Guami := do
  let plmnId ← Asn.plmnidToMccMnc src.plmnIdentity
  let amfRegionId ← Asn.cpAmfRegionIdToU8 src.amfRegionId
  let amfSetId ← Asn.cpAmfSetIdToU16 src.amfSetId
  let amfPtr ← Asn.cpAmfPtrToU8 src.amfPointer
  pure {
    plmnId, amfRegionId, amfSetId := .ofNat 10 amfSetId.toNat, amfPtr := .ofNat 6 amfPtr.toNat }

/-- `INT16_TO_OCTET_STRING`. -/
def int16ToOctetString (x : UInt16) : Bytes := [UInt8.ofNat (x.toNat >>> 8), UInt8.ofNat x.toNat]

/-- `OCTET_STRING_TO_INT16`. -/
def octetStringToInt16 (src : Bytes) : Except Fault UInt16 := do
  check (src.length = 2 ∨ src.length = 3) .bound
  match src with
  | b0 :: b1 :: _ => pure (UInt16.ofNat (b0.toNat <<< 8 ||| b1.toNat))
  | _ => throw .bound

/-- `OCTET_STRING_TO_INT8`. -/
def octetStringToInt8 : Bytes → Except Fault UInt8
  | [b0] => .ok b0
  | _ => .error .bound

def encGummei (src : Gummei) : GummeiAsn where
  plmnIdentity := Asn.mccMncToPlmnid src.plmnId
  mmeGroupId := int16ToOctetString src.mmeGroupId
  mmeCode := [src.mmeCode]

def decGummei (src : GummeiAsn) : Except Fault Gummei := do
  let plmnId ← Asn.plmnidToMccMnc src.plmnIdentity
  let mmeGroupId ← octetStringToInt16 src.mmeGroupId
  let mmeCode ← octetStringToInt8 src.mmeCode
  pure { plmnId, mmeGroupId, mmeCode }

def encGlobalGnbIdAsn (src : GlobalGnbId) : Except Fault GlobalGnbIdAsn := do
  let gnbId ← Asn.cpGnbIdToBitString src.gnbId
  pure { plmnIdentity := Asn.mccMncToPlmnid src.plmnId, gnbId }

def decGlobalGnbIdAsn (src : GlobalGnbIdAsn) : Except Fault GlobalGnbId := do
  let plmnId ← Asn.plmnidToMccMnc src.plmnIdentity
  let gnbId ← Asn.cpBitStringToGnbId src.gnbId
  pure { plmnId, gnbId }

/-- The `switch` of `enc_global_enb_id_asn`. -/
def encEnbId : EnbId → Except Fault EnbIdAsn
  | .macroEnb id => EnbIdAsn.macroEnb <$> Asn.cpMacroEnbIdToBitString id
  | .homeEnb id => EnbIdAsn.homeEnb <$> Asn.cpHomeEnbIdToBitString id
  | .shortMacroEnb id => EnbIdAsn.shortMacroEnb <$> Asn.cpShortMacroEnbIdToBitString id
  | .longMacroEnb id => EnbIdAsn.longMacroEnb <$> Asn.cpLongMacroEnbIdToBitString id

def decEnbId : EnbIdAsn → Except Fault EnbId
  | .macroEnb id => EnbId.macroEnb <$> Asn.cpMacroEnbIdToU32 id
  | .homeEnb id => EnbId.homeEnb <$> Asn.cpHomeEnbIdToU32 id
  | .shortMacroEnb id => EnbId.shortMacroEnb <$> Asn.cpShortMacroEnbIdToU32 id
  | .longMacroEnb id => EnbId.longMacroEnb <$> Asn.cpLongMacroEnbIdToU32 id

def encGlobalEnbIdAsn (src : GlobalEnbId) : Except Fault GlobalEnbIdAsn := do
  let enbId ← encEnbId src.id
  pure { plmnIdentity := Asn.mccMncToPlmnid src.plmnId, enbId }

def decGlobalEnbIdAsn (src : GlobalEnbIdAsn) : Except Fault GlobalEnbId := do
  let plmnId ← Asn.plmnidToMccMnc src.plmnIdentity
  let id ← decEnbId src.enbId
  pure { plmnId, id }

/-- The `switch` of `enc_global_ng_enb_asn`. -/
def encNgEnbId : NgEnbId → Except Fault NgEnbIdAsn
  | .macroNgEnb id => NgEnbIdAsn.macroNgEnb <$> Asn.cpMacroNgEnbIdToBitString id
  | .shortMacroNgEnb id => NgEnbIdAsn.shortMacroNgEnb <$> Asn.cpShortMacroNgEnbIdToBitString id
  | .longMacroNgEnb id => NgEnbIdAsn.longMacroNgEnb <$> Asn.cpLongMacroNgEnbIdToBitString id

def decNgEnbId : NgEnbIdAsn → Except Fault NgEnbId
  | .macroNgEnb id => NgEnbId.macroNgEnb <$> Asn.cpMacroNgEnbIdToU32 id
  | .shortMacroNgEnb id => NgEnbId.shortMacroNgEnb <$> Asn.cpShortMacroNgEnbIdToU32 id
  | .longMacroNgEnb id => NgEnbId.longMacroNgEnb <$> Asn.cpLongMacroNgEnbIdToU32 id

def encGlobalNgEnbAsn (src : GlobalNgEnbId) : Except Fault GlobalNgEnbIdAsn := do
  let ngEnbId ← encNgEnbId src.id
  pure { plmnIdentity := Asn.mccMncToPlmnid src.plmnId, ngEnbId }

def decGlobalNgEnbAsn (src : GlobalNgEnbIdAsn) : Except Fault GlobalNgEnbId := do
  let plmnId ← Asn.plmnidToMccMnc src.plmnIdentity
  let id ← decNgEnbId src.ngEnbId
  pure { plmnId, id }

def encGlobalNgRanAsn : GlobalNgRanNodeId → Except Fault GlobalNgRanNodeIdAsn
  | .gnb id => GlobalNgRanNodeIdAsn.gnb <$> encGlobalGnbIdAsn id
  | .ngEnb id => GlobalNgRanNodeIdAsn.ngEnb <$> encGlobalNgEnbAsn id

def decGlobalNgRanAsn : GlobalNgRanNodeIdAsn → Except Fault GlobalNgRanNodeId
  | .gnb id => GlobalNgRanNodeId.gnb <$> decGlobalGnbIdAsn id
  | .ngEnb id => GlobalNgRanNodeId.ngEnb <$> decGlobalNgEnbAsn id

/-- The ids of a list, of which there are so many at most. -/
def copyIdList (max : Nat) (ids : List UInt32) : Except Fault (List UInt32) := do
  check (1 ≤ ids.length ∧ ids.length ≤ max) .bound
  pure ids

def encRanUeId (id : UInt64) : Bytes := bytesOf 8 id.toNat

def decRanUeId (src : Bytes) : Except Fault UInt64 := do
  check (src.length = 8) .bound
  pure (UInt64.ofNat (valueOf src))

/-- An X2AP id, copied and checked against its maximum. -/
def copyX2apId (id : UInt16) : Except Fault UInt16 := do
  check (id.toNat < maxValEnbUeX2apId + 1) .bound
  pure id

def encGnbUeAsn (memory : Memory) (gnb : GnbE2sm) : Except Fault UeidGnb := do
  check (gnb.amfUeNgapId.toNat < 2 ^ 40) .bound
  let guami ← encGuami gnb.guami
  let gnbCuUeF1apIdList ← gnb.gnbCuUeF1apLst.mapM (copyIdList maxF1apId)
  let gnbCuCpUeE1apIdList ← gnb.gnbCuCpUeE1apLst.mapM (copyIdList maxE1apId)
  let globalGnbId ← gnb.globalGnbId.mapM encGlobalGnbIdAsn
  let globalNgRanNodeId ← gnb.globalNgRanNodeId.mapM encGlobalNgRanAsn
  pure {
    amfUeNgapId := asnInt642Integer memory gnb.amfUeNgapId
    guami
    gnbCuUeF1apIdList
    gnbCuCpUeE1apIdList
    ranUeid := gnb.ranUeId.map encRanUeId
    mNgRanUeXnapId := gnb.ngRanNodeUeXnapId
    globalGnbId
    globalNgRanNodeId }

def decGnbUeAsn (src : UeidGnb) : Except Fault GnbE2sm := do
  check (src.amfUeNgapId.octets.length < 6) .bound
  let amfUeNgapId := asnInteger2ulong src.amfUeNgapId
  check (amfUeNgapId.toNat < 2 ^ 40) .bound
  let guami ← decGuami src.guami
  let gnbCuUeF1apLst ← src.gnbCuUeF1apIdList.mapM (copyIdList maxF1apId)
  let gnbCuCpUeE1apLst ← src.gnbCuCpUeE1apIdList.mapM (copyIdList maxE1apId)
  let ranUeId ← src.ranUeid.mapM decRanUeId
  let globalGnbId ← src.globalGnbId.mapM decGlobalGnbIdAsn
  let globalNgRanNodeId ← src.globalNgRanNodeId.mapM decGlobalNgRanAsn
  pure {
    amfUeNgapId
    guami
    gnbCuUeF1apLst
    gnbCuCpUeE1apLst
    ranUeId
    ngRanNodeUeXnapId := src.mNgRanUeXnapId
    globalGnbId
    globalNgRanNodeId }

def encGnbDuUeAsn (gnbDu : GnbDuE2sm) : UeidGnbDu where
  gnbCuUeF1apId := gnbDu.gnbCuUeF1ap
  ranUeid := gnbDu.ranUeId.map encRanUeId

def decGnbDuUeAsn (src : UeidGnbDu) : Except Fault GnbDuE2sm := do
  let ranUeId ← src.ranUeid.mapM decRanUeId
  pure { gnbCuUeF1ap := src.gnbCuUeF1apId, ranUeId }

def encGnbCuUpUeAsn (gnbCuUp : GnbCuUpE2sm) : UeidGnbCuUp where
  gnbCuCpUeE1apId := gnbCuUp.gnbCuCpUeE1ap
  ranUeid := gnbCuUp.ranUeId.map encRanUeId

def decGnbCuUpUeAsn (src : UeidGnbCuUp) : Except Fault GnbCuUpE2sm := do
  let ranUeId ← src.ranUeid.mapM decRanUeId
  pure { gnbCuCpUeE1ap := src.gnbCuCpUeE1apId, ranUeId }

/-- Five bytes of the id are copied as they are in memory, the least significant one first. -/
def encNgEnbUeAsn (ngEnb : NgEnbE2sm) : Except Fault UeidNgEnb := do
  let guami ← encGuami ngEnb.guami
  let globalNgEnbId ← ngEnb.globalNgEnbId.mapM encGlobalNgEnbAsn
  let globalNgRanNodeId ← ngEnb.globalNgRanNodeId.mapM encGlobalNgRanAsn
  pure {
    amfUeNgapId := ⟨bytesOf 5 ngEnb.amfUeNgapId.toNat, []⟩
    guami
    ngEnbCuUeW1apId := ngEnb.ngEnbCuUeW1apId
    mNgRanUeXnapId := ngEnb.ngRanNodeUeXnapId
    globalNgEnbId
    globalNgRanNodeId }

/-- Five bytes are copied back, however many octets there are. -/
def decNgEnbUeAsn (src : UeidNgEnb) : Except Fault NgEnbE2sm := do
  let amfUeNgapId := valueOf ((src.amfUeNgapId.octets ++ src.amfUeNgapId.behind).take 5)
  check (amfUeNgapId < 2 ^ 40) .bound
  let guami ← decGuami src.guami
  let globalNgEnbId ← src.globalNgEnbId.mapM decGlobalNgEnbAsn
  let globalNgRanNodeId ← src.globalNgRanNodeId.mapM decGlobalNgRanAsn
  pure {
    amfUeNgapId := UInt64.ofNat amfUeNgapId
    guami
    ngEnbCuUeW1apId := src.ngEnbCuUeW1apId
    ngRanNodeUeXnapId := src.mNgRanUeXnapId
    globalNgEnbId
    globalNgRanNodeId }

def encNgEnbDuUeAsn (ngEnbDu : NgEnbDuE2sm) : UeidNgEnbDu where
  ngEnbCuUeW1apId := ngEnbDu.ngEnbCuUeW1apId

def decNgEnbDuUeAsn (src : UeidNgEnbDu) : NgEnbDuE2sm where
  ngEnbCuUeW1apId := src.ngEnbCuUeW1apId

def encEnGnbUeAsn (enGnb : EnGnbE2sm) : Except Fault UeidEnGnb := do
  let mEnbUeX2apId ← copyX2apId enGnb.enbUeX2apId
  let mEnbUeX2apIdExtension ← enGnb.enbUeX2apIdExtension.mapM copyX2apId
  let globalEnbId ← encGlobalEnbIdAsn enGnb.globalEnbId
  let gnbCuCpUeE1apIdList ← enGnb.gnbCuCpUeE1apLst.mapM (copyIdList maxE1apId)
  pure {
    mEnbUeX2apId
    mEnbUeX2apIdExtension
    globalEnbId
    gnbCuUeF1apId := enGnb.gnbCuUeF1apLst
    gnbCuCpUeE1apIdList
    ranUeid := enGnb.ranUeId.map encRanUeId }

def decEnGnbUeAsn (src : UeidEnGnb) : Except Fault EnGnbE2sm := do
  let enbUeX2apId ← copyX2apId src.mEnbUeX2apId
  let enbUeX2apIdExtension ← src.mEnbUeX2apIdExtension.mapM copyX2apId
  let globalEnbId ← decGlobalEnbIdAsn src.globalEnbId
  let gnbCuCpUeE1apLst ← src.gnbCuCpUeE1apIdList.mapM (copyIdList maxE1apId)
  let ranUeId ← src.ranUeid.mapM decRanUeId
  pure {
    enbUeX2apId
    enbUeX2apIdExtension
    globalEnbId
    gnbCuUeF1apLst := src.gnbCuUeF1apId
    gnbCuCpUeE1apLst
    ranUeId }

def encEnbUeAsn (enb : EnbE2sm) : Except Fault UeidEnb := do
  let mEnbUeX2apId ← enb.enbUeX2apId.mapM copyX2apId
  let mEnbUeX2apIdExtension ← enb.enbUeX2apIdExtension.mapM copyX2apId
  let globalEnbId ← enb.globalEnbId.mapM encGlobalEnbIdAsn
  pure {
    mmeUeS1apId := enb.mmeUeS1apId
    gummei := encGummei enb.gummei
    mEnbUeX2apId
    mEnbUeX2apIdExtension
    globalEnbId }

def decEnbUeAsn (src : UeidEnb) : Except Fault EnbE2sm := do
  let gummei ← decGummei src.gummei
  let enbUeX2apId ← src.mEnbUeX2apId.mapM copyX2apId
  let enbUeX2apIdExtension ← src.mEnbUeX2apIdExtension.mapM copyX2apId
  let globalEnbId ← src.globalEnbId.mapM decGlobalEnbIdAsn
  pure { mmeUeS1apId := src.mmeUeS1apId, gummei, enbUeX2apId, enbUeX2apIdExtension, globalEnbId }

def encUeIdAsn (memory : Memory) : UeIdE2sm → Except Fault Ueid
  | .gnb id => Ueid.gnb <$> encGnbUeAsn memory id
  | .gnbDu id => pure (.gnbDu (encGnbDuUeAsn id))
  | .gnbCuUp id => pure (.gnbCuUp (encGnbCuUpUeAsn id))
  | .ngEnb id => Ueid.ngEnb <$> encNgEnbUeAsn id
  | .ngEnbDu id => pure (.ngEnbDu (encNgEnbDuUeAsn id))
  | .enGnb id => Ueid.enGnb <$> encEnGnbUeAsn id
  | .enb id => Ueid.enb <$> encEnbUeAsn id

def decUeIdAsn : Ueid → Except Fault UeIdE2sm
  | .gnb id => UeIdE2sm.gnb <$> decGnbUeAsn id
  | .gnbDu id => UeIdE2sm.gnbDu <$> decGnbDuUeAsn id
  | .gnbCuUp id => UeIdE2sm.gnbCuUp <$> decGnbCuUpUeAsn id
  | .ngEnb id => UeIdE2sm.ngEnb <$> decNgEnbUeAsn id
  | .ngEnbDu id => pure (.ngEnbDu (decNgEnbDuUeAsn id))
  | .enGnb id => UeIdE2sm.enGnb <$> decEnGnbUeAsn id
  | .enb id => UeIdE2sm.enb <$> decEnbUeAsn id

/-- What the generated codec makes of an identity: it keeps everything, and the number of
    an INTEGER, not its octets. -/
def aperUeid (memory : Memory) : Ueid → Except Fault Ueid
  | .gnb id => do
      let amfUeNgapId ← aperAmfUeNgapId memory id.amfUeNgapId
      pure (.gnb { id with amfUeNgapId })
  | .ngEnb id => do
      let amfUeNgapId ← aperAmfUeNgapId memory id.amfUeNgapId
      pure (.ngEnb { id with amfUeNgapId })
  | id => pure id

end FlexRic.E2sm
