import FlexRic.Asn.BitStrings
import FlexRic.E2sm.UeIdCodec

/-! # The parts of UE identities survive their codec

For each part what comes back is exact: a part is refused or read back as it was.
-/

namespace FlexRic.E2sm

open Asn (BitString Fault PlmnFits SiteInRange)
open Octets
open Wire (Bytes bytesOf valueOf length_bytesOf valueOf_bytesOf)

theorem regionId_back_iff (id : UInt8) :
    (Asn.cpAmfRegionIdToBitString id >>= Asn.cpAmfRegionIdToU8) = .ok id ↔ id < 64 := by
  rw [bind_eq_ok]
  constructor
  · rintro ⟨bits, taken, -⟩
    obtain ⟨_, small, -⟩ := bind_eq_ok.mp taken
    exact check_eq_ok.mp small
  · intro small
    exact ⟨⟨[id], 0⟩, by rw [Asn.cpAmfRegionIdToBitString, check_pass _ small]; rfl, rfl⟩

theorem setId_back (id : BitVec 10) :
    ∃ bits, Asn.cpAmfSetIdToBitString (UInt16.ofNat id.toNat) = .ok bits ∧
      Asn.cpAmfSetIdToU16 bits = .ok (UInt16.ofNat id.toNat) := by
  have small := id.isLt
  have kept : (UInt16.ofNat id.toNat).toNat = id.toNat :=
    UInt16.toNat_ofNat_of_lt' (Nat.lt_trans small (by decide))
  exact bind_eq_ok.mp (Asn.amfSetId_back (by rwa [kept]))

theorem ptr_back (id : BitVec 6) :
    ∃ bits, Asn.cpAmfPtrToBitString (UInt8.ofNat id.toNat) = .ok bits ∧
      Asn.cpAmfPtrToU8 bits = .ok (UInt8.ofNat id.toNat) := by
  have small := id.isLt
  have kept : (UInt8.ofNat id.toNat).toNat = id.toNat :=
    UInt8.toNat_ofNat_of_lt' (Nat.lt_trans small (by decide))
  exact bind_eq_ok.mp (Asn.amfPtr_back (by rwa [kept]))

/-- What of the identity of an AMF comes back. -/
def GuamiKept (src : Guami) : Prop := PlmnFits src.plmnId ∧ src.amfRegionId < 64

theorem guami_back_iff (src : Guami) : (encGuami src >>= decGuami) = .ok src ↔ GuamiKept src := by
  obtain ⟨plmnId, region, setId, ptr⟩ := src
  obtain ⟨setBits, setTaken, setBack⟩ := setId_back setId
  obtain ⟨ptrBits, ptrTaken, ptrBack⟩ := ptr_back ptr
  have setKept : BitVec.ofNat 10 (UInt16.ofNat setId.toNat).toNat = setId := by
    rw [UInt16.toNat_ofNat_of_lt' (Nat.lt_trans setId.isLt (by decide)), BitVec.ofNat_toNat,
      BitVec.setWidth_eq]
  have ptrKept : BitVec.ofNat 6 (UInt8.ofNat ptr.toNat).toNat = ptr := by
    rw [UInt8.toNat_ofNat_of_lt' (Nat.lt_trans ptr.isLt (by decide)), BitVec.ofNat_toNat,
      BitVec.setWidth_eq]
  rw [GuamiKept, ← Asn.plmnid_back_iff, ← regionId_back_iff]
  simp only [encGuami, decGuami, setTaken, ptrTaken, bind_eq_ok, Except.ok.injEq, exists_eq_left',
    pure_eq_ok, Guami.mk.injEq]
  constructor
  · rintro ⟨_, ⟨regionBits, taken, rfl⟩, plmn, plmnBack, region', back, _, setBack', _, ptrBack',
      rfl, rfl, -⟩
    exact ⟨plmnBack, regionBits, taken, back⟩
  · rintro ⟨plmnBack, regionBits, taken, back⟩
    exact ⟨_, ⟨regionBits, taken, rfl⟩, _, plmnBack, _, back, _, setBack, _, ptrBack, rfl, rfl,
      setKept, ptrKept⟩

theorem int16_back (x : UInt16) : octetStringToInt16 (int16ToOctetString x) = .ok x := by
  have first : (UInt8.ofNat (x.toNat >>> 8)).toNat = x.toNat / 2 ^ 8 := by
    have small := x.toNat_lt
    rw [UInt8.toNat_ofNat', Nat.shiftRight_eq_div_pow]
    omega
  have second : (UInt8.ofNat x.toNat).toNat < 2 ^ 8 := (UInt8.ofNat x.toNat).toNat_lt
  have whole : x.toNat / 2 ^ 8 * 2 ^ 8 + (UInt8.ofNat x.toNat).toNat = x.toNat := by
    rw [UInt8.toNat_ofNat']
    omega
  have value :
      (UInt8.ofNat (x.toNat >>> 8)).toNat <<< 8 ||| (UInt8.ofNat x.toNat).toNat = x.toNat := by
    rw [first, Asn.or_eq_add second, whole]
  rw [int16ToOctetString, octetStringToInt16, value, UInt16.ofNat_toNat]
  rfl

theorem gummei_back_iff (src : Gummei) :
    decGummei (encGummei src) = .ok src ↔ PlmnFits src.plmnId := by
  obtain ⟨plmnId, group, code⟩ := src
  rw [← Asn.plmnid_back_iff]
  simp only [decGummei, encGummei, int16_back, octetStringToInt8, bind_eq_ok, pure_eq_ok,
    Gummei.mk.injEq, Except.ok.injEq, exists_eq_left', and_true, exists_eq_right]

def GlobalGnbIdKept (src : GlobalGnbId) : Prop := PlmnFits src.plmnId ∧ SiteInRange src.gnbId

theorem globalGnbId_back_iff (src : GlobalGnbId) :
    (encGlobalGnbIdAsn src >>= decGlobalGnbIdAsn) = .ok src ↔ GlobalGnbIdKept src := by
  obtain ⟨plmnId, gnbId⟩ := src
  rw [GlobalGnbIdKept, ← Asn.plmnid_back_iff, ← Asn.gnbId_taken_iff]
  simp only [encGlobalGnbIdAsn, decGlobalGnbIdAsn, bind_eq_ok, pure_eq_ok, GlobalGnbId.mk.injEq]
  constructor
  · rintro ⟨_, ⟨bits, taken, rfl⟩, plmn, plmnBack, site, -, rfl, -⟩
    exact ⟨plmnBack, bits, taken⟩
  · rintro ⟨plmnBack, bits, taken⟩
    exact ⟨_, ⟨bits, taken, rfl⟩, _, plmnBack, _, Asn.gnbId_back gnbId bits taken, rfl, rfl⟩

def EnbIdInRange : EnbId → Prop
  | .macroEnb id => id.toNat < 2 ^ 20
  | .homeEnb id => id.toNat < 2 ^ 28
  | .shortMacroEnb id => id.toNat < 2 ^ 18
  | .longMacroEnb id => id.toNat < 2 ^ 21

theorem enbId_back_iff (id : EnbId) : (encEnbId id >>= decEnbId) = .ok id ↔ EnbIdInRange id := by
  cases id with
  | macroEnb id =>
      refine (map_back_iff Asn.cpMacroEnbIdToBitString Asn.cpMacroEnbIdToU32 EnbIdAsn.macroEnb
        decEnbId EnbId.macroEnb (fun _ => rfl) fun _ _ => EnbId.macroEnb.inj).trans ?_
      exact Asn.threeOctets_back_iff (by decide) (by decide) id
  | homeEnb id =>
      refine (map_back_iff Asn.cpHomeEnbIdToBitString Asn.cpHomeEnbIdToU32 EnbIdAsn.homeEnb
        decEnbId EnbId.homeEnb (fun _ => rfl) fun _ _ => EnbId.homeEnb.inj).trans ?_
      exact Asn.fourOctets_back_iff (by decide) (by decide) id
  | shortMacroEnb id =>
      refine (map_back_iff Asn.cpShortMacroEnbIdToBitString Asn.cpShortMacroEnbIdToU32
        EnbIdAsn.shortMacroEnb
        decEnbId EnbId.shortMacroEnb (fun _ => rfl) fun _ _ => EnbId.shortMacroEnb.inj).trans ?_
      exact Asn.threeOctets_back_iff (by decide) (by decide) id
  | longMacroEnb id =>
      refine (map_back_iff Asn.cpLongMacroEnbIdToBitString Asn.cpLongMacroEnbIdToU32
        EnbIdAsn.longMacroEnb
        decEnbId EnbId.longMacroEnb (fun _ => rfl) fun _ _ => EnbId.longMacroEnb.inj).trans ?_
      exact Asn.threeOctets_back_iff (by decide) (by decide) id

def GlobalEnbIdKept (src : GlobalEnbId) : Prop := PlmnFits src.plmnId ∧ EnbIdInRange src.id

theorem globalEnbId_back_iff (src : GlobalEnbId) :
    (encGlobalEnbIdAsn src >>= decGlobalEnbIdAsn) = .ok src ↔ GlobalEnbIdKept src := by
  obtain ⟨plmnId, id⟩ := src
  rw [GlobalEnbIdKept, ← Asn.plmnid_back_iff, ← enbId_back_iff]
  simp only [encGlobalEnbIdAsn, decGlobalEnbIdAsn, bind_eq_ok, pure_eq_ok, GlobalEnbId.mk.injEq]
  constructor
  · rintro ⟨_, ⟨enb, taken, rfl⟩, plmn, plmnBack, id', back, rfl, rfl⟩
    exact ⟨plmnBack, enb, taken, back⟩
  · rintro ⟨plmnBack, enb, taken, back⟩
    exact ⟨_, ⟨enb, taken, rfl⟩, _, plmnBack, _, back, rfl, rfl⟩

def NgEnbIdInRange : NgEnbId → Prop
  | .macroNgEnb id => id.toNat < 2 ^ 20
  | .shortMacroNgEnb id => id.toNat < 2 ^ 18
  | .longMacroNgEnb id => id.toNat < 2 ^ 21

theorem ngEnbId_back_iff (id : NgEnbId) :
    (encNgEnbId id >>= decNgEnbId) = .ok id ↔ NgEnbIdInRange id := by
  cases id with
  | macroNgEnb id =>
      refine (map_back_iff Asn.cpMacroNgEnbIdToBitString Asn.cpMacroNgEnbIdToU32
        NgEnbIdAsn.macroNgEnb
        decNgEnbId NgEnbId.macroNgEnb (fun _ => rfl) fun _ _ => NgEnbId.macroNgEnb.inj).trans ?_
      exact Asn.threeOctets_back_iff (by decide) (by decide) id
  | shortMacroNgEnb id =>
      refine (map_back_iff Asn.cpShortMacroNgEnbIdToBitString Asn.cpShortMacroNgEnbIdToU32
        NgEnbIdAsn.shortMacroNgEnb
        decNgEnbId NgEnbId.shortMacroNgEnb (fun _ => rfl)
          fun _ _ => NgEnbId.shortMacroNgEnb.inj).trans ?_
      exact Asn.threeOctets_back_iff (by decide) (by decide) id
  | longMacroNgEnb id =>
      refine (map_back_iff Asn.cpLongMacroNgEnbIdToBitString Asn.cpLongMacroNgEnbIdToU32
        NgEnbIdAsn.longMacroNgEnb
        decNgEnbId NgEnbId.longMacroNgEnb (fun _ => rfl)
          fun _ _ => NgEnbId.longMacroNgEnb.inj).trans ?_
      exact Asn.threeOctets_back_iff (by decide) (by decide) id

def GlobalNgEnbIdKept (src : GlobalNgEnbId) : Prop := PlmnFits src.plmnId ∧ NgEnbIdInRange src.id

theorem globalNgEnbId_back_iff (src : GlobalNgEnbId) :
    (encGlobalNgEnbAsn src >>= decGlobalNgEnbAsn) = .ok src ↔ GlobalNgEnbIdKept src := by
  obtain ⟨plmnId, id⟩ := src
  rw [GlobalNgEnbIdKept, ← Asn.plmnid_back_iff, ← ngEnbId_back_iff]
  simp only [encGlobalNgEnbAsn, decGlobalNgEnbAsn, bind_eq_ok, pure_eq_ok, GlobalNgEnbId.mk.injEq]
  constructor
  · rintro ⟨_, ⟨enb, taken, rfl⟩, plmn, plmnBack, id', back, rfl, rfl⟩
    exact ⟨plmnBack, enb, taken, back⟩
  · rintro ⟨plmnBack, enb, taken, back⟩
    exact ⟨_, ⟨enb, taken, rfl⟩, _, plmnBack, _, back, rfl, rfl⟩

def GlobalNgRanNodeIdKept : GlobalNgRanNodeId → Prop
  | .gnb id => GlobalGnbIdKept id
  | .ngEnb id => GlobalNgEnbIdKept id

theorem globalNgRanNodeId_back_iff (src : GlobalNgRanNodeId) :
    (encGlobalNgRanAsn src >>= decGlobalNgRanAsn) = .ok src ↔ GlobalNgRanNodeIdKept src := by
  cases src with
  | gnb id =>
      refine (map_back_iff encGlobalGnbIdAsn decGlobalGnbIdAsn GlobalNgRanNodeIdAsn.gnb
        decGlobalNgRanAsn GlobalNgRanNodeId.gnb (fun _ => rfl)
          fun _ _ => GlobalNgRanNodeId.gnb.inj).trans ?_
      exact globalGnbId_back_iff id
  | ngEnb id =>
      refine (map_back_iff encGlobalNgEnbAsn decGlobalNgEnbAsn GlobalNgRanNodeIdAsn.ngEnb
        decGlobalNgRanAsn GlobalNgRanNodeId.ngEnb (fun _ => rfl)
          fun _ _ => GlobalNgRanNodeId.ngEnb.inj).trans ?_
      exact globalNgEnbId_back_iff id

/-- There are some ids, and not too many. -/
def IdListFits (max : Nat) (ids : List UInt32) : Prop := 1 ≤ ids.length ∧ ids.length ≤ max

theorem idList_back_iff (max : Nat) (ids : List UInt32) :
    (copyIdList max ids >>= copyIdList max) = .ok ids ↔ IdListFits max ids := by
  simp only [copyIdList, bind_eq_ok, check_eq_ok, pure_eq_ok]
  constructor
  · rintro ⟨_, ⟨_, fits, rfl⟩, -⟩
    exact fits
  · intro fits
    exact ⟨ids, ⟨(), fits, rfl⟩, (), fits, rfl⟩

@[simp] theorem ranUeId_back (id : UInt64) : decRanUeId (encRanUeId id) = .ok id := by
  have eight : (encRanUeId id).length = 8 := length_bytesOf 8 _
  have kept : valueOf (encRanUeId id) = id.toNat := by
    rw [encRanUeId, valueOf_bytesOf]
    exact Nat.mod_eq_of_lt id.toNat_lt
  rw [decRanUeId, check_pass _ eight, ok_bind, kept, UInt64.ofNat_toNat]
  rfl

@[simp] theorem optional_ranUeId_back (o : Option UInt64) :
    (o.map encRanUeId).mapM decRanUeId = .ok o := by
  cases o with
  | none => rfl
  | some id => exact mapM_some_eq_ok.mpr ⟨id, ranUeId_back id, rfl⟩

theorem x2apId_back_iff (id : UInt16) :
    (copyX2apId id >>= copyX2apId) = .ok id ↔ id.toNat ≤ maxValEnbUeX2apId := by
  simp only [copyX2apId, bind_eq_ok, check_eq_ok, pure_eq_ok, Nat.lt_succ_iff]
  constructor
  · rintro ⟨_, ⟨_, fits, rfl⟩, -⟩
    exact fits
  · intro fits
    exact ⟨id, ⟨(), fits, rfl⟩, (), fits, rfl⟩

end FlexRic.E2sm
