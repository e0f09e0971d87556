import FlexRic.E2sm.AmfUeNgapId
import FlexRic.E2sm.Fields
import FlexRic.E2sm.UeIdParts

/-! # Identities of UEs survive their codec

An identity comes back just when each of its parts does. Two parts are narrower than
the encoder takes them for: the region of an AMF, and the id of the UE at the AMF.
-/

namespace FlexRic.E2sm

open Asn (Fault PlmnFits)

/-- What of an identity in a gNB comes back. -/
structure GnbKept (gnb : GnbE2sm) : Prop where
  amfUeNgapId : gnb.amfUeNgapId.toNat < 2 ^ 39
  guami : GuamiKept gnb.guami
  gnbCuUeF1apLst : ∀ ids ∈ gnb.gnbCuUeF1apLst, IdListFits maxF1apId ids
  gnbCuCpUeE1apLst : ∀ ids ∈ gnb.gnbCuCpUeE1apLst, IdListFits maxE1apId ids
  globalGnbId : ∀ id ∈ gnb.globalGnbId, GlobalGnbIdKept id
  globalNgRanNodeId : ∀ id ∈ gnb.globalNgRanNodeId, GlobalNgRanNodeIdKept id

theorem gnb_back_iff (there here : Memory) (gnb : GnbE2sm) :
    (encUeIdAsn there (.gnb gnb) >>= aperUeid here >>= decUeIdAsn) = .ok (.gnb gnb) ↔
      GnbKept gnb := by
  obtain ⟨amf, guami, f1ap, e1ap, ran, xnap, global, node⟩ := gnb
  constructor
  · intro back
    simp only [encUeIdAsn, encGnbUeAsn, bind_eq_ok, map_eq_ok, pure_eq_ok, check_eq_ok] at back
    obtain ⟨_, ⟨_, ⟨_, ⟨_, small, guami', guamiTaken, f1ap', f1apTaken, e1ap', e1apTaken,
      global', globalTaken, node', nodeTaken, rfl⟩, rfl⟩, aper⟩, back⟩ := back
    rw [aperUeid, aperAmfUeNgapId_int64 there here small] at aper
    obtain rfl := Except.ok.inj aper
    simp only [decUeIdAsn, decGnbUeAsn, bind_eq_ok, map_eq_ok, pure_eq_ok, check_eq_ok,
      UeIdE2sm.gnb.injEq, asnInteger2ulong_back here (Nat.lt_trans small (by decide))] at back
    obtain ⟨_, ⟨_, few, _, -, _, guamiBack, _, f1apBack, _, e1apBack, _, -, _, globalBack, _,
      nodeBack, rfl⟩, same⟩ := back
    cases same
    exact
      { amfUeNgapId := (length_int64_lt_iff here small).mp few
        guami := (guami_back_iff guami).mp (bind_eq_ok.mpr ⟨guami', guamiTaken, guamiBack⟩)
        gnbCuUeF1apLst :=
          (optional_kept_iff (idList_back_iff maxF1apId)).mp ⟨f1ap', f1apTaken, f1apBack⟩
        gnbCuCpUeE1apLst :=
          (optional_kept_iff (idList_back_iff maxE1apId)).mp ⟨e1ap', e1apTaken, e1apBack⟩
        globalGnbId :=
          (optional_kept_iff globalGnbId_back_iff).mp ⟨global', globalTaken, globalBack⟩
        globalNgRanNodeId :=
          (optional_kept_iff globalNgRanNodeId_back_iff).mp ⟨node', nodeTaken, nodeBack⟩ }
  · intro kept
    have half : amf.toNat < 2 ^ 39 := kept.amfUeNgapId
    have small : amf.toNat < 2 ^ 40 := Nat.lt_trans half (by decide)
    obtain ⟨guami', guamiTaken, guamiBack⟩ := bind_eq_ok.mp ((guami_back_iff guami).mpr kept.guami)
    obtain ⟨f1ap', f1apTaken, f1apBack⟩ :=
      (optional_kept_iff (idList_back_iff maxF1apId)).mpr kept.gnbCuUeF1apLst
    obtain ⟨e1ap', e1apTaken, e1apBack⟩ :=
      (optional_kept_iff (idList_back_iff maxE1apId)).mpr kept.gnbCuCpUeE1apLst
    obtain ⟨global', globalTaken, globalBack⟩ :=
      (optional_kept_iff globalGnbId_back_iff).mpr kept.globalGnbId
    obtain ⟨node', nodeTaken, nodeBack⟩ :=
      (optional_kept_iff globalNgRanNodeId_back_iff).mpr kept.globalNgRanNodeId
    have few := (length_int64_lt_iff here small).mpr half
    have number := asnInteger2ulong_back here (Nat.lt_trans small (by decide))
    simp only [encUeIdAsn, encGnbUeAsn, bind_eq_ok, map_eq_ok, pure_eq_ok, check_eq_ok]
    refine ⟨_, ⟨_, ⟨_, ⟨(), small, guami', guamiTaken, f1ap', f1apTaken, e1ap', e1apTaken, global',
      globalTaken, node', nodeTaken, rfl⟩, rfl⟩,
      bind_eq_ok.mpr ⟨_, aperAmfUeNgapId_int64 there here small, rfl⟩⟩, ?_⟩
    simp only [decUeIdAsn, decGnbUeAsn, bind_eq_ok, map_eq_ok, pure_eq_ok, check_eq_ok, number]
    exact ⟨_, ⟨(), few, (), small, guami, guamiBack, f1ap, f1apBack, e1ap, e1apBack, ran,
      optional_ranUeId_back ran, global, globalBack, node, nodeBack, rfl⟩, rfl⟩

theorem gnbDu_back (gnbDu : GnbDuE2sm) : decGnbDuUeAsn (encGnbDuUeAsn gnbDu) = .ok gnbDu :=
  bind_eq_ok.mpr ⟨gnbDu.ranUeId, optional_ranUeId_back gnbDu.ranUeId, rfl⟩

theorem gnbCuUp_back (gnbCuUp : GnbCuUpE2sm) :
    decGnbCuUpUeAsn (encGnbCuUpUeAsn gnbCuUp) = .ok gnbCuUp :=
  bind_eq_ok.mpr ⟨gnbCuUp.ranUeId, optional_ranUeId_back gnbCuUp.ranUeId, rfl⟩

/-- What of an identity in an ng-eNB comes back, where the numbers that do are known. -/
structure NgEnbKept (NumberKept : UInt64 → Prop) (ngEnb : NgEnbE2sm) : Prop where
  amfUeNgapId : NumberKept ngEnb.amfUeNgapId
  guami : GuamiKept ngEnb.guami
  globalNgEnbId : ∀ id ∈ ngEnb.globalNgEnbId, GlobalNgEnbIdKept id
  globalNgRanNodeId : ∀ id ∈ ngEnb.globalNgRanNodeId, GlobalNgRanNodeIdKept id

/-- An ng-eNB reads behind the octets, where it finds what memory holds. -/
theorem ngEnb_back_iff (there here : Memory) (ngEnb : NgEnbE2sm) :
    (encUeIdAsn there (.ngEnb ngEnb) >>= aperUeid here >>= decUeIdAsn) = .ok (.ngEnb ngEnb) ↔
      NgEnbKept (CopyKeptIn here) ngEnb := by
  obtain ⟨amf, guami, w1ap, xnap, global, node⟩ := ngEnb
  constructor
  · intro back
    simp only [encUeIdAsn, encNgEnbUeAsn, bind_eq_ok, map_eq_ok, pure_eq_ok] at back
    obtain ⟨_,
      ⟨_, ⟨_, ⟨guami', guamiTaken, global', globalTaken, node', nodeTaken, rfl⟩, rfl⟩, aper⟩,
      back⟩ := back
    simp only [aperUeid, bind_eq_ok, pure_eq_ok] at aper
    obtain ⟨i, taken, rfl⟩ := aper
    simp only [decUeIdAsn, decNgEnbUeAsn, bind_eq_ok, map_eq_ok, pure_eq_ok, check_eq_ok,
      UeIdE2sm.ngEnb.injEq] at back
    obtain ⟨_, ⟨_, fits, _, guamiBack, _, globalBack, _, nodeBack, rfl⟩, same⟩ := back
    have number := congrArg NgEnbE2sm.amfUeNgapId same
    obtain ⟨-, rfl, -, -, rfl, rfl⟩ := NgEnbE2sm.mk.inj same
    exact
      { amfUeNgapId := (copy_back_iff here amf).mp ⟨i, taken, fits, number⟩
        guami := (guami_back_iff _).mp (bind_eq_ok.mpr ⟨guami', guamiTaken, guamiBack⟩)
        globalNgEnbId :=
          (optional_kept_iff globalNgEnbId_back_iff).mp ⟨global', globalTaken, globalBack⟩
        globalNgRanNodeId :=
          (optional_kept_iff globalNgRanNodeId_back_iff).mp ⟨node', nodeTaken, nodeBack⟩ }
  · intro kept
    obtain ⟨i, taken, fits, number⟩ := (copy_back_iff here amf).mpr kept.amfUeNgapId
    rw [copiedBack] at fits number
    obtain ⟨guami', guamiTaken, guamiBack⟩ := bind_eq_ok.mp ((guami_back_iff guami).mpr kept.guami)
    obtain ⟨global', globalTaken, globalBack⟩ :=
      (optional_kept_iff globalNgEnbId_back_iff).mpr kept.globalNgEnbId
    obtain ⟨node', nodeTaken, nodeBack⟩ :=
      (optional_kept_iff globalNgRanNodeId_back_iff).mpr kept.globalNgRanNodeId
    simp only [encUeIdAsn, encNgEnbUeAsn, bind_eq_ok, map_eq_ok, pure_eq_ok]
    refine ⟨_, ⟨_, ⟨_, ⟨guami', guamiTaken, global', globalTaken, node', nodeTaken, rfl⟩, rfl⟩,
      bind_eq_ok.mpr ⟨i, taken, rfl⟩⟩, ?_⟩
    simp only [decUeIdAsn, decNgEnbUeAsn, bind_eq_ok, map_eq_ok, pure_eq_ok, check_eq_ok, number]
    exact ⟨_, ⟨(), fits, guami, guamiBack, global, globalBack, node, nodeBack, rfl⟩, rfl⟩

/-- What of an identity in an en-gNB comes back. -/
structure EnGnbKept (enGnb : EnGnbE2sm) : Prop where
  enbUeX2apId : enGnb.enbUeX2apId.toNat ≤ maxValEnbUeX2apId
  enbUeX2apIdExtension : ∀ id ∈ enGnb.enbUeX2apIdExtension, id.toNat ≤ maxValEnbUeX2apId
  globalEnbId : GlobalEnbIdKept enGnb.globalEnbId
  gnbCuCpUeE1apLst : ∀ ids ∈ enGnb.gnbCuCpUeE1apLst, IdListFits maxE1apId ids

theorem enGnb_back_iff (there here : Memory) (enGnb : EnGnbE2sm) :
    (encUeIdAsn there (.enGnb enGnb) >>= aperUeid here >>= decUeIdAsn) = .ok (.enGnb enGnb) ↔
      EnGnbKept enGnb := by
  obtain ⟨x2ap, extension, global, f1ap, e1ap, ran⟩ := enGnb
  constructor
  · intro back
    simp only [encUeIdAsn, encEnGnbUeAsn, bind_eq_ok, map_eq_ok, pure_eq_ok] at back
    obtain ⟨_, ⟨_, ⟨_, ⟨x2ap', x2apTaken, extension', extensionTaken, global', globalTaken, e1ap',
      e1apTaken, rfl⟩, rfl⟩, aper⟩, back⟩ := back
    obtain rfl := Except.ok.inj aper
    simp only [decUeIdAsn, decEnGnbUeAsn, bind_eq_ok, map_eq_ok, pure_eq_ok,
      UeIdE2sm.enGnb.injEq] at back
    obtain ⟨_, ⟨_, x2apBack, _, extensionBack, _, globalBack, _, e1apBack, _, -, rfl⟩, same⟩ := back
    cases same
    exact
      { enbUeX2apId := (x2apId_back_iff _).mp (bind_eq_ok.mpr ⟨x2ap', x2apTaken, x2apBack⟩)
        enbUeX2apIdExtension :=
          (optional_kept_iff x2apId_back_iff).mp ⟨extension', extensionTaken, extensionBack⟩
        globalEnbId :=
          (globalEnbId_back_iff _).mp (bind_eq_ok.mpr ⟨global', globalTaken, globalBack⟩)
        gnbCuCpUeE1apLst :=
          (optional_kept_iff (idList_back_iff maxE1apId)).mp ⟨e1ap', e1apTaken, e1apBack⟩ }
  · intro kept
    obtain ⟨x2ap', x2apTaken, x2apBack⟩ :=
      bind_eq_ok.mp ((x2apId_back_iff x2ap).mpr kept.enbUeX2apId)
    obtain ⟨extension', extensionTaken, extensionBack⟩ :=
      (optional_kept_iff x2apId_back_iff).mpr kept.enbUeX2apIdExtension
    obtain ⟨global', globalTaken, globalBack⟩ :=
      bind_eq_ok.mp ((globalEnbId_back_iff global).mpr kept.globalEnbId)
    obtain ⟨e1ap', e1apTaken, e1apBack⟩ :=
      (optional_kept_iff (idList_back_iff maxE1apId)).mpr kept.gnbCuCpUeE1apLst
    simp only [encUeIdAsn, encEnGnbUeAsn, bind_eq_ok, map_eq_ok, pure_eq_ok]
    refine ⟨_, ⟨_, ⟨_, ⟨x2ap', x2apTaken, extension', extensionTaken, global', globalTaken, e1ap',
      e1apTaken, rfl⟩, rfl⟩, rfl⟩, ?_⟩
    simp only [decUeIdAsn, decEnGnbUeAsn, bind_eq_ok, map_eq_ok, pure_eq_ok]
    exact ⟨_, ⟨x2ap, x2apBack, extension, extensionBack, global, globalBack, e1ap, e1apBack, ran,
      optional_ranUeId_back ran, rfl⟩, rfl⟩

/-- What of an identity in an eNB comes back. -/
structure EnbKept (enb : EnbE2sm) : Prop where
  gummei : PlmnFits enb.gummei.plmnId
  enbUeX2apId : ∀ id ∈ enb.enbUeX2apId, id.toNat ≤ maxValEnbUeX2apId
  enbUeX2apIdExtension : ∀ id ∈ enb.enbUeX2apIdExtension, id.toNat ≤ maxValEnbUeX2apId
  globalEnbId : ∀ id ∈ enb.globalEnbId, GlobalEnbIdKept id

theorem enb_back_iff (there here : Memory) (enb : EnbE2sm) :
    (encUeIdAsn there (.enb enb) >>= aperUeid here >>= decUeIdAsn) = .ok (.enb enb) ↔
      EnbKept enb := by
  obtain ⟨s1ap, gummei, x2ap, extension, global⟩ := enb
  constructor
  · intro back
    simp only [encUeIdAsn, encEnbUeAsn, bind_eq_ok, map_eq_ok, pure_eq_ok] at back
    obtain ⟨_, ⟨_, ⟨_, ⟨x2ap', x2apTaken, extension', extensionTaken, global', globalTaken, rfl⟩,
      rfl⟩, aper⟩, back⟩ := back
    obtain rfl := Except.ok.inj aper
    simp only [decUeIdAsn, decEnbUeAsn, bind_eq_ok, map_eq_ok, pure_eq_ok,
      UeIdE2sm.enb.injEq] at back
    obtain ⟨_, ⟨_, gummeiBack, _, x2apBack, _, extensionBack, _, globalBack, rfl⟩, same⟩ := back
    obtain ⟨-, rfl, rfl, rfl, rfl⟩ := same
    exact
      { gummei := (gummei_back_iff _).mp gummeiBack
        enbUeX2apId := (optional_kept_iff x2apId_back_iff).mp ⟨x2ap', x2apTaken, x2apBack⟩
        enbUeX2apIdExtension :=
          (optional_kept_iff x2apId_back_iff).mp ⟨extension', extensionTaken, extensionBack⟩
        globalEnbId :=
          (optional_kept_iff globalEnbId_back_iff).mp ⟨global', globalTaken, globalBack⟩ }
  · intro kept
    have gummeiBack := (gummei_back_iff gummei).mpr kept.gummei
    obtain ⟨x2ap', x2apTaken, x2apBack⟩ :=
      (optional_kept_iff x2apId_back_iff).mpr kept.enbUeX2apId
    obtain ⟨extension', extensionTaken, extensionBack⟩ :=
      (optional_kept_iff x2apId_back_iff).mpr kept.enbUeX2apIdExtension
    obtain ⟨global', globalTaken, globalBack⟩ :=
      (optional_kept_iff globalEnbId_back_iff).mpr kept.globalEnbId
    simp only [encUeIdAsn, encEnbUeAsn, bind_eq_ok, map_eq_ok, pure_eq_ok]
    refine ⟨_, ⟨_, ⟨_, ⟨x2ap', x2apTaken, extension', extensionTaken, global', globalTaken, rfl⟩,
      rfl⟩, rfl⟩, ?_⟩
    simp only [decUeIdAsn, decEnbUeAsn, bind_eq_ok, map_eq_ok, pure_eq_ok]
    exact ⟨_,
      ⟨gummei, gummeiBack, x2ap, x2apBack, extension, extensionBack, global, globalBack, rfl⟩,
      rfl⟩

/-- What of an identity comes back. -/
def UeIdKept : UeIdE2sm → Prop
  | .gnb id => GnbKept id
  | .gnbDu _ => True
  | .gnbCuUp _ => True
  | .ngEnb id => NgEnbKept CopyKept id
  | .ngEnbDu _ => True
  | .enGnb id => EnGnbKept id
  | .enb id => EnbKept id

/-- What of it comes back out of one memory. -/
def UeIdKeptIn (memory : Memory) : UeIdE2sm → Prop
  | .ngEnb id => NgEnbKept (CopyKeptIn memory) id
  | id => UeIdKept id

theorem ueIdKept_iff (id : UeIdE2sm) : UeIdKept id ↔ ∀ memory, UeIdKeptIn memory id := by
  have any : Memory := .replicate 8 0
  cases id with
  | ngEnb id =>
      constructor
      · rintro ⟨number, guami, global, node⟩ memory
        exact ⟨(copyKept_iff _).mp number memory, guami, global, node⟩
      · intro kept
        obtain ⟨-, guami, global, node⟩ := kept any
        exact ⟨(copyKept_iff _).mpr fun memory => (kept memory).amfUeNgapId, guami, global, node⟩
  | _ => exact ⟨fun kept _ => kept, fun kept => kept any⟩

/-- An identity comes back just when each of its parts is kept. -/
theorem ueId_back_iff (there here : Memory) (id : UeIdE2sm) :
    (encUeIdAsn there id >>= aperUeid here >>= decUeIdAsn) = .ok id ↔ UeIdKeptIn here id := by
  cases id with
  | gnb id => exact gnb_back_iff there here id
  | gnbDu id => exact iff_of_true (map_eq_ok.mpr ⟨id, gnbDu_back id, rfl⟩) trivial
  | gnbCuUp id => exact iff_of_true (map_eq_ok.mpr ⟨id, gnbCuUp_back id, rfl⟩) trivial
  | ngEnb id => exact ngEnb_back_iff there here id
  | ngEnbDu id => exact iff_of_true rfl trivial
  | enGnb id => exact enGnb_back_iff there here id
  | enb id => exact enb_back_iff there here id

/-- An identity comes back, whatever memory holds, just when each of its parts is kept. -/
theorem ue_ids_come_back_iff (id : UeIdE2sm) :
    (∀ there here, (encUeIdAsn there id >>= aperUeid here >>= decUeIdAsn) = .ok id) ↔
      UeIdKept id := by
  have any : Memory := .replicate 8 0
  rw [ueIdKept_iff]
  exact ⟨fun back here => (ueId_back_iff any here id).mp (back any here),
    fun kept there here => (ueId_back_iff there here id).mpr (kept here)⟩

/-- Half of the ids that a gNB may send have six octets, and no gNB reads six. -/
theorem wide_amf_id_refused :
    ∃ id : UeIdE2sm, ∃ memory : Memory,
      (match id with
        | .gnb gnb => gnb.amfUeNgapId.toNat < 2 ^ 40
        | _ => False) ∧
      (encUeIdAsn memory id).isOk ∧
      (encUeIdAsn memory id >>= aperUeid memory >>= decUeIdAsn) = .error .bound := by
  let guami : Guami := ⟨⟨208, 93, 2⟩, 1, 1, 1⟩
  refine ⟨.gnb ⟨549755813888, guami, none, none, none, none, none, none⟩, .replicate 8 0, ?_⟩
  decide +kernel

/-- The codec that messages share for their identities, with what the generated codec makes of
    an identity as a part of writing it. -/
def ueIdCodec (there here : Memory) : SharedCodec UeIdE2sm Ueid where
  enc id := encUeIdAsn there id >>= aperUeid here
  dec := decUeIdAsn

theorem ueIdCodec_keeps (there here : Memory) :
    (ueIdCodec there here).Keeps (UeIdKeptIn here) :=
  ueId_back_iff there here

/-- A UE behind a gNB, whose memory happens to be cleared. -/
def aUeId : UeIdE2sm :=
  .gnb ⟨1, ⟨⟨208, 93, 2⟩, 1, 1, 1⟩, none, none, none, none, none, none⟩

/-- Its id as the codec reads it. -/
def aUeid : Ueid :=
  .gnb ⟨⟨[1], [0, 0, 0, 0, 0, 0, 0]⟩, ⟨[2, 248, 57], ⟨[1], 0⟩, ⟨[0, 64], 6⟩, ⟨[4], 2⟩⟩, none, none,
    none, none, none, none⟩

def aUeIdCodec : SharedCodec UeIdE2sm Ueid := ueIdCodec (.replicate 8 0) (.replicate 8 0)

theorem aUeId_kept : UeIdKeptIn (.replicate 8 0) aUeId := by
  rw [← ueIdCodec_keeps (.replicate 8 0) (.replicate 8 0)]
  decide +kernel

end FlexRic.E2sm
