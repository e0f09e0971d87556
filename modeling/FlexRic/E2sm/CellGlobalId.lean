import FlexRic.Asn.BitStrings

/-! # Global ids of cells

A cell of NR or of E-UTRA, in a network.
-/

namespace FlexRic.E2sm

open Asn (BitString Fault PlmnFits)
open Wire (Bytes)

/-- `cell_global_id_t`. The id of a cell of NR is a bit-field. -/
inductive CellGlobalId where
  | nrCgi (plmnId : Plmn) (nrCellId : BitVec 36)
  | eutra (plmnId : Plmn) (eutraCellId : UInt32)
  deriving DecidableEq

/-- `CGI_t`. -/
inductive Cgi where
  | nrCgi (plmnIdentity : Bytes) (nrCellIdentity : BitString)
  | eutraCgi (plmnIdentity : Bytes) (eutraCellIdentity : BitString)
  deriving DecidableEq

def encCellGlobalIdAsn : CellGlobalId → Except Fault Cgi
  | .nrCgi plmnId nrCellId => do
      let nrCellIdentity ← Asn.cpNrCellIdToBitString (UInt64.ofNat nrCellId.toNat)
      pure (.nrCgi (Asn.mccMncToPlmnid plmnId) nrCellIdentity)
  | .eutra plmnId eutraCellId => do
      let eutraCellIdentity ← Asn.cpEutraCellIdToBitString eutraCellId
      pure (.eutraCgi (Asn.mccMncToPlmnid plmnId) eutraCellIdentity)

def decCellGlobalIdAsn : Cgi → Except Fault CellGlobalId
  | .nrCgi plmnIdentity nrCellIdentity => do
      let plmnId ← Asn.plmnidToMccMnc plmnIdentity
      let nrCellId ← Asn.cpNrCellIdToU64 nrCellIdentity
      pure (.nrCgi plmnId (BitVec.ofNat 36 nrCellId.toNat))
  | .eutraCgi plmnIdentity eutraCellIdentity => do
      let plmnId ← Asn.plmnidToMccMnc plmnIdentity
      let eutraCellId ← Asn.cpEutraCellIdToU32 eutraCellIdentity
      pure (.eutra plmnId eutraCellId)

/-- What comes back of a cell: with bit 31 of an NR cell id set the four above it are. -/
def CellGlobalIdKept : CellGlobalId → Prop
  | .nrCgi plmnId nrCellId =>
      PlmnFits plmnId ∧ (nrCellId.toNat / 2 ^ 31 % 2 = 1 → nrCellId.toNat / 2 ^ 32 = 15)
  | .eutra plmnId eutraCellId => PlmnFits plmnId ∧ eutraCellId.toNat < 2 ^ 28

/-- The number that is read from the octets of an NR cell id. -/
theorem nrCellId_read (id : BitVec 36) :
    ∃ bits v, Asn.cpNrCellIdToBitString (UInt64.ofNat id.toNat) = .ok bits ∧
      Asn.cpNrCellIdToU64 bits = .ok v ∧
      (BitVec.ofNat 36 v.toNat = id ↔ (id.toNat / 2 ^ 31 % 2 = 1 → id.toNat / 2 ^ 32 = 15)) := by
  have small := id.isLt
  have kept : (UInt64.ofNat id.toNat).toNat = id.toNat :=
    UInt64.toNat_ofNat_of_lt' (Nat.lt_trans small (by decide))
  have top : id.toNat / 2 ^ 32 < 2 ^ (8 - 4) := by omega
  have same (v : UInt64) : BitVec.ofNat 36 v.toNat = id ↔ v.toNat % 2 ^ 36 = id.toNat := by
    rw [← BitVec.toNat_inj, BitVec.toNat_ofNat]
  have written :=
    Asn.cpNrCellIdToBitString_eq (show (UInt64.ofNat id.toNat).toNat < 2 ^ 36 by rwa [kept])
  rw [kept] at written
  have octet : (UInt8.ofNat (id.toNat / 2 ^ 24)).toNat = id.toNat / 2 ^ 24 % 2 ^ 8 :=
    UInt8.toNat_ofNat'
  by_cases clear : (UInt8.ofNat (id.toNat / 2 ^ 24)).toNat < 128
  · refine ⟨_, _, written, Asn.cpNrCellIdToU64_clear clear, ?_⟩
    rw [same, Asn.shifted_octet (by decide) top, Nat.mul_div_cancel _ (Nat.two_pow_pos 4)]
    simp only [UInt64.toNat_ofNat', UInt8.toNat_ofNat']
    omega
  · refine ⟨_, _, written, Asn.cpNrCellIdToU64_sign_eq clear, ?_⟩
    rw [same]
    simp only [UInt64.toNat_ofNat', UInt8.toNat_ofNat']
    omega

theorem cellGlobalId_back_iff (id : CellGlobalId) :
    (encCellGlobalIdAsn id >>= decCellGlobalIdAsn) = .ok id ↔ CellGlobalIdKept id := by
  cases id with
  | nrCgi plmnId nrCellId =>
      obtain ⟨bits, v, taken, read, back⟩ := nrCellId_read nrCellId
      rw [CellGlobalIdKept, ← Asn.plmnid_back_iff, ← back]
      simp only [encCellGlobalIdAsn, decCellGlobalIdAsn, taken, bind_eq_ok, pure_eq_ok,
        Except.ok.injEq, exists_eq_left', read, CellGlobalId.nrCgi.injEq]
      constructor
      · rintro ⟨_, plmnBack, rfl, same⟩
        exact ⟨plmnBack, same⟩
      · rintro ⟨plmnBack, same⟩
        exact ⟨plmnId, plmnBack, rfl, same⟩
  | eutra plmnId eutraCellId =>
      have back : (Asn.cpEutraCellIdToBitString eutraCellId >>= Asn.cpEutraCellIdToU32) =
          .ok eutraCellId ↔ eutraCellId.toNat < 2 ^ 28 :=
        Asn.fourOctets_back_iff (by decide) (by decide) eutraCellId
      rw [CellGlobalIdKept, ← Asn.plmnid_back_iff, ← back]
      simp only [encCellGlobalIdAsn, bind_eq_ok, pure_eq_ok]
      constructor
      · rintro ⟨_, ⟨bits, taken, rfl⟩, read⟩
        simp only [decCellGlobalIdAsn, bind_eq_ok, pure_eq_ok, CellGlobalId.eutra.injEq] at read
        obtain ⟨_, plmnBack, _, read, rfl, rfl⟩ := read
        exact ⟨plmnBack, bits, taken, read⟩
      · rintro ⟨plmnBack, bits, taken, read⟩
        refine ⟨_, ⟨bits, taken, rfl⟩, ?_⟩
        simp only [decCellGlobalIdAsn, plmnBack, read, ok_bind]
        rfl

end FlexRic.E2sm
