import FlexRic.Library.Comparator
import Mathlib.Tactic.Common

/-! # Identifiers

The identifiers that requests, nodes and peers carry, with the comparison each
one's containers use. Where the source has an equality next to the comparison
the two need not agree; the lemmas say how they are related.
-/

namespace FlexRic

/-- `ric_gen_id_t`. The request id travels in 16 bits but is stored in 32. -/
structure RicGenId where
  ricReqId : UInt32
  ricInstId : UInt16
  ranFuncId : UInt16
  deriving DecidableEq, Repr

def eqRicGenId (m0 m1 : RicGenId) : Bool :=
  m0.ricReqId = m1.ricReqId ∧ m0.ricInstId = m1.ricInstId ∧ m0.ranFuncId = m1.ranFuncId

@[simp] theorem eqRicGenId_iff {m0 m1 : RicGenId} : eqRicGenId m0 m1 ↔ m0 = m1 := by
  cases m0
  cases m1
  simp [eqRicGenId]

open Comparator in
def cmpRicGenId : Comparator RicGenId :=
  lex (ascending fun m => m.ranFuncId.toNat)
    (lex (ascending fun m => m.ricInstId.toNat) (ascending fun m => m.ricReqId.toNat))

@[simp] theorem cmpRicGenId_ties {m0 m1 : RicGenId} : cmpRicGenId.Ties m0 m1 ↔ m0 = m1 := by
  cases m0
  cases m1
  simp only [cmpRicGenId, Comparator.lex_ties, Comparator.ascending_ties, UInt16.toNat_inj,
    UInt32.toNat_inj, RicGenId.mk.injEq]
  tauto

/-- `ngran_node_t`. -/
inductive NgranNode where
  | eNB
  | ngENB
  | gNB
  | eNBCU
  | ngENBCU
  | gNBCU
  | eNBDU
  | gNBDU
  | eNBMBMSSTA
  | gNBCUCP
  | gNBCUUP
  deriving DecidableEq, Repr

def NgranNode.toNat : NgranNode → Nat
  | eNB => 0
  | ngENB => 1
  | gNB => 2
  | eNBCU => 3
  | ngENBCU => 4
  | gNBCU => 5
  | eNBDU => 6
  | gNBDU => 7
  | eNBMBMSSTA => 8
  | gNBCUCP => 9
  | gNBCUUP => 10

def NgranNode.isCU (t : NgranNode) : Bool :=
  t ∈ [eNBCU, ngENBCU, gNBCU, gNBCUCP, gNBCUUP]

def NgranNode.isDU (t : NgranNode) : Bool := t ∈ [eNBDU, gNBDU]

def NgranNode.isCUUP (t : NgranNode) : Bool := t = gNBCUUP

/-- A gNB that is not split needs no id of a unit. -/
theorem NgranNode.gNB_whole : gNB.isCU ∨ gNB.isDU → (none : Option UInt64).isSome := by decide

@[simp] theorem NgranNode.toNat_inj {a b : NgranNode} : a.toNat = b.toNat ↔ a = b := by
  cases a <;> cases b <;> decide

/-- `e2ap_plmn_t`. -/
structure Plmn where
  mcc : UInt16
  mnc : UInt16
  mncDigitLen : UInt8
  deriving DecidableEq, Repr

/-- `e2ap_gnb_id_t`. -/
structure GnbId where
  nbId : UInt32
  unused : UInt32
  deriving DecidableEq, Repr

/-- `global_e2_node_id_t`. The comparison reads the id of a CU or DU without
    looking, so one that a decoder builds has it. -/
structure GlobalE2NodeId where
  type : NgranNode
  plmn : Plmn
  nbId : GnbId
  cuDuId : Option UInt64
  split : type.isCU ∨ type.isDU → cuDuId.isSome
  deriving DecidableEq

/-- `*cu_du_id`. -/
def GlobalE2NodeId.unitId (id : GlobalE2NodeId) : Nat := (id.cuDuId.getD 0).toNat

/-- The equality looks at the id of a CU-UP or DU, the comparison at that of any CU or DU. -/
def eqGlobalE2NodeId (m0 m1 : GlobalE2NodeId) : Bool :=
  m0.type = m1.type ∧ m0.plmn = m1.plmn ∧ m0.nbId = m1.nbId ∧
    (m0.type.isCUUP ∨ m0.type.isDU → m0.unitId = m1.unitId)

open Comparator in
def cmpE2apPlmn : Comparator Plmn :=
  lex (descending fun m => m.mcc.toNat)
    (lex (descending fun m => m.mnc.toNat) (descending fun m => m.mncDigitLen.toNat))

open Comparator in
/-- The last criterion applies to nodes of one type, so a node without a unit
    id only meets others without one there. -/
def cmpGlobalE2NodeId : Comparator GlobalE2NodeId :=
  lex (descending fun m => m.type.toNat)
    (lex (cmpE2apPlmn.on GlobalE2NodeId.plmn)
      (lex (descending fun m => m.nbId.nbId.toNat)
        (lex (ascending fun m => m.nbId.unused.toNat)
          (descending fun m => if m.type.isCU ∨ m.type.isDU then m.unitId else 0))))

theorem eqGlobalE2NodeId_iff {m0 m1 : GlobalE2NodeId} :
    eqGlobalE2NodeId m0 m1 ↔ m0.type = m1.type ∧ m0.plmn = m1.plmn ∧ m0.nbId = m1.nbId ∧
      (m0.type.isCUUP ∨ m0.type.isDU → m0.unitId = m1.unitId) := by
  simp only [eqGlobalE2NodeId, decide_eq_true_eq]

@[simp] theorem eqGlobalE2NodeId_refl (m : GlobalE2NodeId) : eqGlobalE2NodeId m m := by
  rw [eqGlobalE2NodeId_iff]
  exact ⟨rfl, rfl, rfl, fun _ => rfl⟩

theorem eqGlobalE2NodeId_symm {m0 m1 : GlobalE2NodeId} (h : eqGlobalE2NodeId m0 m1) :
    eqGlobalE2NodeId m1 m0 := by
  rw [eqGlobalE2NodeId_iff] at h ⊢
  obtain ⟨type, plmn, nbId, unit⟩ := h
  exact ⟨type.symm, plmn.symm, nbId.symm, fun kind => (unit (by rwa [type])).symm⟩

theorem eqGlobalE2NodeId_trans {m0 m1 m2 : GlobalE2NodeId} (h : eqGlobalE2NodeId m0 m1)
    (h' : eqGlobalE2NodeId m1 m2) : eqGlobalE2NodeId m0 m2 := by
  rw [eqGlobalE2NodeId_iff] at h h' ⊢
  obtain ⟨type, plmn, nbId, unit⟩ := h
  obtain ⟨type', plmn', nbId', unit'⟩ := h'
  exact ⟨type.trans type', plmn.trans plmn', nbId.trans nbId',
    fun kind => (unit kind).trans (unit' (by rwa [← type]))⟩

theorem cmpE2apPlmn_ties {m0 m1 : Plmn} : cmpE2apPlmn.Ties m0 m1 ↔ m0 = m1 := by
  cases m0
  cases m1
  simp only [cmpE2apPlmn, Comparator.lex_ties, Comparator.descending_ties, UInt16.toNat_inj,
    UInt8.toNat_inj, Plmn.mk.injEq]

/-- Nodes the comparison cannot tell apart are equal to the source's equality,
    but two CUs of one site are equal to it without tying. -/
theorem eqGlobalE2NodeId_of_ties {m0 m1 : GlobalE2NodeId} (h : cmpGlobalE2NodeId.Ties m0 m1) :
    eqGlobalE2NodeId m0 m1 := by
  simp only [cmpGlobalE2NodeId, Comparator.lex_ties, Comparator.descending_ties,
    Comparator.on_ties, Comparator.ascending_ties, cmpE2apPlmn_ties, NgranNode.toNat_inj,
    UInt32.toNat_inj] at h
  obtain ⟨type, plmn, nbId, unused, unit⟩ := h
  have nb : m0.nbId = m1.nbId := by
    cases h0 : m0.nbId
    cases h1 : m1.nbId
    simp_all
  refine eqGlobalE2NodeId_iff.mpr ⟨type, plmn, nb, ?_⟩
  intro kind
  have counts : m0.type.isCU ∨ m0.type.isDU := by
    rcases kind with cuup | du
    · have : m0.type = .gNBCUUP := by simpa [NgranNode.isCUUP] using cuup
      exact .inl (by rw [this]; decide)
    · exact .inr du
  rwa [if_pos counts, if_pos (by rwa [← type])] at unit

/-- `sctp_info_t`: the peer's socket address, and the association that the
    comparison skips. -/
structure SctpInfo where
  sinPort : UInt16
  sAddr : UInt32
  sinFamily : UInt16
  assocId : UInt32
  deriving DecidableEq, Repr

open Comparator in
def cmpSctpInfo : Comparator SctpInfo :=
  lex (ascending fun m => m.sinPort.toNat)
    (lex (ascending fun m => m.sAddr.toNat) (ascending fun m => m.sinFamily.toNat))

def eqSctpInfo (m0 m1 : SctpInfo) : Bool := cmpSctpInfo.cmp m0 m1 = 0

@[simp] theorem eqSctpInfo_iff {m0 m1 : SctpInfo} :
    eqSctpInfo m0 m1 ↔ cmpSctpInfo.Ties m0 m1 := by
  simp [eqSctpInfo, Comparator.Ties]

def cmpUint16 : Comparator UInt16 := .ascending UInt16.toNat

@[simp] theorem cmpUint16_ties {m0 m1 : UInt16} : cmpUint16.Ties m0 m1 ↔ m0 = m1 := by
  simp [cmpUint16, UInt16.toNat_inj]

/-- A file descriptor that the process holds. `cmp_fd` asserts it is not
    negative, and no negative one is ever created. -/
abbrev Fd := Nat

def cmpFd : Comparator Fd := .ascending id

@[simp] theorem cmpFd_ties {m0 m1 : Fd} : cmpFd.Ties m0 m1 ↔ m0 = m1 := by
  simp [cmpFd]

/-- `pending_event_t`. -/
inductive PendingEvent where
  | setupRequest
  | subscriptionRequest
  | subscriptionDeleteRequest
  | controlRequest
  | e42SetupRequest
  | e42RicSubscriptionRequest
  | ricSubscriptionDeleteRequest
  | e42RicSubscriptionDeleteRequest
  | e42RicControlRequest
  deriving DecidableEq, Repr

def PendingEvent.toNat : PendingEvent → Nat
  | setupRequest => 0
  | subscriptionRequest => 1
  | subscriptionDeleteRequest => 2
  | controlRequest => 3
  | e42SetupRequest => 4
  | e42RicSubscriptionRequest => 5
  | ricSubscriptionDeleteRequest => 6
  | e42RicSubscriptionDeleteRequest => 7
  | e42RicControlRequest => 8

@[simp] theorem PendingEvent.toNat_inj {a b : PendingEvent} : a.toNat = b.toNat ↔ a = b := by
  cases a <;> cases b <;> decide

def cmpPendingEvent : Comparator PendingEvent := .ascending PendingEvent.toNat

@[simp] theorem cmpPendingEvent_ties {a b : PendingEvent} :
    cmpPendingEvent.Ties a b ↔ a = b := by
  simp [cmpPendingEvent]

end FlexRic
