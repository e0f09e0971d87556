import FlexRic.Agent.E2Agent
import FlexRic.Ric.NearRic
import FlexRic.Util.AssocRbIdentities

/-! # Keys of the routing containers

The comparisons as the source writes them, one early return after the other, with
the identity that each is about. They are the comparisons of `E2ap.Ids`, so the
trees that hold such keys find, insert and extract by identity.
-/

namespace FlexRic.RoutingKeys

def cmpRicGenId (m0 m1 : RicGenId) : Int :=
  if m0.ranFuncId < m1.ranFuncId then 1
  else if m0.ranFuncId > m1.ranFuncId then -1
  else if m0.ricInstId < m1.ricInstId then 1
  else if m0.ricInstId > m1.ricInstId then -1
  else if m0.ricReqId < m1.ricReqId then 1
  else if m0.ricReqId > m1.ricReqId then -1
  else 0

def cmpPendingEvent (ev1 ev2 : PendingEvent) : Int :=
  if ev1.toNat < ev2.toNat then 1
  else if ev1.toNat = ev2.toNat then 0
  else -1

def cmpPendingEventRic (p1 p2 : PendingEventRic) : Int :=
  let cmpEv := cmpPendingEvent p1.ev p2.ev
  if cmpEv ≠ 0 then cmpEv else cmpRicGenId p1.id p2.id

/-- Not all of the event is compared. -/
def cmpIndEvent (m0 m1 : IndEvent) : Int :=
  let cmp := cmpRicGenId m0.ricId m1.ricId
  if cmp ≠ 0 then cmp else cmp

def cmpSockaddrIn (m0 m1 : SctpInfo) : Int :=
  if m0.sinPort < m1.sinPort then 1
  else if m0.sinPort > m1.sinPort then -1
  else if m0.sAddr < m1.sAddr then 1
  else if m0.sAddr > m1.sAddr then -1
  else if m0.sinFamily < m1.sinFamily then 1
  else if m0.sinFamily > m1.sinFamily then -1
  else 0

/-- Nothing of the association is compared. -/
def cmpSctpSndrcvinfo (_m0 _m1 : SctpInfo) : Int := 0

/-- The keys are pointers, which may be null. -/
def cmpSctpInfoWrapper : (m0 m1 : Option SctpInfo) → Int
  | none, none => 0
  | none, some _ => 1
  | some _, none => -1
  | some m0, some m1 =>
      let cmp := cmpSockaddrIn m0 m1
      if cmp ≠ 0 then cmp else cmpSctpSndrcvinfo m0 m1

/-- A pending event is one kind of request under one id. -/
def samePendingEventRic (p1 p2 : PendingEventRic) : Bool :=
  p1.ev = p2.ev ∧ eqRicGenId p1.id p2.id

/-- An indication event stands for the request that it answers. -/
def sameIndEvent (m0 m1 : IndEvent) : Bool := eqIndEvent m0.ricId m1

/-- A peer is a port, an address and a family; no peer is only like no peer. -/
def samePeer : (m0 m1 : Option SctpInfo) → Bool
  | none, none => true
  | none, some _ | some _, none => false
  | some m0, some m1 =>
      m0.sinPort = m1.sinPort ∧ m0.sAddr = m1.sAddr ∧ m0.sinFamily = m1.sinFamily

theorem cmpRicGenId_eq (m0 m1 : RicGenId) : cmpRicGenId m0 m1 = FlexRic.cmpRicGenId.cmp m0 m1 := by
  simp only [FlexRic.cmpRicGenId, Comparator.ascending_lex_cmp]
  rfl

theorem cmpPendingEvent_eq (ev1 ev2 : PendingEvent) :
    cmpPendingEvent ev1 ev2 = FlexRic.cmpPendingEvent.cmp ev1 ev2 := by
  simp only [cmpPendingEvent, FlexRic.cmpPendingEvent, Comparator.ascending]
  split
  · rfl
  · split <;> split <;> omega

theorem cmpPendingEventRic_eq (p1 p2 : PendingEventRic) :
    cmpPendingEventRic p1 p2 = FlexRic.cmpPendingEventRic.cmp p1 p2 := by
  simp only [cmpPendingEventRic, cmpPendingEvent_eq, cmpRicGenId_eq]
  rfl

theorem cmpIndEvent_eq (m0 m1 : IndEvent) :
    cmpIndEvent m0 m1 = FlexRic.cmpIndEvent.cmp m0 m1 := by
  simp only [cmpIndEvent, ite_self]
  exact cmpRicGenId_eq m0.ricId m1.ricId

theorem cmpSockaddrIn_eq (m0 m1 : SctpInfo) : cmpSockaddrIn m0 m1 = cmpSctpInfo.cmp m0 m1 := by
  simp only [cmpSctpInfo, Comparator.ascending_lex_cmp]
  rfl

theorem cmpSctpInfoWrapper_eq (m0 m1 : Option SctpInfo) :
    cmpSctpInfoWrapper m0 m1 = cmpSctpInfo.missingFirst.cmp m0 m1 := by
  cases m0 with
  | none => cases m1 <;> rfl
  | some m0 =>
      cases m1 with
      | none => rfl
      | some m1 =>
          simp only [cmpSctpInfoWrapper, cmpSctpSndrcvinfo, cmpSockaddrIn_eq,
            Comparator.missingFirst]
          split <;> simp_all

theorem cmpSctpInfo_ties {m0 m1 : SctpInfo} : cmpSctpInfo.Ties m0 m1 ↔
    m0.sinPort = m1.sinPort ∧ m0.sAddr = m1.sAddr ∧ m0.sinFamily = m1.sinFamily := by
  simp only [cmpSctpInfo, Comparator.lex_ties, Comparator.ascending_ties, UInt16.toNat_inj,
    UInt32.toNat_inj]

theorem ricGenId_ordered : Orders cmpRicGenId eqRicGenId :=
  .of_comparator _ cmpRicGenId_eq fun _ _ => cmpRicGenId_ties.trans eqRicGenId_iff.symm

theorem pendingEventRic_ordered : Orders cmpPendingEventRic samePendingEventRic := by
  apply Orders.of_comparator _ cmpPendingEventRic_eq
  intro p1 p2
  rw [cmpPendingEventRic_ties]
  cases p1
  cases p2
  simp [samePendingEventRic]

theorem indEvent_ordered : Orders cmpIndEvent sameIndEvent := by
  apply Orders.of_comparator _ cmpIndEvent_eq
  intro m0 m1
  rw [cmpIndEvent_ties]
  exact eqRicGenId_iff.symm

theorem sctpInfo_ordered : Orders cmpSctpInfoWrapper samePeer := by
  apply Orders.of_comparator _ cmpSctpInfoWrapper_eq
  intro m0 m1
  cases m0 with
  | none => cases m1 <;> simp [Comparator.Ties, Comparator.missingFirst, samePeer]
  | some m0 =>
      cases m1 with
      | none => simp [Comparator.Ties, Comparator.missingFirst, samePeer]
      | some m1 =>
          rw [samePeer, decide_eq_true_eq]
          exact cmpSctpInfo_ties

/-- Each comparison is a total preorder that ties just what is the same, and a
    red-black tree over it answers by identity after any use of it. -/
theorem routing_keys_ordered :
    (∃ orders : Orders cmpRicGenId eqRicGenId,
      RbMemory.TreesServe orders.comparator eqRicGenId) ∧
    (∃ orders : Orders cmpPendingEventRic samePendingEventRic,
      RbMemory.TreesServe orders.comparator samePendingEventRic) ∧
    (∃ orders : Orders cmpIndEvent sameIndEvent,
      RbMemory.TreesServe orders.comparator sameIndEvent) ∧
    ∃ orders : Orders cmpSctpInfoWrapper samePeer,
      RbMemory.TreesServe orders.comparator samePeer := by
  have served {κ : Type} {cmp : κ → κ → Int} {same : κ → κ → Bool} (orders : Orders cmp same) :
      ∃ orders : Orders cmp same, RbMemory.TreesServe orders.comparator same :=
    ⟨orders, RbMemory.treesServe fun _ _ => orders.ties_iff⟩
  exact ⟨served ricGenId_ordered, served pendingEventRic_ordered, served indEvent_ordered,
    served sctpInfo_ordered⟩

end FlexRic.RoutingKeys
