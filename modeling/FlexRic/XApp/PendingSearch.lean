import FlexRic.Util.AssocRbRuns
import FlexRic.Util.BiMapSearch
import FlexRic.XApp.E42Xapp

/-! # Searching the pending events

`find_pending_event_ev` goes through the right side of the map, so it compares the
event that it looks for with the first bytes of nodes, where the pointers to their
keys and values are.
-/

namespace FlexRic.XApp

open RbMemory (LocatedTree Range firstPosition onKey Agree)

/-- The first two words of an `assoc_node_t`: the pointers to its key and its value. -/
structure NodeWords where
  key : UInt64
  value : UInt64

namespace NodeWords

/-- The words as the first fields of a `pending_event_xapp_t`, lower bytes first. -/
def ev (w : NodeWords) : UInt32 := w.key.toUInt32

def id (w : NodeWords) : RicGenId :=
  ⟨(w.key >>> 32).toUInt32, w.value.toUInt16, (w.value >>> 16).toUInt16⟩

end NodeWords

/-- The words of the nodes of a tree. Keys and values are from `malloc`, which returns
    multiples of 16. -/
structure NodeMemory where
  words : Ptr → NodeWords
  keyAligned : ∀ it, (words it).key.toNat % 16 = 0
  valueAligned : ∀ it, (words it).value.toNat % 16 = 0

/-- `eq_ev`, with the event that is looked for. -/
def eqEv (memory : NodeMemory) (ev : PendingEventXapp) : Pointee PendingEventXapp → Bool
  | .key m1 => eqPendingEventXapp ev m1
  | .node it => ev.ev.toNat = (memory.words it).ev.toNat ∧ eqRicGenId ev.id (memory.words it).id

def findPendingEventEv (memory : NodeMemory) (p : BiMapMemory Fd PendingEventXapp)
    (ev : PendingEventXapp) : RbResult Bool := do
  let startIt ← p.right.front
  let endIt := p.right.endIter
  let it ← findIfBiMapRight p startIt endIt (eqEv memory ev)
  pure (it ≠ endIt)

variable {memory : NodeMemory} {p : BiMapMemory Fd PendingEventXapp}
  {l : LocatedTree cmpFd PendingEventXapp} {r : LocatedTree cmpPendingEventXapp Fd}
  {ev : PendingEventXapp}

/-- The event of an aligned key is a request of the agent. -/
theorem NodeMemory.ev_eq (memory : NodeMemory) {it : Ptr} {ev : PendingEvent}
    (spelled : ev.toNat = (memory.words it).ev.toNat) : ev = .setupRequest := by
  have aligned := memory.keyAligned it
  have low : (memory.words it).ev.toNat = (memory.words it).key.toNat % 2 ^ 32 := rfl
  cases ev <;> simp only [PendingEvent.toNat] at spelled <;> first | rfl | omega

theorem firstPosition_ne_end {κ ν : Type} {q : (Ptr × κ) × ν → Bool}
    {visited : List ((Ptr × κ) × ν)} {endIt : Ptr} (ends : ∀ e ∈ visited, e.1.1 ≠ endIt) :
    firstPosition q visited endIt ≠ endIt ↔ ∃ e ∈ visited, q e := by
  rw [firstPosition]
  cases found : visited.find? q with
  | none =>
      refine iff_of_false (not_not.mpr rfl) ?_
      rintro ⟨e, mem, accepted⟩
      exact List.find?_eq_none.mp found e mem accepted
  | some e =>
      have mem := List.mem_of_find?_eq_some found
      exact iff_of_true (ends e mem) ⟨e, mem, List.find?_some found⟩

/-- The search of all entries goes by the nodes. -/
theorem findPendingEventEv_ok (laid : p.Laid l r) :
    findPendingEventEv memory p ev =
      .ok (decide (∃ e ∈ r.toList, RbMemory.onNode (eqEv memory ev) e)) := by
  obtain ⟨startIt, front, start⟩ := RbMemory.front_ok laid.right
  have range : Range r r.toList startIt p.right.endIter :=
    ⟨[], by rwa [List.append_nil], .stop⟩
  rw [findPendingEventEv, front, ok_bind]
  simp only [laid.findIfBiMapRight_ok range, ok_bind, ← firstPosition_ne_end
    (range.end_apart laid.right)]
  rfl

/-- Whether a pending event is equal to the one that is looked for. -/
def Pending (r : LocatedTree cmpPendingEventXapp Fd) (ev : PendingEventXapp) : Prop :=
  ∃ e ∈ r.toList, eqPendingEventXapp ev e.1.2

/-- Whether the pointers of a node are the event that is looked for. -/
def Spelled (memory : NodeMemory) (r : LocatedTree cmpPendingEventXapp Fd)
    (ev : PendingEventXapp) : Prop :=
  ∃ e ∈ r.toList, ev.ev.toNat = (memory.words e.1.1).ev.toNat ∧ ev.id = (memory.words e.1.1).id

theorem Spelled.setupRequest (spelled : Spelled memory r ev) : ev.ev = .setupRequest := by
  obtain ⟨e, -, here, -⟩ := spelled
  exact memory.ev_eq here

/-- An event is found just when it is pending. -/
def FindsPending (memory : NodeMemory) (p : BiMapMemory Fd PendingEventXapp)
    (r : LocatedTree cmpPendingEventXapp Fd) (ev : PendingEventXapp) : Prop :=
  ∃ found, findPendingEventEv memory p ev = .ok found ∧ (found ↔ Pending r ev)

theorem findsPending_iff (laid : p.Laid l r) :
    FindsPending memory p r ev ↔ (Spelled memory r ev ↔ Pending r ev) := by
  have spelled : (∃ e ∈ r.toList, RbMemory.onNode (eqEv memory ev) e) ↔ Spelled memory r ev := by
    simp [RbMemory.onNode, eqEv, Spelled]
  rw [FindsPending, findPendingEventEv_ok laid]
  simp only [Except.ok.injEq, exists_eq_left', decide_eq_true_eq, spelled]

/-- A tree of one node in memory. -/
theorem laid_one {κ ν : Type} (o : Comparator κ) (key : κ) (value : ν) :
    ∃ (tree : RbMemory κ ν) (t : LocatedTree o ν),
      tree.Laid t ∧ t.toList = [((2, key), value)] := by
  have fresh : (RbMemory.init : RbMemory κ ν).Fresh 2 := ⟨by decide, rfl⟩
  have new : ∀ e ∈ (.init : LocatedTree o ν).toList, ¬o.Ties key e.1.2 := nofun
  obtain ⟨tree, -, stores⟩ := RbMemory.stores_init.insert fresh new value
  have listed := AssocRbTree.insert_perm (.init : LocatedTree o ν) (2, key) value
  exact ⟨tree, _, stores.laid, List.perm_singleton.mp listed⟩

/-- A map of one pending event in memory. -/
theorem laid_one_pending (fd : Fd) (ev : PendingEventXapp) :
    ∃ (p : BiMapMemory Fd PendingEventXapp) (l : LocatedTree cmpFd PendingEventXapp)
      (r : LocatedTree cmpPendingEventXapp Fd), p.Laid l r ∧ l.toList = [((2, fd), ev)] ∧
        r.toList = [((2, ev), fd)] := by
  obtain ⟨left, l, laidL, listedL⟩ := laid_one cmpFd fd ev
  obtain ⟨right, r, laidR, listedR⟩ := laid_one cmpPendingEventXapp ev fd
  refine ⟨⟨left, right⟩, l, r, ⟨laidL, laidR, ?_, ?_⟩, listedL, listedR⟩
  · rw [listedL]
    simp [RbLinks.null]
  · rw [listedR]
    simp [RbLinks.null]

/-- The left search finds the first accepted key. The right one does where the nodes are
    judged as their keys. No pending request of an xApp is found. -/
theorem bimap_search_iff {κ₁ κ₂ : Type} {o₁ : Comparator κ₁} {o₂ : Comparator κ₂}
    {map : BiMapMemory κ₁ κ₂} {l : LocatedTree o₁ κ₂} {r : LocatedTree o₂ κ₁} (laid : map.Laid l r)
    {p : BiMapMemory Fd PendingEventXapp} {fds : LocatedTree cmpFd PendingEventXapp}
    {events : LocatedTree cmpPendingEventXapp Fd} (pending : p.Laid fds events)
    (memory : NodeMemory) (ev : PendingEventXapp) :
    (∀ f visited startIt endIt, Range l visited startIt endIt →
      findIfBiMapLeft map startIt endIt f = .ok (firstPosition (onKey f) visited endIt)) ∧
    (∀ f visited startIt endIt, Range r visited startIt endIt →
      (findIfBiMapRight map startIt endIt f = .ok (firstPosition (onKey f) visited endIt) ↔
        Agree f visited)) ∧
    (ev.ev ≠ .setupRequest → (FindsPending memory p events ev ↔ ¬Pending events ev)) ∧
    (ev.ev = .setupRequest →
      (FindsPending memory p events ev ↔ (Spelled memory events ev ↔ Pending events ev))) := by
  refine ⟨?_, ?_, ?_, ?_⟩
  · intro f visited startIt endIt range
    exact laid.findIfBiMapLeft_ok range f
  · intro f visited startIt endIt range
    exact laid.right_iff range f
  · intro request
    have unspelled : ¬Spelled memory events ev := fun spelled => request spelled.setupRequest
    rw [findsPending_iff pending, iff_false_left unspelled]
  · intro _
    exact findsPending_iff pending

def somePending : PendingEventXapp := ⟨.e42RicControlRequest, ⟨1, 0, 2⟩, 10000⟩

/-- Keys and values on the heap. -/
def someNodes : NodeMemory where
  words _ := ⟨0x55d0c0de12a0, 0x55d0c0de12c0⟩
  keyAligned _ := rfl
  valueAligned _ := rfl

/-- One pending control, and a search for another. -/
theorem bimap_search_one :
    ∃ (p : BiMapMemory Fd PendingEventXapp) (startIt : Ptr),
      findIfBiMapLeft p startIt RbLinks.dummy (fun _ => true) = .ok 2 ∧
      findPendingEventEv someNodes p ⟨.e42RicControlRequest, ⟨1, 0, 3⟩, 10000⟩ = .ok false := by
  obtain ⟨p, l, r, laid, listedL, listedR⟩ := laid_one_pending 7 somePending
  obtain ⟨startIt, -, start⟩ := RbMemory.front_ok laid.left
  have range : Range l l.toList startIt RbLinks.dummy := ⟨[], by rwa [List.append_nil], .stop⟩
  obtain ⟨left, -, request, -⟩ :=
    bimap_search_iff laid laid someNodes ⟨.e42RicControlRequest, ⟨1, 0, 3⟩, 10000⟩
  have first := left (fun _ => true) l.toList startIt _ range
  rw [listedL] at first
  have none_ : ¬Pending r ⟨.e42RicControlRequest, ⟨1, 0, 3⟩, 10000⟩ := by
    rw [Pending, listedR]
    decide
  obtain ⟨found, done, iff⟩ := (request (by decide)).mpr none_
  have missed : found = false := Bool.eq_false_iff.mpr fun yes => none_ (iff.mp yes)
  exact ⟨p, startIt, first, missed ▸ done⟩

/-- One pending control that is not found, wherever its node points. -/
theorem pending_event_missed :
    ∃ (p : BiMapMemory Fd PendingEventXapp) (l : LocatedTree cmpFd PendingEventXapp)
      (r : LocatedTree cmpPendingEventXapp Fd), p.Laid l r ∧ Pending r somePending ∧
        ∀ memory, findPendingEventEv memory p somePending = .ok false := by
  obtain ⟨p, l, r, laid, -, listed⟩ := laid_one_pending 7 somePending
  have mem : ((2, somePending), 7) ∈ r.toList := by
    rw [listed]
    exact List.mem_singleton_self _
  refine ⟨p, l, r, laid, ⟨_, mem, by decide⟩, ?_⟩
  intro memory
  rw [findPendingEventEv_ok laid, Except.ok.injEq, decide_eq_false_iff_not]
  rintro ⟨e, -, accepted⟩
  simp only [RbMemory.onNode, eqEv, Bool.decide_and, Bool.and_eq_true, decide_eq_true_eq]
    at accepted
  exact absurd (memory.ev_eq accepted.1) (by decide)

end FlexRic.XApp
