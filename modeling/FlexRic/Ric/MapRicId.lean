import FlexRic.E2ap.Ids
import FlexRic.Util.BiMap

/-! # The iApp's map of RIC request ids

`map_ric_id` pairs the request as the E2 node knows it, under the id that the
near-RIC chose, with the request as its xApp knows it. The left tree looks at
that id only; the right tree orders by the xApp and then by the whole local id.
-/

namespace FlexRic

open Assertion

/-- `xapp_ric_id_t`. -/
structure XappRicId where
  ricId : RicGenId
  xappId : UInt16
  deriving DecidableEq, Repr

/-- `ric_req_type`. -/
inductive RicReqType where
  | subscription
  | control
  deriving DecidableEq, Repr

/-- `e2_node_ric_id_t`. -/
structure E2NodeRicId where
  ricId : RicGenId
  e2NodeId : GlobalE2NodeId
  ricReqType : RicReqType
  deriving DecidableEq

open Comparator in
def cmpXappRicGenId : Comparator XappRicId :=
  lex (ascending fun m => m.xappId.toNat) (cmpRicGenId.on XappRicId.ricId)

@[simp] theorem cmpXappRicGenId_ties {m0 m1 : XappRicId} :
    cmpXappRicGenId.Ties m0 m1 ↔ m0 = m1 := by
  cases m0
  cases m1
  simp only [cmpXappRicGenId, Comparator.lex_ties, Comparator.ascending_ties,
    Comparator.on_ties, cmpRicGenId_ties, UInt16.toNat_inj, XappRicId.mk.injEq]
  tauto

def eqXappId (m0 m1 : UInt16) : Bool := m0 = m1

/-- Both xApp ids handed to `eqXappId` are the first one's. -/
def eqXappRicGenId (m0 m1 : XappRicId) : Bool :=
  eqXappId m0.xappId m0.xappId && eqRicGenId m0.ricId m1.ricId

@[simp] theorem eqXappRicGenId_iff {m0 m1 : XappRicId} :
    eqXappRicGenId m0 m1 ↔ m0.ricId = m1.ricId := by
  simp [eqXappRicGenId, eqXappId]

def eqE2NodeRicReq (m0 m1 : RicGenId) : Bool := m0.ricReqId = m1.ricReqId

def cmpE2NodeRicReq : Comparator E2NodeRicId :=
  .descending fun m => m.ricId.ricReqId.toNat

@[simp] theorem cmpE2NodeRicReq_ties {m0 m1 : E2NodeRicId} :
    cmpE2NodeRicReq.Ties m0 m1 ↔ m0.ricId.ricReqId = m1.ricId.ricReqId := by
  simp [cmpE2NodeRicReq, UInt32.toNat_inj]

abbrev MapRicId := BiMap cmpE2NodeRicReq cmpXappRicGenId

def addMapRicId (map : MapRicId) (node : E2NodeRicId) (x : XappRicId) : Checked MapRicId := do
  let it := map.left.findIf fun n => eqE2NodeRicReq n.ricId node.ricId
  check (it = none) ricReqIdInMap
  pure (map.insert node x)

def rmMapRicId (map : MapRicId) (ricId : XappRicId) : Checked MapRicId := do
  let (_, map) ← map.extractRight ricId
  pure map

/-- The parameter is 16 bits wide; callers cut the id of a message down to it. -/
def findXappMapRicId (map : MapRicId) (ricReqId : UInt16) : Checked (Option XappRicId) := do
  check (0 < ricReqId) ricReqIdZero
  let dummyNode : RicGenId := ⟨ricReqId.toUInt32, 0, 0⟩
  pure ((map.left.findIf fun n => eqE2NodeRicReq n.ricId dummyNode).map Prod.snd)

def findRicReqMapRicId (map : MapRicId) (x : XappRicId) : Checked E2NodeRicId :=
  match map.right.findIf fun y => eqXappRicGenId y x with
  | none => .error xappRicIdNotFound
  | some (_, n) => .ok n

/-- Every subscription stored for an xApp, in the order of the right tree. -/
def findAllSubsMapRicId (map : MapRicId) (xappId : UInt16) : List E2NodeRicId :=
  map.right.toList.filterMap fun (x, n) =>
    if eqXappId x.xappId xappId ∧ n.ricReqType = .subscription then some n else none

/-- Each tree is the other turned around, and no two entries share a request id. -/
structure MapRicId.Consistent (map : MapRicId) : Prop where
  inverse : map.Inverse
  distinct : map.left.Distinct

namespace MapRicId

theorem consistent_init : Consistent .init where
  inverse := BiMap.inverse_init
  distinct := BiMap.bijective_init.left

theorem Consistent.eq_of_id {map : MapRicId} (h : Consistent map) {n n' : E2NodeRicId}
    {x x' : XappRicId} (mem : (n, x) ∈ map.pairs) (mem' : (n', x') ∈ map.pairs)
    (same : n.ricId.ricReqId = n'.ricId.ricReqId) : n = n' ∧ x = x' := by
  have := Comparator.eq_of_ties h.distinct mem mem' (cmpE2NodeRicReq_ties.mpr same)
  simpa using this

theorem add_ok {map map' : MapRicId} {node : E2NodeRicId} {x : XappRicId}
    (h : addMapRicId map node x = .ok map') :
    map' = map.insert node x ∧
      ∀ p ∈ map.pairs, p.1.ricId.ricReqId ≠ node.ricId.ricReqId := by
  simp only [addMapRicId, bind_eq_ok, check_eq_ok, pure_eq_ok] at h
  obtain ⟨_, fresh, rfl⟩ := h
  refine ⟨rfl, ?_⟩
  intro p mem same
  have := AssocRbTree.findIf_none.mp fresh p mem
  simp [eqE2NodeRicReq, same] at this

theorem add_error {map : MapRicId} {node : E2NodeRicId} {x : XappRicId} {e : Assertion} :
    addMapRicId map node x = .error e ↔
      e = ricReqIdInMap ∧ ∃ p ∈ map.pairs, p.1.ricId.ricReqId = node.ricId.ricReqId := by
  simp only [addMapRicId, bind_eq_error, check_eq_error, pure_ne_error, and_false, exists_false,
    or_false, AssocRbTree.findIf_none, eqE2NodeRicReq, decide_eq_true_eq, not_forall, not_not,
    exists_prop, BiMap.pairs]
  constructor
  · rintro ⟨found, rfl⟩
    exact ⟨rfl, found⟩
  · rintro ⟨rfl, found⟩
    exact ⟨found, rfl⟩

theorem Consistent.add {map map' : MapRicId} (h : Consistent map) {node : E2NodeRicId}
    {x : XappRicId} (ok : addMapRicId map node x = .ok map') : Consistent map' := by
  obtain ⟨rfl, fresh⟩ := add_ok ok
  refine ⟨h.inverse.insert node x,
    AssocRbTree.distinct_insert.mpr ⟨fun e mem ties => ?_, h.distinct⟩⟩
  exact fresh e mem (cmpE2NodeRicReq_ties.mp ties).symm

theorem mem_add {map map' : MapRicId} {node : E2NodeRicId} {x : XappRicId}
    (ok : addMapRicId map node x = .ok map') {p : E2NodeRicId × XappRicId} :
    p ∈ map'.pairs ↔ p = (node, x) ∨ p ∈ map.pairs := by
  obtain ⟨rfl, -⟩ := add_ok ok
  rw [(BiMap.pairs_insert map node x).mem_iff, List.mem_cons]

/-- Removal takes out one entry, and it belongs to the given xApp request. -/
theorem Consistent.rm {map map' : MapRicId} (h : Consistent map) {x : XappRicId}
    (ok : rmMapRicId map x = .ok map') :
    ∃ n, map.pairs.Perm ((n, x) :: map'.pairs) ∧ Consistent map' := by
  simp only [rmMapRicId, bind_eq_ok, Prod.exists, pure_eq_ok] at ok
  obtain ⟨n, _, got, rfl⟩ := ok
  obtain ⟨b, ties, perm, inverse⟩ := BiMap.extractRight_ok h.inverse h.distinct got
  cases cmpXappRicGenId_ties.mp ties
  have apart := (AssocRbTree.distinct_of_perm perm).mp h.distinct
  exact ⟨n, perm, inverse, (List.pairwise_cons.mp apart).2⟩

theorem find_ok {map : MapRicId} {ricReqId : UInt16} {x : XappRicId}
    (ok : findXappMapRicId map ricReqId = .ok (some x)) :
    0 < ricReqId ∧ ∃ n, (n, x) ∈ map.pairs ∧ n.ricId.ricReqId = ricReqId.toUInt32 := by
  simp only [findXappMapRicId, bind_eq_ok, check_eq_ok, pure_eq_ok, Option.map_eq_some_iff,
    Prod.exists, exists_eq_right] at ok
  obtain ⟨_, pos, n, found⟩ := ok
  obtain ⟨mem, same⟩ := AssocRbTree.findIf_some found
  exact ⟨pos, n, mem, by simpa [eqE2NodeRicReq] using same⟩

/-- The right tree lists the requests by their xApps. -/
theorem xappId_le_of_before {map : MapRicId} {before after : List (XappRicId × E2NodeRicId)}
    {e e' : XappRicId × E2NodeRicId} (listed : map.right.toList = before ++ e :: after)
    (mem : e' ∈ after) : e.1.xappId ≤ e'.1.xappId := by
  have sorted := map.right.sorted
  rw [AssocNode.Sorted, show map.right.root.toList = map.right.toList from rfl, listed,
    List.pairwise_append, List.pairwise_cons] at sorted
  have weak := Comparator.lex_le (sorted.2.1.1 e' mem)
  exact UInt16.le_iff_toNat_le.mpr (Comparator.ascending_le.mp weak)

/-- The scan stops at an entry with the local id, and among all of these at one
    of the smallest xApp id. -/
theorem findRicReq_ok {map : MapRicId} (inv : map.Inverse) {x : XappRicId} {n : E2NodeRicId}
    (ok : findRicReqMapRicId map x = .ok n) :
    ∃ y, (n, y) ∈ map.pairs ∧ y.ricId = x.ricId ∧
      ∀ p ∈ map.pairs, p.2.ricId = x.ricId → y.xappId ≤ p.2.xappId := by
  unfold findRicReqMapRicId at ok
  split at ok
  · cases ok
  · rename_i y n' found
    cases ok
    obtain ⟨same, before, after, listed, skipped⟩ := List.find?_eq_some_iff_append.mp found
    have stored : (y, n) ∈ map.right.toList := by
      rw [listed]
      simp
    refine ⟨y, inv.mem_right.mp stored, eqXappRicGenId_iff.mp same, ?_⟩
    intro p mem alike
    have mem : (p.2, p.1) ∈ map.right.toList := inv.mem_right.mpr mem
    rw [listed] at mem
    rcases List.mem_append.mp mem with earlier | later
    · have := skipped _ earlier
      rw [Bool.not_eq_true', ← Bool.not_eq_true, eqXappRicGenId_iff] at this
      exact absurd alike this
    · rcases List.mem_cons.mp later with here | later
      · cases here
        exact UInt16.le_refl _
      · exact xappId_le_of_before listed later

theorem findRicReq_error {map : MapRicId} (inv : map.Inverse) {x : XappRicId} {e : Assertion} :
    findRicReqMapRicId map x = .error e ↔
      e = xappRicIdNotFound ∧ ∀ p ∈ map.pairs, p.2.ricId ≠ x.ricId := by
  unfold findRicReqMapRicId
  split
  · rename_i missed
    have none_alike : ∀ p ∈ map.pairs, p.2.ricId ≠ x.ricId := fun p mem alike =>
      AssocRbTree.findIf_none.mp missed _ (inv.mem_right.mpr mem) (eqXappRicGenId_iff.mpr alike)
    constructor
    · intro h
      cases h
      exact ⟨rfl, none_alike⟩
    · rintro ⟨rfl, -⟩
      rfl
  · rename_i y n found
    obtain ⟨mem, same⟩ := AssocRbTree.findIf_some found
    simp only [reduceCtorEq, false_iff, not_and, not_forall, not_not]
    exact fun _ => ⟨(n, y), inv.mem_right.mp mem, eqXappRicGenId_iff.mp same⟩

theorem mem_findAllSubs {map : MapRicId} (inv : map.Inverse) {xappId : UInt16}
    {n : E2NodeRicId} :
    n ∈ findAllSubsMapRicId map xappId ↔
      ∃ x, (n, x) ∈ map.pairs ∧ x.xappId = xappId ∧ n.ricReqType = .subscription := by
  simp only [findAllSubsMapRicId, List.mem_filterMap, Prod.exists, Option.ite_none_right_eq_some,
    Option.some.injEq, eqXappId, decide_eq_true_eq]
  constructor
  · rintro ⟨x, n', mem, ⟨xapp, kind⟩, rfl⟩
    exact ⟨x, inv.mem_right.mp mem, xapp, kind⟩
  · intro entry
    obtain ⟨x, mem, xapp, kind⟩ := entry
    exact ⟨x, n, inv.mem_right.mpr mem, ⟨xapp, kind⟩, rfl⟩

end MapRicId

end FlexRic
