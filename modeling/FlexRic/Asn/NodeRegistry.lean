import FlexRic.Asn.Codec

/-! # The registry of the RIC

Nodes enter the registry with what their setup requests said of them. The setup response
to an xApp lists them all, each with the length of its components in 8 bits.
-/

namespace FlexRic.Asn

open Wire (Bytes)
open GlobalE2NodeIds (NodeId)

/-- `cp_e2ap_node_comp_id`. -/
def cpNodeCompId : NodeCompId → Except Fault NodeCompId
  | .ng amfName => .ok (.ng amfName)
  | .f1 gnbDuId => do
      check (gnbDuId.toNat < 2 ^ 36) .bound
      pure (.f1 gnbDuId)
  | .e1 gnbCuUpId => .ok (.e1 gnbCuUpId)
  | .s1 mmeName => .ok (.s1 mmeName)
  | .xn => .error .notImplemented
  | .w1 _ => .error .notImplemented
  | .x2 => .error .notImplemented

/-- `cp_e2ap_node_component_config_add`. -/
def cpNodeComponentConfigAdd (src : NodeComponentConfigAdd) :
    Except Fault NodeComponentConfigAdd := do
  let compId ← cpNodeCompId src.compId
  pure { src with compId := compId }

/-- A copy is the component itself, if there is one. -/
theorem cpNodeComponentConfigAdd_same {src dst : NodeComponentConfigAdd}
    (copied : cpNodeComponentConfigAdd src = .ok dst) : dst = src := by
  obtain ⟨interfaceType, compId, request, response⟩ := src
  obtain ⟨copy, copiedId, done⟩ := bind_eq_ok.mp copied
  cases pure_eq_ok.mp done
  cases compId with
  | f1 gnbDuId =>
      obtain ⟨_, -, done⟩ := bind_eq_ok.mp copiedId
      cases pure_eq_ok.mp done
      rfl
  | _ =>
      cases copiedId
      try rfl

/-- A node with its value in `node_to_rf`. -/
structure RegisteredNode where
  id : NodeId
  ranFunc : List RanFunction
  compConfAdd : List NodeComponentConfigAdd
  deriving DecidableEq, Repr

/-- What `add_reg_e2_node` enters for a setup request. -/
def enter (sr : E2SetupRequest) : Except Fault RegisteredNode := do
  check (sr.ranFuncItem ≠ []) .empty
  check (sr.compConfAdd ≠ []) .empty
  let cca ← sr.compConfAdd.mapM cpNodeComponentConfigAdd
  pure ⟨sr.id, sr.ranFuncItem, cca⟩

/-- `add_reg_e2_node`. Where in the tree the node stands does not matter here. -/
def addRegE2Node (reg : List RegisteredNode) (sr : E2SetupRequest) :
    Except Fault (List RegisteredNode) := do
  let node ← enter sr
  check (∀ old ∈ reg, GlobalE2NodeIds.eqGlobalE2NodeId old.id sr.id = .ok false) .twice
  pure (node :: reg)

/-- The registries that arise from decoded setup requests, in any order of the nodes. -/
inductive Registry : List RegisteredNode → Prop where
  | empty : Registry []
  | add {reg next : List RegisteredNode} {pdu : Pdu} {sr : E2SetupRequest} :
      Registry reg → e2apDecSetupRequest pdu = .ok (.e2StpReq sr) →
      addRegE2Node reg sr = .ok next → Registry next
  | remove {reg : List RegisteredNode} (node : RegisteredNode) :
      Registry reg → node ∈ reg → Registry (reg.erase node)
  | reorder {reg next : List RegisteredNode} : Registry reg → reg.Perm next → Registry next

/-- All of a registered node can be sent on. -/
structure RegisteredNode.Sound (node : RegisteredNode) : Prop where
  heard : heard node.id = node.id
  unit : HasUnit node.id
  site : node.id.type ≠ .eNB → SiteInRange node.id.nbId
  network : ∃ bytes, plmnidToMccMnc bytes = .ok node.id.plmn
  functions : ∀ rf ∈ node.ranFunc, rf.InRange ∧ ∃ ie, copyRanFunction rf = .ok ie
  filled : 0 < node.compConfAdd.length
  copies : node.compConfAdd.mapM cpNodeComponentConfigAdd = .ok node.compConfAdd
  components : ∀ cca ∈ node.compConfAdd, ∃ ie, encNodeComponentConfAddition cca = .ok ie

/-- The lists as far as they were read can be sent on. -/
structure SetupRequestLists.Sound (lists : SetupRequestLists) : Prop where
  functions : ∀ rfs, lists.ranFuncItem = some rfs → ∀ rf ∈ rfs,
    rf.InRange ∧ ∃ ie, copyRanFunction rf = .ok ie
  components : ∀ ccas, lists.compConfAdd = some ccas → ∀ cca ∈ ccas,
    ∃ ie, encNodeComponentConfAddition cca = .ok ie

theorem decSetupRequestIe_sound {lists next : SetupRequestLists} {ie : Ie IeValue}
    (sound : lists.Sound) (turn : decSetupRequestIe lists ie = .ok next) : next.Sound := by
  unfold decSetupRequestIe at turn
  split at turn
  · simp only [bind_eq_ok, check_eq_ok, pure_eq_ok] at turn
    obtain ⟨_, -, _, -, _, -, rfs, decoded, rfl⟩ := turn
    refine ⟨?_, sound.components⟩
    intro _ here rf mem
    cases here
    obtain ⟨ie, -, here⟩ := exists_of_mapM decoded mem
    exact copyRanFunction_of_dec here
  · simp only [bind_eq_ok, check_eq_ok, pure_eq_ok] at turn
    obtain ⟨_, -, _, -, _, -, ccas, decoded, rfl⟩ := turn
    refine ⟨sound.functions, ?_⟩
    intro _ here cca mem
    cases here
    obtain ⟨ie, -, here⟩ := exists_of_mapM decoded mem
    exact encNodeComponentConfAddition_of_dec here
  · cases turn

/-- A copied list of components is the list itself. -/
theorem copies_same {ccas copies : List NodeComponentConfigAdd}
    (copied : ccas.mapM cpNodeComponentConfigAdd = .ok copies) : copies = ccas := by
  have same := eq_map_of_mapM copied fun cca _ copy here =>
    (cpNodeComponentConfigAdd_same here).symm
  rw [← same, List.map_id']

theorem enter_sound {pdu : Pdu} {sr : E2SetupRequest} {node : RegisteredNode}
    (decoded : e2apDecSetupRequest pdu = .ok (.e2StpReq sr)) (entered : enter sr = .ok node) :
    node.Sound := by
  simp only [enter, bind_eq_ok, check_eq_ok, pure_eq_ok] at entered
  obtain ⟨_, -, _, filled, copies, copied, rfl⟩ := entered
  cases copies_same copied
  simp only [e2apDecSetupRequest, bind_eq_ok, check_eq_ok, pure_eq_ok, E2apMsg.e2StpReq.injEq]
    at decoded
  obtain ⟨_, -, _, -, transId, -, choice, -, id, decodedId, lists, loop, rfl⟩ := decoded
  obtain ⟨heard, unit, site⟩ := heard_of_dec decodedId
  have start : SetupRequestLists.Sound ⟨none, none⟩ := by
    constructor
    · intro rfs here
      cases here
    · intro ccas here
      cases here
  have sound := foldlM_keeps (fun _ _ _ => decSetupRequestIe_sound) start loop
  have network := network_of_dec decodedId
  refine ⟨heard, unit, site, network, ?_, List.length_pos_iff.mpr filled, copied, ?_⟩
  · intro rf mem
    cases here : lists.ranFuncItem with
    | none => simp [here] at mem
    | some rfs =>
        simp only [here, Option.getD_some] at mem
        exact sound.functions rfs here rf mem
  · intro cca mem
    cases here : lists.compConfAdd with
    | none => simp [here] at mem
    | some ccas =>
        simp only [here, Option.getD_some] at mem
        exact sound.components ccas here cca mem

/-- Every node of a registry can be sent on. -/
theorem Registry.sound {reg : List RegisteredNode} (registry : Registry reg) :
    ∀ node ∈ reg, node.Sound := by
  induction registry with
  | empty => nofun
  | add _ decoded added ih =>
      obtain ⟨node, entered, added⟩ := bind_eq_ok.mp added
      obtain ⟨_, -, done⟩ := bind_eq_ok.mp added
      cases pure_eq_ok.mp done
      intro other mem
      rcases List.mem_cons.mp mem with rfl | mem
      · exact enter_sound decoded entered
      · exact ih other mem
  | remove node _ _ ih =>
      intro other mem
      exact ih other (List.mem_of_mem_erase mem)
  | reorder _ perm ih =>
      intro other mem
      exact ih other (perm.mem_iff.mpr mem)

/-- `cp_cca` and the loop body of `generate_e2_node_arr`. -/
def generateE2Node (node : RegisteredNode) : Except Fault E2NodeConnected := do
  check (0 < node.compConfAdd.length ∧ node.compConfAdd.length < 256) .bound
  let cca ← node.compConfAdd.mapM cpNodeComponentConfigAdd
  pure ⟨node.id, UInt8.ofNat cca.length, cca, node.ranFunc⟩

/-- `generate_e2_node_arr`. The length has 8 bits: further nodes are written behind
    the array. -/
def generateE2NodeArr (reg : List RegisteredNode) : Except Fault (List E2NodeConnected) := do
  let nodes ← reg.mapM generateE2Node
  check (reg.length < 256) .missing
  pure nodes

/-- `generate_setup_response` of the iApp. -/
def generateSetupResponse (xappId : UInt16) (reg : List RegisteredNode) :
    Except Fault E42SetupResponse := do
  let nodes ← generateE2NodeArr reg
  pure ⟨xappId, UInt8.ofNat nodes.length, nodes⟩

/-- A registered node as it is listed. -/
def RegisteredNode.listed (node : RegisteredNode) : E2NodeConnected :=
  ⟨node.id, UInt8.ofNat node.compConfAdd.length, node.compConfAdd, node.ranFunc⟩

theorem generateE2Node_eq_ok {node : RegisteredNode} {listed : E2NodeConnected}
    (sound : node.Sound) :
    generateE2Node node = .ok listed ↔ node.compConfAdd.length < 256 ∧ node.listed = listed := by
  simp [generateE2Node, bind_eq_ok, sound.copies, sound.filled, RegisteredNode.listed]

end FlexRic.Asn
