import FlexRic.Asn.ControlRoundTrip
import FlexRic.Asn.NodeRegistry
import FlexRic.Asn.SubscriptionRoundTrip

/-! # Addressing a node

An xApp knows a node under the id that the setup response lists, with the type that it
guesses from the components. Its requests name that id, and the iApp looks for a
registered node with an equal one.
-/

namespace FlexRic.Asn

open Wire (Bytes)
open GlobalE2NodeIds (NodeId)

/-- The type is guessed for a gNB without a unit only. -/
theorem learnType_cases {type learned : NgranNode} {cca : List NodeComponentConfigAdd}
    (here : learnType type cca = .ok learned) :
    type ≠ .gNB ∧ learned = type ∨
      type = .gNB ∧ (learned = .gNB ∨ learned = .gNBCU ∨ learned = .gNBCUCP) := by
  unfold learnType at here
  split at here
  · rename_i gnb
    right
    refine ⟨gnb, ?_⟩
    unfold guessType at here
    split at here
    · obtain ⟨_, -, done⟩ := bind_eq_ok.mp here
      exact .inr (.inl (pure_eq_ok.mp done).symm)
    · obtain ⟨_, -, done⟩ := bind_eq_ok.mp here
      exact .inr (.inr (pure_eq_ok.mp done).symm)
    · cases here
      exact .inl rfl
  · rename_i split
    cases here
    exact .inl ⟨split, rfl⟩

/-- The components of a gNB under which an xApp can control it. -/
def ControlledAs (cca : List NodeComponentConfigAdd) : Prop :=
  cca.length ≠ 3 ∧ (cca.length = 2 → cca.map (·.interfaceType) = [.ng, .f1])

theorem guessType_admitted_iff (cca : List NodeComponentConfigAdd) :
    (∃ type, guessType cca = .ok type ∧ type ∈ controlTypes) ↔ ControlledAs cca := by
  rw [ControlledAs, ← List.length_map (·.interfaceType), guessType]
  generalize cca.map (·.interfaceType) = types
  match types with
  | [] => simp [controlTypes]
  | [_] => simp [controlTypes]
  | [first, second] => simp [controlTypes]
  | [first, second, third] => simp [controlTypes]
  | _ :: _ :: _ :: _ :: _ => simp [controlTypes]

/-- The types under which registered nodes are heard. -/
theorem learnType_admitted_iff {type : NgranNode} (cca : List NodeComponentConfigAdd)
    (kept : heardType type = type) :
    (∃ learned, learnType type cca = .ok learned ∧ learned ∈ controlTypes) ↔
      (type = .gNB → ControlledAs cca) := by
  unfold learnType
  by_cases gnb : type = .gNB
  · simp only [gnb, if_true, guessType_admitted_iff, forall_const]
  · have admitted : type ∈ controlTypes := by
      cases type <;> first | decide | cases kept
    simp [gnb, admitted]

/-- The id of a registered node, as an xApp obtains it. -/
def RegisteredNode.obtained (node : RegisteredNode) (type : NgranNode) (plmn : Plmn) : NodeId :=
  { node.id with type := type, plmn := plmn }

variable {node : RegisteredNode} {type : NgranNode} {plmn back : Plmn}

/-- What is guessed of a type gets lost again. -/
theorem heard_obtained (kept : heard node.id = node.id)
    (learned : learnType node.id.type node.compConfAdd = .ok type) :
    heard (node.obtained type plmn) = { node.id with plmn := plmn } := by
  obtain ⟨⟨here, network, nbId, cuDuId⟩, ranFunc, cca⟩ := node
  simp only [RegisteredNode.obtained]
  rcases learnType_cases learned with ⟨-, rfl⟩ | ⟨rfl, guessed⟩
  · simp only [heard, NodeId.mk.injEq] at kept ⊢
    exact ⟨kept.1, trivial, kept.2.2⟩
  · simp only [heard, NodeId.mk.injEq] at kept
    rcases guessed with rfl | rfl | rfl <;> simpa [heard, heardType] using kept.2.2.2

theorem obtained_returns (sound : node.Sound)
    (learned : learnType node.id.type node.compConfAdd = .ok type)
    (read : plmnidToMccMnc (mccMncToPlmnid plmn) = .ok back) :
    ∃ choice, encGlobalE2nodeId (node.obtained type plmn) = .ok choice ∧
      decGlobalE2nodeId choice = .ok { node.id with plmn := back } := by
  have completes : ∃ choice, encGlobalE2nodeId (node.obtained type plmn) = .ok choice := by
    apply (encGlobalE2nodeId_completes_iff _).mpr
    intro gnb
    rcases learnType_cases learned with ⟨-, rfl⟩ | ⟨isGnb, guessed⟩
    · exact ⟨sound.unit, sound.site gnb⟩
    · refine ⟨?_, sound.site (by rw [isGnb]; decide)⟩
      intro isSplit
      rcases guessed with rfl | rfl | rfl <;> simp [RegisteredNode.obtained] at isSplit
  obtain ⟨choice, encoded⟩ := completes
  have network : plmnidToMccMnc (mccMncToPlmnid (node.obtained type plmn).plmn) = .ok back := read
  have returned := nodeId_back network choice encoded
  rw [heard_obtained sound.heard learned] at returned
  exact ⟨choice, encoded, returned⟩

/-- The iApp finds the node exactly when its network came back. -/
theorem eq_registered_iff (sound : node.Sound) :
    GlobalE2NodeIds.eqGlobalE2NodeId { node.id with plmn := back } node.id = .ok true ↔
      back = node.id.plmn := by
  have kept := sound.heard
  have unit := sound.unit
  obtain ⟨⟨here, network, nbId, cuDuId⟩, ranFunc, cca⟩ := node
  simp only [heard, NodeId.mk.injEq] at kept
  have same : GlobalE2NodeIds.eqE2apGnbId nbId nbId = true :=
    GlobalE2NodeIds.eqE2apGnbId_iff.mpr rfl
  have networks : GlobalE2NodeIds.eqE2apPlmn back network = false ↔ back ≠ network := by
    rw [← Bool.not_eq_true, not_iff_not]
    exact GlobalE2NodeIds.eqE2apPlmn_iff
  by_cases came : back = network
  · subst came
    have equal : GlobalE2NodeIds.eqE2apPlmn back back = true :=
      GlobalE2NodeIds.eqE2apPlmn_iff.mpr rfl
    cases here with
    | gNBCUUP =>
        obtain ⟨v, rfl⟩ := Option.isSome_iff_exists.mp (unit (.inl rfl))
        simp [GlobalE2NodeIds.eqGlobalE2NodeId, equal, same]
    | gNBDU =>
        obtain ⟨v, rfl⟩ := Option.isSome_iff_exists.mp (unit (.inr rfl))
        simp [GlobalE2NodeIds.eqGlobalE2NodeId, equal, same]
    | eNB | gNB =>
        simp [GlobalE2NodeIds.eqGlobalE2NodeId, equal, same, NgranNode.isCUUP, NgranNode.isDU]
    | _ => cases kept.1
  · simp [GlobalE2NodeIds.eqGlobalE2NodeId, networks, came]

@[simp] theorem decRequestFrom_cons (ie : Ie IeValue) (ies : List (Ie IeValue)) (first : Nat) :
    decRequestFrom (ie :: ies) (first + 1) = decRequestFrom ies first := rfl

theorem e42SubscriptionRequest_arrives {req : E42RicSubscriptionRequest}
    {choice : GlobalE2nodeIdChoice} {id : NodeId} (wf : req.sr.WellFormed)
    (admitted : req.id.type ∈ subscriptionTypes) (encoded : encGlobalE2nodeId req.id = .ok choice)
    (decoded : decGlobalE2nodeId choice = .ok id) :
    ∃ pdu, e2apEncPdu (.e42RicSubReq req) = .ok pdu ∧
      e2apDecPdu pdu = .ok (.e42RicSubReq
        ⟨req.xappId, id, { req.sr with action := req.sr.action.map heardAction }⟩) := by
  obtain ⟨details, encodedDetails⟩ := encSubscriptionDetails_completes wf
  have back := decRequestFrom_back wf.filled wf.few encodedDetails
  refine ⟨⟨.initiatingMessage, .e42RicSubscription, .reject, .e42RicSubscriptionRequest,
    ⟨.xappId, .reject, .xappId req.xappId.toNat⟩ ::
      ⟨.globalE2nodeId, .reject, .globalE2nodeId choice⟩ ::
        (encRicId req.sr.ricId ++ [details])⟩, ?_, ?_⟩
  · simp only [e2apEncPdu, e2apEncE42SubscriptionRequest, check_pass _ wf.eventTrigger,
      check_pass _ wf.few, check_pass _ admitted, ok_bind, encoded, encodedDetails]
    rfl
  · simp [e2apDecPdu, e2apGetMsgType, decMsg, e2apDecE42SubscriptionRequest, asXappId, asNodeId,
      decoded, back]

/-- What an xApp decodes for a registered node. -/
def RegisteredNode.learnt (node : RegisteredNode) (type : NgranNode) (plmn : Plmn) :
    E2NodeConnected :=
  { node.listed with id := node.obtained type plmn }

theorem lenCca_listed (few : node.compConfAdd.length < 256) :
    node.listed.lenCca.toNat = node.compConfAdd.length := by
  rw [RegisteredNode.listed, UInt8.toNat_ofNat_of_lt' few]

theorem encConnectedIe_eq_ok {ie : Ie IeValue} (few : node.compConfAdd.length < 256)
    (encoded : encConnectedIe node.listed = .ok ie) :
    ∃ choice components ranFunctions, encGlobalE2nodeId node.id = .ok choice ∧
      node.compConfAdd.mapM encNodeComponentConfAddition = .ok components ∧
      node.ranFunc.mapM copyRanFunction = .ok ranFunctions ∧
      ie = ⟨.e2nodesConnected, .reject, .e2nodeConnectedList
        [⟨.globalE2nodeId, .reject, .globalE2nodeId choice⟩,
         ⟨.e2nodeComponentConfigAddition, .reject, .componentConfigAdditionList components⟩,
         ⟨.ranFunctionsAdded, .reject, .ranFunctionsList ranFunctions⟩]⟩ := by
  simp only [encConnectedIe, encConnected, lenCca_listed few, bind_eq_ok, check_eq_ok,
    pure_eq_ok] at encoded
  obtain ⟨_, ⟨_, -, choice, encodedId, _, -, _, -, components, encodedComponents, ranFunctions,
    copied, rfl⟩, rfl⟩ := encoded
  have all : node.listed.cca.take node.compConfAdd.length = node.compConfAdd := List.take_length
  rw [all] at encodedComponents
  exact ⟨choice, components, ranFunctions, encodedId, encodedComponents, copied, rfl⟩

/-- A registered node with few components is listed. -/
theorem encConnectedIe_completes (sound : node.Sound) (few : node.compConfAdd.length < 256) :
    ∃ ie, encConnectedIe node.listed = .ok ie := by
  have admitted : node.listed.id.type ∈ connectedTypes := by
    have kept : heardType node.id.type = node.id.type := congrArg NodeId.type sound.heard
    simp only [RegisteredNode.listed]
    generalize node.id.type = type at kept
    cases type <;> first | decide | cases kept
  obtain ⟨choice, encoded⟩ := (encGlobalE2nodeId_completes_iff node.id).mpr
    fun gnb => ⟨sound.unit, sound.site gnb⟩
  obtain ⟨components, encodedComponents⟩ := mapM_completes sound.components
  obtain ⟨ranFunctions, copied⟩ := mapM_completes fun rf mem => (sound.functions rf mem).2
  have some : 0 < node.listed.lenCca := by
    rw [UInt8.lt_iff_toNat_lt, lenCca_listed few]
    exact sound.filled
  have all : node.listed.cca.take node.compConfAdd.length = node.compConfAdd := List.take_length
  refine ⟨⟨.e2nodesConnected, .reject, .e2nodeConnectedList
    [⟨.globalE2nodeId, .reject, .globalE2nodeId choice⟩,
     ⟨.e2nodeComponentConfigAddition, .reject, .componentConfigAdditionList components⟩,
     ⟨.ranFunctionsAdded, .reject, .ranFunctionsList ranFunctions⟩]⟩, ?_⟩
  have enough : node.listed.lenCca.toNat ≤ node.listed.cca.length :=
    Nat.le_of_eq (lenCca_listed few)
  simp only [encConnectedIe, encConnected, check_pass _ admitted, check_pass _ some,
    check_pass _ enough, ok_bind]
  rw [lenCca_listed few, all]
  simp only [RegisteredNode.listed, encoded, encodedComponents, copied, ok_bind]
  rfl

/-- The xApp decodes a listed node when it can guess its type. -/
theorem decConnectedIe_iff {ie : Ie IeValue} {learnt : E2NodeConnected} (sound : node.Sound)
    (few : node.compConfAdd.length < 256)
    (read : plmnidToMccMnc (mccMncToPlmnid node.id.plmn) = .ok plmn)
    (encoded : encConnectedIe node.listed = .ok ie) :
    decConnectedIe ie = .ok learnt ↔ ∃ type,
      learnType node.id.type node.compConfAdd = .ok type ∧ node.learnt type plmn = learnt := by
  obtain ⟨choice, components, ranFunctions, encodedId, encodedComponents, copied, rfl⟩ :=
    encConnectedIe_eq_ok few encoded
  have id := nodeId_back read choice encodedId
  rw [sound.heard] at id
  have cca := mapM_back encodedComponents fun cca _ => nodeComponentConfAddition_returns cca
  have rfs := mapM_back copied fun rf mem => ranFunction_returns (sound.functions rf mem).1
  rw [List.map_id'] at cca rfs
  have length := length_of_mapM encodedComponents
  simp [decConnectedIe, asConnectedList, decConnected, asConnectedId, asComponents, asRanFunctions,
    id, cca, rfs, length, sound.filled, few, bind_eq_ok, RegisteredNode.learnt,
    RegisteredNode.listed, RegisteredNode.obtained]

/-- A node goes through to the xApp when it has few components and its type is guessed. -/
theorem node_decoded_iff {learnt : E2NodeConnected} (sound : node.Sound)
    (read : plmnidToMccMnc (mccMncToPlmnid node.id.plmn) = .ok plmn) :
    (generateE2Node node >>= encConnectedIe >>= decConnectedIe) = .ok learnt ↔
      node.compConfAdd.length < 256 ∧
        ∃ type, learnType node.id.type node.compConfAdd = .ok type ∧
          node.learnt type plmn = learnt := by
  simp only [bind_eq_ok, generateE2Node_eq_ok sound]
  constructor
  · rintro ⟨ie, ⟨_, ⟨few, rfl⟩, encoded⟩, decoded⟩
    exact ⟨few, (decConnectedIe_iff sound few read encoded).mp decoded⟩
  · rintro ⟨few, guessed⟩
    obtain ⟨ie, encoded⟩ := encConnectedIe_completes sound few
    exact ⟨ie, ⟨_, ⟨few, rfl⟩, encoded⟩, (decConnectedIe_iff sound few read encoded).mpr guessed⟩

/-- The trip of a registered node to an xApp. -/
def nodeTrip (node : RegisteredNode) : Except Fault E2NodeConnected :=
  generateE2Node node >>= encConnectedIe >>= decConnectedIe

variable {reg : List RegisteredNode} {xappId : UInt16}

theorem nodeTrips_eq_ok {nodes : List E2NodeConnected} :
    reg.mapM nodeTrip = .ok nodes ↔
      ∃ connected, (∃ listed, reg.mapM generateE2Node = .ok listed ∧
        listed.mapM encConnectedIe = .ok connected) ∧
          connected.mapM decConnectedIe = .ok nodes := by
  simp only [mapM_comp_eq_ok]
  rfl

theorem generateSetupResponse_eq_ok {sr : E42SetupResponse} :
    generateSetupResponse xappId reg = .ok sr ↔
      ∃ nodes, reg.mapM generateE2Node = .ok nodes ∧ reg.length < 256 ∧
        ⟨xappId, UInt8.ofNat nodes.length, nodes⟩ = sr := by
  simp only [generateSetupResponse, generateE2NodeArr, bind_eq_ok, check_eq_ok, pure_eq_ok]
  constructor
  · rintro ⟨_, ⟨nodes, generated, _, few, rfl⟩, rfl⟩
    exact ⟨nodes, generated, few, rfl⟩
  · rintro ⟨nodes, generated, few, rfl⟩
    exact ⟨nodes, ⟨nodes, generated, (), few, rfl⟩, rfl⟩

theorem encSetupResponse_eq_ok {nodes : List E2NodeConnected} {pdu : Pdu} (some : nodes ≠ [])
    (few : nodes.length < 256) :
    e2apEncPdu (.e42StpResp ⟨xappId, UInt8.ofNat nodes.length, nodes⟩) = .ok pdu ↔
      ∃ connected, nodes.mapM encConnectedIe = .ok connected ∧
        ⟨.successfulOutcome, .e42Setup, .reject, .e42setupResponse,
          ⟨.xappId, .reject, .xappId xappId.toNat⟩ :: connected⟩ = pdu := by
  have length : (UInt8.ofNat nodes.length).toNat = nodes.length := UInt8.toNat_ofNat_of_lt' few
  have filled : 0 < UInt8.ofNat nodes.length := by
    rw [UInt8.lt_iff_toNat_lt, length]
    exact List.length_pos_iff.mpr some
  simp [e2apEncPdu, e2apEncE42SetupResponse, length, filled]

theorem decSetupResponse_eq_ok {connected : List (Ie IeValue)} {answer : E42SetupResponse} :
    e2apDecPdu ⟨.successfulOutcome, .e42Setup, .reject, .e42setupResponse,
        ⟨.xappId, .reject, .xappId xappId.toNat⟩ :: connected⟩ = .ok (.e42StpResp answer) ↔
      ∃ nodes, connected.mapM decConnectedIe = .ok nodes ∧
        ⟨xappId, UInt8.ofNat connected.length, nodes⟩ = answer := by
  simp [e2apDecPdu, e2apGetMsgType, decMsg, e2apDecE42SetupResponse, asXappId]

/-- The response is decoded when each of its nodes is. -/
theorem response_decoded_iff {answer : E42SetupResponse} (some : reg ≠ []) :
    (∃ sr pdu, generateSetupResponse xappId reg = .ok sr ∧ e2apEncPdu (.e42StpResp sr) = .ok pdu ∧
      e2apDecPdu pdu = .ok (.e42StpResp answer)) ↔
      reg.length < 256 ∧ ∃ nodes, reg.mapM nodeTrip = .ok nodes ∧
        ⟨xappId, UInt8.ofNat reg.length, nodes⟩ = answer := by
  simp only [generateSetupResponse_eq_ok, nodeTrips_eq_ok]
  have filled : ∀ {nodes : List E2NodeConnected},
      reg.mapM generateE2Node = .ok nodes → nodes ≠ [] :=
    fun generated empty => some ((eq_nil_of_mapM generated).mp empty)
  constructor
  · rintro ⟨_, pdu, ⟨nodes, generated, few, rfl⟩, encoded, decoded⟩
    have length := length_of_mapM generated
    obtain ⟨connected, encodedNodes, rfl⟩ :=
      (encSetupResponse_eq_ok (filled generated) (length ▸ few)).mp encoded
    obtain ⟨back, decodedNodes, rfl⟩ := decSetupResponse_eq_ok.mp decoded
    rw [length_of_mapM encodedNodes, length]
    exact ⟨few, back, ⟨connected, ⟨nodes, generated, encodedNodes⟩, decodedNodes⟩, rfl⟩
  · rintro ⟨few, back, ⟨connected, ⟨nodes, generated, encodedNodes⟩, decodedNodes⟩, rfl⟩
    have length := length_of_mapM generated
    refine ⟨_, _, ⟨nodes, generated, few, rfl⟩,
      (encSetupResponse_eq_ok (filled generated) (length ▸ few)).mpr ⟨connected, encodedNodes, rfl⟩,
      decSetupResponse_eq_ok.mpr ⟨back, decodedNodes, ?_⟩⟩
    rw [length_of_mapM encodedNodes, length]

/-- The response that lists a registry. -/
def listing (xappId : UInt16) (reg : List RegisteredNode) : E42SetupResponse :=
  ⟨xappId, UInt8.ofNat reg.length, reg.map (·.listed)⟩

theorem generateSetupResponse_lists {sr : E42SetupResponse} (sound : ∀ node ∈ reg, node.Sound)
    (generated : generateSetupResponse xappId reg = .ok sr) : listing xappId reg = sr := by
  obtain ⟨nodes, listed, -, rfl⟩ := generateSetupResponse_eq_ok.mp generated
  have all := eq_map_of_mapM listed fun node mem _ here =>
    ((generateE2Node_eq_ok (sound node mem)).mp here).2
  rw [listing, all, length_of_mapM listed]

variable {aper : Aper}

/-- The response comes back when it fits and each of its nodes goes through. -/
theorem response_comesBack_iff {answer : E42SetupResponse} (sound : ∀ node ∈ reg, node.Sound)
    (some : reg ≠ []) (inverts : aper.Inverts (.e42StpResp (listing xappId reg))) :
    (∃ sr, generateSetupResponse xappId reg = .ok sr ∧
      ComesBack aper (.e42StpResp sr) (.e42StpResp answer)) ↔
      aper.Holds (.e42StpResp (listing xappId reg)) ∧ reg.length < 256 ∧
        ∃ nodes, reg.mapM nodeTrip = .ok nodes ∧
          ⟨xappId, UInt8.ofNat reg.length, nodes⟩ = answer := by
  rw [← response_decoded_iff some]
  constructor
  · rintro ⟨sr, generated, comes⟩
    cases generateSetupResponse_lists sound generated
    obtain ⟨pdu, encoded, -, decoded⟩ := (comesBack_iff_unit inverts).mp comes
    exact ⟨((comesBack_iff_holds inverts encoded decoded).mp comes).1,
      _, pdu, generated, encoded, decoded⟩
  · rintro ⟨holds, sr, pdu, generated, encoded, decoded⟩
    cases generateSetupResponse_lists sound generated
    exact ⟨_, generated, (comesBack_iff_holds inverts encoded decoded).mpr ⟨holds, rfl⟩⟩

variable {sub : RicSubscriptionRequest} {ctrl : RicControlRequest}

/-- Both requests to a node arrive under an id that the iApp takes for the registered one. -/
structure Found (aper : Aper) (xappId : UInt16) (sub : RicSubscriptionRequest)
    (ctrl : RicControlRequest) (obtained registered : NodeId) : Prop where
  subscription : ∃ req : E42RicSubscriptionRequest,
    ComesBack aper (.e42RicSubReq ⟨xappId, obtained, sub⟩) (.e42RicSubReq req) ∧
      GlobalE2NodeIds.eqGlobalE2NodeId req.id registered = .ok true
  control : ∃ req : E42RicControlRequest,
    ComesBack aper (.e42RicCtrlReq ⟨xappId, obtained, ctrl⟩) (.e42RicCtrlReq req) ∧
      GlobalE2NodeIds.eqGlobalE2NodeId req.id registered = .ok true

/-- The xApp decodes the setup response, and its requests to each listed node find it. -/
def NodesAddressed (aper : Aper) (xappId : UInt16) (reg : List RegisteredNode)
    (sub : RicSubscriptionRequest) (ctrl : RicControlRequest) : Prop :=
  ∃ answer : E42SetupResponse,
    (∃ sr, generateSetupResponse xappId reg = .ok sr ∧
      ComesBack aper (.e42StpResp sr) (.e42StpResp answer)) ∧
    List.Forall₂ (fun node learnt => Found aper xappId sub ctrl learnt.id node.id) reg answer.nodes

/-- The ids under which an xApp may come to know a node. -/
def RegisteredNode.Obtains (node : RegisteredNode) (id : NodeId) : Prop :=
  ∃ type plmn, learnType node.id.type node.compConfAdd = .ok type ∧
    plmnidToMccMnc (mccMncToPlmnid node.id.plmn) = .ok plmn ∧ node.obtained type plmn = id

/-- The messages that are sent for a registry meet `P`. -/
structure EachMessage (P : E2apMsg → Prop) (xappId : UInt16) (reg : List RegisteredNode)
    (sub : RicSubscriptionRequest) (ctrl : RicControlRequest) : Prop where
  response : P (.e42StpResp (listing xappId reg))
  requests : ∀ node ∈ reg, ∀ id, node.Obtains id →
    P (.e42RicSubReq ⟨xappId, id, sub⟩) ∧ P (.e42RicCtrlReq ⟨xappId, id, ctrl⟩)

/-- A node that xApps can address. -/
structure Addressable (node : RegisteredNode) : Prop where
  network : PlmnFits node.id.plmn
  few : node.compConfAdd.length < 256
  cu : node.id.type = .gNB → ControlledAs node.compConfAdd

/-- Every type that a node is known under can be subscribed to. -/
theorem learnType_subscribed {cca : List NodeComponentConfigAdd} {learned : NgranNode}
    (kept : heardType type = type) (here : learnType type cca = .ok learned) :
    learned ∈ subscriptionTypes := by
  rcases learnType_cases here with ⟨-, rfl⟩ | ⟨-, rfl | rfl | rfl⟩
  · cases learned <;> first | decide | cases kept
  · decide
  · decide
  · decide

theorem subscription_found_iff (registered : NodeId) {req : E42RicSubscriptionRequest}
    {choice : GlobalE2nodeIdChoice} {id : NodeId} (wf : req.sr.WellFormed)
    (inverts : aper.Inverts (.e42RicSubReq req)) (admitted : req.id.type ∈ subscriptionTypes)
    (encoded : encGlobalE2nodeId req.id = .ok choice)
    (decoded : decGlobalE2nodeId choice = .ok id) :
    (∃ arrived : E42RicSubscriptionRequest,
      ComesBack aper (.e42RicSubReq req) (.e42RicSubReq arrived) ∧
        GlobalE2NodeIds.eqGlobalE2NodeId arrived.id registered = .ok true) ↔
      aper.Holds (.e42RicSubReq req) ∧
        GlobalE2NodeIds.eqGlobalE2NodeId id registered = .ok true := by
  obtain ⟨pdu, encodedReq, decodedReq⟩ :=
    e42SubscriptionRequest_arrives wf admitted encoded decoded
  simp only [comesBack_iff_holds inverts encodedReq decodedReq, E2apMsg.e42RicSubReq.injEq]
  constructor
  · rintro ⟨_, ⟨holds, rfl⟩, found⟩
    exact ⟨holds, found⟩
  · rintro ⟨holds, found⟩
    exact ⟨_, ⟨holds, rfl⟩, found⟩

theorem control_found_iff (registered : NodeId) {req : E42RicControlRequest}
    {choice : GlobalE2nodeIdChoice} {id : NodeId} (wf : req.ctrlReq.WellFormed)
    (inverts : aper.Inverts (.e42RicCtrlReq req))
    (encoded : encGlobalE2nodeId req.id = .ok choice)
    (decoded : decGlobalE2nodeId choice = .ok id) :
    (∃ arrived : E42RicControlRequest,
      ComesBack aper (.e42RicCtrlReq req) (.e42RicCtrlReq arrived) ∧
        GlobalE2NodeIds.eqGlobalE2NodeId arrived.id registered = .ok true) ↔
      req.id.type ∈ controlTypes ∧ aper.Holds (.e42RicCtrlReq req) ∧
        GlobalE2NodeIds.eqGlobalE2NodeId id registered = .ok true := by
  by_cases admitted : req.id.type ∈ controlTypes
  · obtain ⟨pdu, encodedReq, decodedReq⟩ := e42ControlRequest_arrives wf admitted encoded decoded
    simp only [comesBack_iff_holds inverts encodedReq decodedReq, E2apMsg.e42RicCtrlReq.injEq,
      admitted, true_and]
    constructor
    · rintro ⟨_, ⟨holds, rfl⟩, found⟩
      exact ⟨holds, found⟩
    · rintro ⟨holds, found⟩
      exact ⟨_, ⟨holds, rfl⟩, found⟩
  · constructor
    · rintro ⟨_, comes, -⟩
      obtain ⟨pdu, encodedReq, -⟩ := (comesBack_iff_unit inverts).mp comes
      simp only [e2apEncPdu, e2apEncE42ControlRequest, bind_eq_ok, check_eq_ok] at encodedReq
      obtain ⟨_, -, _, -, _, here, -⟩ := encodedReq
      exact absurd here admitted
    · rintro ⟨here, -⟩
      exact absurd here admitted

/-- A node is found when its network comes back and the xApp can control it. -/
theorem found_iff (sound : node.Sound) (subWf : sub.WellFormed) (ctrlWf : ctrl.WellFormed)
    (learned : learnType node.id.type node.compConfAdd = .ok type)
    (read : plmnidToMccMnc (mccMncToPlmnid node.id.plmn) = .ok plmn)
    (invertsSub : aper.Inverts (.e42RicSubReq ⟨xappId, node.obtained type plmn, sub⟩))
    (invertsCtrl : aper.Inverts (.e42RicCtrlReq ⟨xappId, node.obtained type plmn, ctrl⟩)) :
    Found aper xappId sub ctrl (node.obtained type plmn) node.id ↔
      PlmnFits node.id.plmn ∧ type ∈ controlTypes ∧
        aper.Holds (.e42RicSubReq ⟨xappId, node.obtained type plmn, sub⟩) ∧
        aper.Holds (.e42RicCtrlReq ⟨xappId, node.obtained type plmn, ctrl⟩) := by
  obtain ⟨back, readAgain⟩ := plmnid_reads plmn
  obtain ⟨bytes, network⟩ := sound.network
  obtain ⟨choice, encoded, decoded⟩ := obtained_returns sound learned readAgain
  have kept : heardType node.id.type = node.id.type := congrArg NodeId.type sound.heard
  have admitted := learnType_subscribed kept learned
  have subscription := subscription_found_iff node.id subWf invertsSub admitted
    encoded decoded
  have control := control_found_iff node.id ctrlWf invertsCtrl encoded decoded
  rw [eq_registered_iff sound, plmnid_twice_iff network read readAgain] at subscription control
  constructor
  · intro found
    obtain ⟨holdsSub, fits⟩ := subscription.mp found.subscription
    obtain ⟨controlled, holdsCtrl, -⟩ := control.mp found.control
    exact ⟨fits, controlled, holdsSub, holdsCtrl⟩
  · rintro ⟨fits, controlled, holdsSub, holdsCtrl⟩
    exact ⟨subscription.mpr ⟨holdsSub, fits⟩, control.mpr ⟨controlled, holdsCtrl, fits⟩⟩

/-- A node goes through to the xApp and is found again when it is addressable. -/
theorem node_found_iff (sound : node.Sound) (subWf : sub.WellFormed) (ctrlWf : ctrl.WellFormed)
    (inverts : ∀ id, node.Obtains id →
      aper.Inverts (.e42RicSubReq ⟨xappId, id, sub⟩) ∧
        aper.Inverts (.e42RicCtrlReq ⟨xappId, id, ctrl⟩)) :
    (∃ learnt, nodeTrip node = .ok learnt ∧ Found aper xappId sub ctrl learnt.id node.id) ↔
      Addressable node ∧ ∀ id, node.Obtains id →
        aper.Holds (.e42RicSubReq ⟨xappId, id, sub⟩) ∧
          aper.Holds (.e42RicCtrlReq ⟨xappId, id, ctrl⟩) := by
  obtain ⟨plmn, read⟩ := plmnid_reads node.id.plmn
  have kept : heardType node.id.type = node.id.type := congrArg NodeId.type sound.heard
  have found : ∀ type, learnType node.id.type node.compConfAdd = .ok type →
      (Found aper xappId sub ctrl (node.obtained type plmn) node.id ↔
        PlmnFits node.id.plmn ∧ type ∈ controlTypes ∧
          aper.Holds (.e42RicSubReq ⟨xappId, node.obtained type plmn, sub⟩) ∧
          aper.Holds (.e42RicCtrlReq ⟨xappId, node.obtained type plmn, ctrl⟩)) := by
    intro type learned
    obtain ⟨invertsSub, invertsCtrl⟩ := inverts _ ⟨type, plmn, learned, read, rfl⟩
    exact found_iff sound subWf ctrlWf learned read invertsSub invertsCtrl
  simp only [nodeTrip, node_decoded_iff sound read]
  constructor
  · rintro ⟨_, ⟨few, type, learned, rfl⟩, addressed⟩
    obtain ⟨fits, controlled, holds⟩ := (found type learned).mp addressed
    have cu := (learnType_admitted_iff node.compConfAdd kept).mp ⟨type, learned, controlled⟩
    refine ⟨⟨fits, few, cu⟩, ?_⟩
    rintro _ ⟨other, otherPlmn, learnedOther, readOther, rfl⟩
    cases learned.symm.trans learnedOther
    cases read.symm.trans readOther
    exact holds
  · rintro ⟨⟨fits, few, cu⟩, holds⟩
    obtain ⟨type, learned, controlled⟩ := (learnType_admitted_iff node.compConfAdd kept).mpr cu
    refine ⟨_, ⟨few, type, learned, rfl⟩, ?_⟩
    exact (found type learned).mpr ⟨fits, controlled, holds _ ⟨type, plmn, learned, read, rfl⟩⟩

theorem eachMessage_singleton (node : RegisteredNode) {P : E2apMsg → Prop}
    (learned : learnType node.id.type node.compConfAdd = .ok type)
    (read : plmnidToMccMnc (mccMncToPlmnid node.id.plmn) = .ok plmn)
    (response : P (.e42StpResp (listing xappId [node])))
    (subscription : P (.e42RicSubReq ⟨xappId, node.obtained type plmn, sub⟩))
    (control : P (.e42RicCtrlReq ⟨xappId, node.obtained type plmn, ctrl⟩)) :
    EachMessage P xappId [node] sub ctrl := by
  refine ⟨response, ?_⟩
  rintro other mem _ ⟨otherType, otherPlmn, learnedOther, readOther, rfl⟩
  cases List.mem_singleton.mp mem
  cases learned.symm.trans learnedOther
  cases read.symm.trans readOther
  exact ⟨subscription, control⟩

/-- Of the nodes that a registry holds, xApps can address just those that
    `Addressable` describes. -/
theorem node_addressing_iff (registry : Registry reg) (filled : reg ≠ [])
    (subWf : sub.WellFormed) (ctrlWf : ctrl.WellFormed)
    (inverts : EachMessage aper.Inverts xappId reg sub ctrl) :
    NodesAddressed aper xappId reg sub ctrl ↔
      reg.length < 256 ∧ (∀ node ∈ reg, Addressable node) ∧
        EachMessage aper.Holds xappId reg sub ctrl := by
  have sound := registry.sound
  have found : ∀ node ∈ reg,
      ((∃ learnt, nodeTrip node = .ok learnt ∧ Found aper xappId sub ctrl learnt.id node.id) ↔
        Addressable node ∧ ∀ id, node.Obtains id →
          aper.Holds (.e42RicSubReq ⟨xappId, id, sub⟩) ∧
            aper.Holds (.e42RicCtrlReq ⟨xappId, id, ctrl⟩)) :=
    fun node mem => node_found_iff (sound node mem) subWf ctrlWf (inverts.requests node mem)
  simp only [NodesAddressed, response_comesBack_iff sound filled inverts.response]
  constructor
  · rintro ⟨_, ⟨holds, few, nodes, trips, rfl⟩, all⟩
    have each := mapM_related_iff.mp ⟨nodes, trips, all⟩
    refine ⟨few, fun node mem => ((found node mem).mp (each node mem)).1, holds, ?_⟩
    intro node mem
    exact ((found node mem).mp (each node mem)).2
  · rintro ⟨few, addressable, holds⟩
    have each : ∀ node ∈ reg, ∃ learnt, nodeTrip node = .ok learnt ∧
        Found aper xappId sub ctrl learnt.id node.id := by
      intro node mem
      exact (found node mem).mpr ⟨addressable node mem, holds.requests node mem⟩
    obtain ⟨nodes, trips, all⟩ := mapM_related_iff.mpr each
    exact ⟨_, ⟨holds.response, few, nodes, trips, rfl⟩, all⟩

/-- A gNB with one RAN function. -/
def aGnb (components : List NodeComponentConfigAdd) : RegisteredNode :=
  ⟨⟨.gNB, ⟨208, 95, 2⟩, ⟨7, 0⟩, none⟩, [⟨[0x0C], 2, 1, [0x31]⟩], components⟩

def anF1 : NodeComponentConfigAdd := ⟨.f1, .f1 5, [0x0A], [0x0B]⟩

def anF1Item : Ie ComponentConfigAdditionItem :=
  ⟨.e2nodeComponentConfigAdditionItem, .reject, ⟨.f1, .f1 5, [0x0A], [0x0B]⟩⟩

/-- The components that make a gNB a CU-CP. -/
def cuCp : List NodeComponentConfigAdd :=
  [⟨.ng, .ng [0x41], [0x0A], [0x0B]⟩, anF1, ⟨.e1, .e1 6, [0x0A], [0x0B]⟩]

def cuCpItems : List (Ie ComponentConfigAdditionItem) :=
  [⟨.e2nodeComponentConfigAdditionItem, .reject, ⟨.ng, .ng [0x41], [0x0A], [0x0B]⟩⟩, anF1Item,
   ⟨.e2nodeComponentConfigAdditionItem, .reject, ⟨.e1, .e1 6, [0x0A], [0x0B]⟩⟩]

def aChoice : GlobalE2nodeIdChoice :=
  .gNB ⟨[0x02, 0xF8, 0x59], ⟨[0x00, 0x00, 0x00, 0x07], 0⟩, none, none⟩

def aFunctionItem : Ie RanFunctionItem := ⟨.ranFunctionItem, .reject, ⟨2, [0x0C], 1, [0x31]⟩⟩

/-- The request that the node sets up with. -/
def aRegistrationPdu (components : List (Ie ComponentConfigAdditionItem)) : Pdu :=
  ⟨.initiatingMessage, .e2setup, .reject, .e2setupRequest,
    [⟨.transactionId, .reject, .transactionId 1⟩,
     ⟨.globalE2nodeId, .reject, .globalE2nodeId aChoice⟩,
     ⟨.ranFunctionsAdded, .reject, .ranFunctionsList [aFunctionItem]⟩,
     ⟨.e2nodeComponentConfigAddition, .reject, .componentConfigAdditionList components⟩]⟩

theorem registry_aGnb {components : List NodeComponentConfigAdd}
    {items : List (Ie ComponentConfigAdditionItem)} {sr : E2SetupRequest}
    (decoded : e2apDecSetupRequest (aRegistrationPdu items) = .ok (.e2StpReq sr))
    (entered : enter sr = .ok (aGnb components)) : Registry [aGnb components] := by
  apply Registry.add .empty decoded
  simp [addRegE2Node, entered]

def aListingPdu (components : List (Ie ComponentConfigAdditionItem)) : Pdu :=
  ⟨.successfulOutcome, .e42Setup, .reject, .e42setupResponse,
    [⟨.xappId, .reject, .xappId 7⟩,
     ⟨.e2nodesConnected, .reject, .e2nodeConnectedList
      [⟨.globalE2nodeId, .reject, .globalE2nodeId aChoice⟩,
       ⟨.e2nodeComponentConfigAddition, .reject, .componentConfigAdditionList components⟩,
       ⟨.ranFunctionsAdded, .reject, .ranFunctionsList [aFunctionItem]⟩]⟩]⟩

/-- The two listings in aligned PER. -/
def aListingBytes : Bytes :=
  [0x20, 0x0E, 0x00, 0x42, 0x00, 0x00, 0x02,
   0x00, 0x3E, 0x00, 0x02, 0x00, 0x07,
   0x00, 0x3F, 0x00, 0x35, 0x00, 0x03,
   0x00, 0x03, 0x00, 0x09, 0x00, 0x02, 0xF8, 0x59, 0x50, 0x00, 0x00, 0x00, 0x07,
   0x00, 0x32, 0x00, 0x0E, 0x00, 0x00,
   0x00, 0x33, 0x00, 0x08, 0x19, 0x80, 0x05, 0x00, 0x01, 0x0A, 0x01, 0x0B,
   0x00, 0x0A, 0x00, 0x10, 0x00,
   0x00, 0x08, 0x00, 0x0B, 0x00, 0x00, 0x02, 0x01, 0x0C, 0x00, 0x01, 0x00, 0x00, 0x00, 0x31]

def aCuCpListingBytes : Bytes :=
  [0x20, 0x0E, 0x00, 0x5B, 0x00, 0x00, 0x02,
   0x00, 0x3E, 0x00, 0x02, 0x00, 0x07,
   0x00, 0x3F, 0x00, 0x4E, 0x00, 0x03,
   0x00, 0x03, 0x00, 0x09, 0x00, 0x02, 0xF8, 0x59, 0x50, 0x00, 0x00, 0x00, 0x07,
   0x00, 0x32, 0x00, 0x27, 0x00, 0x02,
   0x00, 0x33, 0x00, 0x09, 0x00, 0x00, 0x00, 0x41, 0x00, 0x01, 0x0A, 0x01, 0x0B,
   0x00, 0x33, 0x00, 0x08, 0x19, 0x80, 0x05, 0x00, 0x01, 0x0A, 0x01, 0x0B,
   0x00, 0x33, 0x00, 0x08, 0x11, 0x00, 0x06, 0x00, 0x01, 0x0A, 0x01, 0x0B,
   0x00, 0x0A, 0x00, 0x10, 0x00,
   0x00, 0x08, 0x00, 0x0B, 0x00, 0x00, 0x02, 0x01, 0x0C, 0x00, 0x01, 0x00, 0x00, 0x00, 0x31]

def aSubscription : RicSubscriptionRequest :=
  ⟨⟨1021, 0, 2⟩, [0x01], [⟨1, .report, none, none⟩]⟩

def aSubscriptionPdu : Pdu :=
  ⟨.initiatingMessage, .e42RicSubscription, .reject, .e42RicSubscriptionRequest,
    ⟨.xappId, .reject, .xappId 7⟩ :: ⟨.globalE2nodeId, .reject, .globalE2nodeId aChoice⟩ ::
      (encRicId ⟨1021, 0, 2⟩ ++
        [⟨.ricSubscriptionDetails, .reject, .ricSubscriptionDetails
          ⟨[0x01], [⟨.ricActionToBeSetupItem, .reject, ⟨1, .report, none, none⟩⟩]⟩⟩])⟩

/-- The subscription in aligned PER. -/
def aSubscriptionBytes : Bytes :=
  [0x00, 0x0F, 0x00, 0x34, 0x00, 0x00, 0x05,
   0x00, 0x3E, 0x00, 0x02, 0x00, 0x07,
   0x00, 0x03, 0x00, 0x09, 0x00, 0x02, 0xF8, 0x59, 0x50, 0x00, 0x00, 0x00, 0x07,
   0x00, 0x1D, 0x00, 0x05, 0x00, 0x03, 0xFD, 0x00, 0x00,
   0x00, 0x05, 0x00, 0x02, 0x00, 0x02,
   0x00, 0x1E, 0x00, 0x0B, 0x00, 0x01, 0x01, 0x00, 0x00, 0x13, 0x00, 0x03, 0x00, 0x01, 0x00]

theorem aSubscription_wellFormed : aSubscription.WellFormed := by
  have action : ∀ a ∈ aSubscription.action, a.WellFormed := by
    intro a mem
    rw [List.mem_singleton.mp mem]
    exact ⟨nofun, nofun⟩
  exact ⟨by decide, by decide, by decide, action⟩

/-- What is sent for the two nodes. -/
def aCodec : Aper :=
  .ofTable [(aListingPdu [anF1Item], aListingBytes), (aListingPdu cuCpItems, aCuCpListingBytes),
    (aSubscriptionPdu, aSubscriptionBytes), (aCuControlPdu, aCuControlBytes)]

theorem aCodec_holds {msg : E2apMsg} : aCodec.Holds msg := Aper.ofTable_holds (by decide)

theorem aGnb_read : plmnidToMccMnc (mccMncToPlmnid ⟨208, 95, 2⟩) = .ok ⟨208, 95, 2⟩ :=
  (plmnid_back_iff _).mpr (by decide)

theorem aGnb_inverts : EachMessage aCodec.Inverts 7 [aGnb [anF1]] aSubscription
    aCuControl.ctrlReq := by
  have learned : learnType .gNB [anF1] = .ok .gNB := rfl
  apply eachMessage_singleton (aGnb [anF1]) learned aGnb_read
  · exact inverts_of_inverse rfl ⟨aListingBytes, by decide +kernel, by decide +kernel⟩
  · exact inverts_of_inverse rfl ⟨aSubscriptionBytes, by decide +kernel, by decide +kernel⟩
  · exact inverts_of_inverse rfl ⟨aCuControlBytes, by decide +kernel, by decide +kernel⟩

theorem aCuCp_inverts : EachMessage aCodec.Inverts 7 [aGnb cuCp] aSubscription
    aCuControl.ctrlReq := by
  have learned : learnType .gNB cuCp = .ok .gNBCUCP := rfl
  apply eachMessage_singleton (aGnb cuCp) learned aGnb_read
  · exact inverts_of_inverse rfl ⟨aCuCpListingBytes, by decide +kernel, by decide +kernel⟩
  · exact inverts_of_inverse rfl ⟨aSubscriptionBytes, by decide +kernel, by decide +kernel⟩
  · intro pdu encoded
    cases encoded

theorem aCuCp_registry : Registry [aGnb cuCp] := by
  have decoded : e2apDecSetupRequest (aRegistrationPdu cuCpItems) =
      .ok (.e2StpReq ⟨1, (aGnb cuCp).id, (aGnb cuCp).ranFunc, cuCp⟩) := rfl
  exact registry_aGnb decoded rfl

theorem aGnb_registry : Registry [aGnb [anF1]] := by
  have decoded : e2apDecSetupRequest (aRegistrationPdu [anF1Item]) =
      .ok (.e2StpReq ⟨1, (aGnb [anF1]).id, (aGnb [anF1]).ranFunc, [anF1]⟩) := rfl
  exact registry_aGnb decoded rfl

theorem node_addressing_iff_gnb :
    NodesAddressed aCodec 7 [aGnb [anF1]] aSubscription aCuControl.ctrlReq ↔
      [aGnb [anF1]].length < 256 ∧ (∀ node ∈ [aGnb [anF1]], Addressable node) ∧
        EachMessage aCodec.Holds 7 [aGnb [anF1]] aSubscription aCuControl.ctrlReq :=
  node_addressing_iff aGnb_registry (List.cons_ne_nil _ _) aSubscription_wellFormed
    aCuControl_wellFormed.ctrlReq aGnb_inverts

/-- The subscription finds the CU-CP, but no control request to it is encoded. -/
theorem cu_cp_not_controlled :
    Registry [aGnb cuCp] ∧ aSubscription.WellFormed ∧ aCuControl.ctrlReq.WellFormed ∧
      EachMessage aCodec.Inverts 7 [aGnb cuCp] aSubscription aCuControl.ctrlReq ∧
      EachMessage aCodec.Holds 7 [aGnb cuCp] aSubscription aCuControl.ctrlReq ∧
      ¬NodesAddressed aCodec 7 [aGnb cuCp] aSubscription aCuControl.ctrlReq := by
  refine ⟨aCuCp_registry, aSubscription_wellFormed, aCuControl_wellFormed.ctrlReq, aCuCp_inverts,
    ⟨aCodec_holds, fun _ _ _ _ => ⟨aCodec_holds, aCodec_holds⟩⟩, ?_⟩
  rintro ⟨answer, comes, all⟩
  have sound := aCuCp_registry.sound
  obtain ⟨-, -, nodes, trips, rfl⟩ :=
    (response_comesBack_iff sound (List.cons_ne_nil _ _) aCuCp_inverts.response).mp comes
  have each := mapM_related_iff.mp ⟨nodes, trips, all⟩
  have found := each _ List.mem_cons_self
  rw [node_found_iff (sound _ List.mem_cons_self) aSubscription_wellFormed
    aCuControl_wellFormed.ctrlReq (aCuCp_inverts.requests _ List.mem_cons_self)] at found
  exact (found.1.cu rfl).1 rfl

end FlexRic.Asn
