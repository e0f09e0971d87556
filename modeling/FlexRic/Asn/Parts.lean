import FlexRic.Asn.Identity

/-! # Parts of the messages

What several messages have in common: the ids of the request, causes, RAN functions
and the components of a node. Each part comes back from its encoder and decoder.
-/

namespace FlexRic.Asn

open Wire (Bytes)

/-- `MAX_NUM_ACTION_DEF`. -/
def maxNumActionDef : Nat := 16

/-- `MAX_NUM_RAN_FUNC_ID`. -/
def maxNumRanFuncId : Nat := 256

/-- `MAX_NUM_E2_NODE_COMPONENTS`. -/
def maxNumE2NodeComponents : Nat := 1024

/-- `MAX_RAN_FUNC_ID`. -/
def maxRanFuncId : Nat := 4096

/-- `MAX_RAN_FUNC_REV`. -/
def maxRanFuncRev : Nat := 4096

/-- `MAX_RIC_REQUEST_ID` and `MAX_RIC_INSTANCE_ID`. -/
def maxRicRequestId : Nat := 65536

/-- `MAX_RIC_ACTION_ID`. -/
def maxRicActionId : Nat := 256

/-- The element with the request id and the one with the RAN function id. -/
def encRicId (id : RicGenId) : List (Ie IeValue) :=
  [⟨.ricRequestId, .reject, .ricRequestId ⟨id.ricReqId.toNat, id.ricInstId.toNat⟩⟩,
   ⟨.ranFunctionId, .reject, .ranFunctionId id.ranFuncId.toNat⟩]

def asRicRequestId : IeValue → Except Fault RicRequestId
  | .ricRequestId v => .ok v
  | _ => .error .present

def asRanFunctionId : IeValue → Except Fault Nat
  | .ranFunctionId v => .ok v
  | _ => .error .present

/-- The ids from the two elements at `first`. The messages differ in what they assert
    of them. -/
def decRicId (ies : List (Ie IeValue)) (first : Nat) (criticality : Option Criticality)
    (maxRequest maxRanFunc : Option Nat) : Except Fault RicGenId := do
  let reqId ← ieAt ies first .ricRequestId criticality >>= asRicRequestId
  check (∀ m ∈ maxRequest, reqId.ricRequestorId < m ∧ reqId.ricInstanceId < m) .bound
  let ranFunc ← ieAt ies (first + 1) .ranFunctionId criticality >>= asRanFunctionId
  check (∀ m ∈ maxRanFunc, ranFunc < m) .bound
  pure ⟨UInt32.ofNat reqId.ricRequestorId, UInt16.ofNat reqId.ricInstanceId, UInt16.ofNat ranFunc⟩

variable {α : Type} {ies : List (Ie IeValue)}

@[simp] theorem ieAt_zero (ie : Ie α) (ies : List (Ie α)) (id : IeId)
    (criticality : Option Criticality) :
    ieAt (ie :: ies) 0 id criticality = ie.expect id criticality := rfl

@[simp] theorem ieAt_succ (ie : Ie α) (ies : List (Ie α)) (i : Nat) (id : IeId)
    (criticality : Option Criticality) :
    ieAt (ie :: ies) (i + 1) id criticality = ieAt ies i id criticality := rfl

@[simp] theorem decRicId_cons (ie : Ie IeValue) (first : Nat) (criticality : Option Criticality)
    (maxRequest maxRanFunc : Option Nat) :
    decRicId (ie :: ies) (first + 1) criticality maxRequest maxRanFunc =
      decRicId ies first criticality maxRequest maxRanFunc := rfl

@[simp] theorem ieAt_encRicId (ricId : RicGenId) (i : Nat) (id : IeId)
    (criticality : Option Criticality) :
    ieAt (encRicId ricId ++ ies) (i + 2) id criticality = ieAt ies i id criticality := rfl

@[simp] theorem drop_encRicId (ricId : RicGenId) (i : Nat) :
    (encRicId ricId ++ ies).drop (i + 2) = ies.drop i := rfl

@[simp] theorem length_encRicId (ricId : RicGenId) : (encRicId ricId).length = 2 := rfl

/-- The ids come back just where the bounds on them hold. -/
theorem decRicId_eq_ok {id back : RicGenId} {criticality : Option Criticality}
    {maxRequest maxRanFunc : Option Nat}
    (unchecked : criticality = none ∨ criticality = some .reject) (rest : List (Ie IeValue)) :
    decRicId (encRicId id ++ rest) 0 criticality maxRequest maxRanFunc = .ok back ↔
      (∀ m ∈ maxRequest, id.ricReqId.toNat < m ∧ id.ricInstId.toNat < m) ∧
        (∀ m ∈ maxRanFunc, id.ranFuncId.toNat < m) ∧ id = back := by
  rcases unchecked with rfl | rfl <;>
    simp [decRicId, encRicId, asRicRequestId, asRanFunctionId, bind_eq_ok]

def asXappId : IeValue → Except Fault Nat
  | .xappId v => .ok v
  | _ => .error .present

def asNodeId : IeValue → Except Fault GlobalE2nodeIdChoice
  | .globalE2nodeId v => .ok v
  | _ => .error .present

/-- `copy_cause` of the encoder. -/
def copyCause : Cause → Except Fault CauseChoice
  | .ricRequest v => do
      check (v < 11) .bound
      pure (.ricRequest v)
  | .ricService v => do
      check (v < 3) .bound
      pure (.ricService v)
  | .transport v => do
      check (v < 2) .bound
      pure (.transport v)
  | .protocol v => do
      check (v < 7) .bound
      pure (.protocol v)
  | .misc v => do
      check (v < 4) .bound
      pure (.misc v)
  | .nothing => .error .notImplemented
  | .e2Node _ => .error .notImplemented

/-- The switch that two of the decoders have for a cause. -/
def decCause : CauseChoice → Except Fault Cause
  | .ricRequest v => do
      check (v < 11) .bound
      pure (.ricRequest v)
  | .ricService v => do
      check (v < 3) .bound
      pure (.ricService v)
  | .transport v => do
      check (v < 2) .bound
      pure (.transport v)
  | .protocol v => do
      check (v < 7) .bound
      pure (.protocol v)
  | .misc v => do
      check (v < 4) .bound
      pure (.misc v)
  | .nothing => .error .notImplemented
  | .e2Node _ => .error .notImplemented

/-- `copy_cause` of the decoder, which takes more than the encoder gives. -/
def decCopyCause : CauseChoice → Except Fault Cause
  | .ricRequest v => do
      check (v < 14) .bound
      pure (.ricRequest v)
  | .ricService v => do
      check (v < 3) .bound
      pure (.ricService v)
  | .e2Node v => do
      check (v = 0) .bound
      pure (.e2Node v)
  | .transport v => do
      check (v < 2) .bound
      pure (.transport v)
  | .protocol v => do
      check (v < 7) .bound
      pure (.protocol v)
  | .misc v => do
      check (v < 4) .bound
      pure (.misc v)
  | .nothing => .error .notImplemented

theorem cause_returns (cause : Cause) : Returns copyCause decCause cause cause := by
  intro choice copied
  cases cause <;> simp only [copyCause, bind_eq_ok, check_eq_ok, pure_eq_ok, reduceCtorEq] at copied
  all_goals
    obtain ⟨_, small, rfl⟩ := copied
    rw [decCause, check_pass _ small]
    rfl

theorem copyCause_returns (cause : Cause) : Returns copyCause decCopyCause cause cause := by
  intro choice copied
  cases cause <;> simp only [copyCause, bind_eq_ok, check_eq_ok, pure_eq_ok, reduceCtorEq] at copied
  case ricRequest v =>
    obtain ⟨_, small, rfl⟩ := copied
    have more : v < 14 := by omega
    rw [decCopyCause, check_pass _ more]
    rfl
  all_goals
    obtain ⟨_, small, rfl⟩ := copied
    rw [decCopyCause, check_pass _ small]
    rfl

/-- `copy_ran_function` of the encoder, as an item of a list. -/
def copyRanFunction (src : RanFunction) : Except Fault (Ie RanFunctionItem) := do
  let defn ← copyBaToOstring src.defn
  let oid ← copyBaToOstring src.oid
  pure ⟨.ranFunctionItem, .reject, ⟨src.id.toNat, defn, src.rev.toNat, oid⟩⟩

/-- The loop body that the decoders have for an item. It does not look at the id and
    the criticality. -/
def decRanFunction (ie : Ie RanFunctionItem) : Except Fault RanFunction := do
  check (ie.value.ranFunctionId ≤ maxRanFuncId) .bound
  check (ie.value.ranFunctionRevision ≤ maxRanFuncRev) .bound
  let defn ← copyOstringToBa ie.value.ranFunctionDefinition
  let oid ← copyOstringToBa ie.value.ranFunctionOid
  pure ⟨defn, UInt16.ofNat ie.value.ranFunctionId, UInt16.ofNat ie.value.ranFunctionRevision, oid⟩

/-- The numbers of a RAN function that a decoder takes. -/
def RanFunction.InRange (rf : RanFunction) : Prop :=
  rf.id.toNat ≤ maxRanFuncId ∧ rf.rev.toNat ≤ maxRanFuncRev

theorem ranFunction_returns {rf : RanFunction} (inRange : rf.InRange) :
    Returns copyRanFunction decRanFunction rf rf := by
  intro ie copied
  simp only [copyRanFunction, bind_eq_ok, pure_eq_ok] at copied
  obtain ⟨defn, copiedDefn, oid, copiedOid, rfl⟩ := copied
  simp only [decRanFunction, check_pass _ inRange.1, check_pass _ inRange.2, ok_bind,
    ostring_returns _ _ copiedDefn, ostring_returns _ _ copiedOid, UInt16.ofNat_toNat]
  rfl

theorem copyOstringToBa_eq_ok {src ba : Bytes} :
    copyOstringToBa src = .ok ba ↔ src ≠ [] ∧ src = ba := by
  rw [copyOstringToBa, bind_eq_ok]
  simp

/-- A RAN function that was decoded can be encoded again. -/
theorem copyRanFunction_of_dec {ie : Ie RanFunctionItem} {rf : RanFunction}
    (decoded : decRanFunction ie = .ok rf) :
    rf.InRange ∧ ∃ again, copyRanFunction rf = .ok again := by
  simp only [decRanFunction, bind_eq_ok, check_eq_ok, pure_eq_ok, copyOstringToBa_eq_ok] at decoded
  obtain ⟨_, id, _, rev, defn, ⟨someDefn, rfl⟩, oid, ⟨someOid, rfl⟩, rfl⟩ := decoded
  constructor
  · exact ⟨Nat.le_trans (Nat.mod_le _ _) id, Nat.le_trans (Nat.mod_le _ _) rev⟩
  · exact ⟨_, by rw [copyRanFunction, copyBaToOstring, copyBaToOstring, check_pass _ someDefn,
      check_pass _ someOid]; rfl⟩

/-- `e2ap_enc_node_component_id`. -/
def encNodeComponentId : InterfaceType → NodeCompId → Except Fault ComponentIdChoice
  | .ng, .ng amfName => do
      let amfName ← copyBaToOstring amfName
      pure (.ng amfName)
  | .e1, .e1 gnbCuUpId => .ok (.e1 gnbCuUpId.toNat)
  | .f1, .f1 gnbDuId => .ok (.f1 gnbDuId.toNat)
  | .w1, .w1 ngEnbDuId => .ok (.w1 ngEnbDuId.toNat)
  | .s1, .s1 mmeName => do
      let mmeName ← copyBaToOstring mmeName
      pure (.s1 mmeName)
  | .xn, _ => .error .notImplemented
  | .x2, _ => .error .notImplemented
  | _, _ => .error .otherMember

/-- `e2ap_dec_node_component_id`. -/
def decNodeComponentId (interfaceType : InterfaceType) :
    ComponentIdChoice → Except Fault NodeCompId
  | .ng amfName => do
      check (interfaceType = .ng) .present
      let amfName ← copyOstringToBa amfName
      pure (.ng amfName)
  | .e1 gnbCuCpId => do
      check (interfaceType = .e1) .present
      pure (.e1 (asnInteger2ulong gnbCuCpId))
  | .f1 gnbDuId => do
      check (interfaceType = .f1) .present
      pure (.f1 (asnInteger2ulong gnbDuId))
  | .w1 ngEnbDuId => do
      check (interfaceType = .w1) .present
      pure (.w1 (asnInteger2ulong ngEnbDuId))
  | .s1 mmeName => do
      check (interfaceType = .s1) .present
      let mmeName ← copyOstringToBa mmeName
      pure (.s1 mmeName)
  | .xn => .error .notImplemented
  | .x2 => .error .notImplemented

/-- `e2ap_enc_node_component_conf_addition`. -/
def encNodeComponentConfAddition (src : NodeComponentConfigAdd) :
    Except Fault (Ie ComponentConfigAdditionItem) := do
  let componentId ← encNodeComponentId src.interfaceType src.compId
  let requestPart ← copyBaToOstring src.request
  let responsePart ← copyBaToOstring src.response
  pure ⟨.e2nodeComponentConfigAdditionItem, .reject,
    ⟨src.interfaceType, componentId, requestPart, responsePart⟩⟩

/-- `e2ap_dec_node_component_conf_addition`. -/
def decNodeComponentConfAddition (src : Ie ComponentConfigAdditionItem) :
    Except Fault NodeComponentConfigAdd := do
  let cca ← src.expect .e2nodeComponentConfigAdditionItem (some .reject)
  let compId ← decNodeComponentId cca.interfaceType cca.componentId
  let request ← copyOstringToBa cca.requestPart
  let response ← copyOstringToBa cca.responsePart
  pure ⟨cca.interfaceType, compId, request, response⟩

/-- `e2ap_enc_node_component_conf_addition_ack`. -/
def encNodeComponentConfAdditionAck (src : NodeCompConfigAddAck) :
    Except Fault (Ie ComponentConfigAdditionAckItem) := do
  let componentId ← encNodeComponentId src.interfaceType src.compId
  let failureCause ← src.cause.mapM copyCause
  pure ⟨.e2nodeComponentConfigAdditionAckItem, .reject,
    ⟨src.interfaceType, componentId, src.outcome, failureCause⟩⟩

/-- `e2ap_dec_node_component_conf_addition_ack`. -/
def decNodeComponentConfAdditionAck (src : Ie ComponentConfigAdditionAckItem) :
    Except Fault NodeCompConfigAddAck := do
  let ccaa ← src.expect .e2nodeComponentConfigAdditionAckItem (some .reject)
  let compId ← decNodeComponentId ccaa.interfaceType ccaa.componentId
  let cause ← ccaa.failureCause.mapM decCopyCause
  pure ⟨ccaa.interfaceType, compId, ccaa.updateOutcome, cause⟩

theorem nodeComponentId_returns (interfaceType : InterfaceType) (id : NodeCompId) :
    Returns (encNodeComponentId interfaceType) (decNodeComponentId interfaceType) id id := by
  intro choice encoded
  unfold encNodeComponentId at encoded
  split at encoded
  case h_1 amfName =>
    obtain ⟨os, copied, done⟩ := bind_eq_ok.mp encoded
    cases pure_eq_ok.mp done
    simp [decNodeComponentId, ostring_returns _ _ copied]
  case h_5 mmeName =>
    obtain ⟨os, copied, done⟩ := bind_eq_ok.mp encoded
    cases pure_eq_ok.mp done
    simp [decNodeComponentId, ostring_returns _ _ copied]
  all_goals
    cases encoded
    try simp [decNodeComponentId]

theorem nodeComponentConfAddition_returns (cca : NodeComponentConfigAdd) :
    Returns encNodeComponentConfAddition decNodeComponentConfAddition cca cca := by
  intro ie encoded
  simp only [encNodeComponentConfAddition, bind_eq_ok, pure_eq_ok] at encoded
  obtain ⟨componentId, encodedId, requestPart, copiedRequest, responsePart, copiedResponse, rfl⟩ :=
    encoded
  simp only [decNodeComponentConfAddition, Ie.expect_same, ok_bind,
    nodeComponentId_returns _ _ _ encodedId, ostring_returns _ _ copiedRequest,
    ostring_returns _ _ copiedResponse]
  rfl

theorem encNodeComponentId_of_dec {interfaceType : InterfaceType} {choice : ComponentIdChoice}
    {id : NodeCompId} (decoded : decNodeComponentId interfaceType choice = .ok id) :
    ∃ again, encNodeComponentId interfaceType id = .ok again := by
  unfold decNodeComponentId at decoded
  split at decoded
  case h_1 =>
    simp only [bind_eq_ok, check_eq_ok, pure_eq_ok, copyOstringToBa_eq_ok] at decoded
    obtain ⟨_, rfl, name, ⟨filled, rfl⟩, rfl⟩ := decoded
    exact ⟨_, by rw [encNodeComponentId, copyBaToOstring, check_pass _ filled]; rfl⟩
  case h_5 =>
    simp only [bind_eq_ok, check_eq_ok, pure_eq_ok, copyOstringToBa_eq_ok] at decoded
    obtain ⟨_, rfl, name, ⟨filled, rfl⟩, rfl⟩ := decoded
    exact ⟨_, by rw [encNodeComponentId, copyBaToOstring, check_pass _ filled]; rfl⟩
  case h_6 => cases decoded
  case h_7 => cases decoded
  all_goals
    simp only [bind_eq_ok, check_eq_ok, pure_eq_ok] at decoded
    obtain ⟨_, rfl, rfl⟩ := decoded
    exact ⟨_, rfl⟩

/-- A component that was decoded can be encoded again. -/
theorem encNodeComponentConfAddition_of_dec {ie : Ie ComponentConfigAdditionItem}
    {cca : NodeComponentConfigAdd} (decoded : decNodeComponentConfAddition ie = .ok cca) :
    ∃ again, encNodeComponentConfAddition cca = .ok again := by
  simp only [decNodeComponentConfAddition, bind_eq_ok, pure_eq_ok, copyOstringToBa_eq_ok] at decoded
  obtain ⟨item, -, compId, decodedId, _, ⟨request, rfl⟩, _, ⟨response, rfl⟩, rfl⟩ := decoded
  obtain ⟨again, encoded⟩ := encNodeComponentId_of_dec decodedId
  exact ⟨_, by rw [encNodeComponentConfAddition, encoded, ok_bind, copyBaToOstring, copyBaToOstring,
    check_pass _ request, check_pass _ response]; rfl⟩

theorem nodeComponentConfAdditionAck_returns (ccaa : NodeCompConfigAddAck) :
    Returns encNodeComponentConfAdditionAck decNodeComponentConfAdditionAck ccaa ccaa := by
  intro ie encoded
  simp only [encNodeComponentConfAdditionAck, bind_eq_ok, pure_eq_ok] at encoded
  obtain ⟨componentId, encodedId, failureCause, copied, rfl⟩ := encoded
  have cause := optional_back copied fun cause _ => copyCause_returns cause
  rw [Option.map_id'] at cause
  simp only [decNodeComponentConfAdditionAck, Ie.expect_same, ok_bind,
    nodeComponentId_returns _ _ _ encodedId, cause]
  rfl

end FlexRic.Asn
