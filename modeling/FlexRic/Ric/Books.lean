import FlexRic.Ric.Steps

/-! # The books of the nodes

A node is entered in three books, by three sections of a task: the endpoint's
address map, the iApp's registry and the list of connected nodes. A shutdown
notification strikes it out of the first, the third and the second. The
invariant counts, for every node, how often it is in each book against how many
setups and shutdowns are under way.
-/

namespace FlexRic

open Assertion

namespace Ric

variable {plugin : List UInt16} {s s' : Ric} {h : List (Entry Ric RicEvent (List Sent))}

/-- How often the endpoint's map holds the node. -/
def inEndpoint (s : Ric) (id : GlobalE2NodeId) : Nat :=
  s.ric.e2Nodes.pairs.countP fun p => eqGlobalE2NodeId p.1 id

/-- How often the registry holds it. -/
def inRegistry (s : Ric) (id : GlobalE2NodeId) : Nat :=
  s.iapp.e2Nodes.toList.countP fun p => eqGlobalE2NodeId p.1 id

/-- How often the list of connected nodes holds it. -/
def inConnected (s : Ric) (id : GlobalE2NodeId) : Nat :=
  s.ric.connE2Nodes.countP fun n => eqGlobalE2NodeId n.id id

/-- This task goes on by registering the node. -/
def registers (id : GlobalE2NodeId) : Task → Bool
  | .addE2Node req _ => eqGlobalE2NodeId req.id id
  | _ => false

/-- This task goes on by connecting the node. -/
def connects (id : GlobalE2NodeId) : Task → Bool
  | .connectE2Node req _ => eqGlobalE2NodeId req.id id
  | _ => false

/-- Setups of the node that are in the endpoint's map only. -/
def registering (s : Ric) (id : GlobalE2NodeId) : Nat := s.tasks.countP (registers id)

/-- Setups of the node that are in the registry too. -/
def connecting (s : Ric) (id : GlobalE2NodeId) : Nat := s.tasks.countP (connects id)

/-- The shutdown under way is the node's, which is still in the list. -/
def disconnecting (s : Ric) (id : GlobalE2NodeId) : Nat :=
  match s.leaving with
  | some (.disconnect id') => (eqGlobalE2NodeId id' id).toNat
  | _ => 0

/-- The shutdown under way is the node's, which is only in the registry. -/
def unregistering (s : Ric) (id : GlobalE2NodeId) : Nat :=
  match s.leaving with
  | some (.unregister id') => (eqGlobalE2NodeId id' id).toNat
  | _ => 0

/-- The endpoint holds no node and no address twice. -/
def EndpointOnce (s : Ric) : Prop :=
  s.ric.e2Nodes.pairs.Pairwise fun p q => ¬eqGlobalE2NodeId p.1 q.1 ∧ ¬eqSctpInfo p.2 q.2

/-- The books balance, and neither the endpoint nor the registry holds a node twice. -/
structure Balanced (s : Ric) : Prop where
  inverse : s.ric.e2Nodes.Inverse
  once : EndpointOnce s
  entered : ∀ id, s.inEndpoint id + s.disconnecting id =
    s.registering id + s.connecting id + s.inConnected id
  registered : ∀ id, s.inRegistry id =
    s.connecting id + s.inConnected id + s.unregistering id
  registryOnce : ∀ id, s.inRegistry id ≤ 1

/-- The condition on a task's next section. -/
def TaskOrderly (s : Ric) : Task → Prop
  | .regSockAddr req info =>
      ∀ p ∈ s.ric.e2Nodes.pairs, ¬eqGlobalE2NodeId req.id p.1 ∧ ¬eqSctpInfo info p.2
  | .addE2Node req _ => 0 < req.ranFuncItem.length ∧ 0 < req.compConfAdd.length ∧
      (∀ c ∈ req.compConfAdd, c.Copied) ∧ ∀ p ∈ s.iapp.e2Nodes.toList, ¬eqGlobalE2NodeId p.1 req.id
  | .connectE2Node req _ => req.ranFuncItem ⊆ s.ric.plugin ∧
      (0 < req.compConfAdd.length ∧ req.compConfAdd.length < 1025) ∧
      ∀ c ∈ req.compConfAdd, c.Copied
  | _ => True

instance (s : Ric) : (t : Task) → Decidable (TaskOrderly s t)
  | .regSockAddr _ _ => inferInstanceAs (Decidable (∀ p ∈ _, _))
  | .addE2Node _ _ => inferInstanceAs (Decidable (_ ∧ _ ∧ (∀ c ∈ _, _) ∧ ∀ p ∈ _, _))
  | .connectE2Node _ _ => inferInstanceAs (Decidable (_ ∧ _ ∧ ∀ c ∈ _, _))
  | .handle _ | .lookUp _ | .forward _ _ | .remove _ => .isTrue trivial

/-- The condition on the next section of a shutdown. -/
def LeavingOrderly (s : Ric) : Leaving → Prop
  | .disconnect id => ∃ n ∈ s.ric.connE2Nodes, eqGlobalE2NodeId n.id id
  | .unregister _ => True

instance (s : Ric) : (l : Leaving) → Decidable (LeavingOrderly s l)
  | .disconnect _ => inferInstanceAs (Decidable (∃ n ∈ _, _))
  | .unregister _ => .isTrue trivial

/-- The condition on the events of a run: no node sets up that is still on the
    books, and none leaves before it is. -/
def Orderly (s : Ric) : RicEvent → Prop
  | .runTask i => ∀ t ∈ s.tasks[i]?, TaskOrderly s t
  | .nodeShutdown info => ∃ p ∈ s.ric.e2Nodes.pairs, eqSctpInfo info p.2
  | .resumeShutdown => ∀ l ∈ s.leaving, LeavingOrderly s l
  | _ => True

instance (s : Ric) : (e : RicEvent) → Decidable (Orderly s e)
  | .runTask _ => inferInstanceAs (Decidable (∀ t ∈ _, _))
  | .nodeShutdown _ => inferInstanceAs (Decidable (∃ p ∈ _, _))
  | .resumeShutdown => inferInstanceAs (Decidable (∀ l ∈ _, _))
  | .setupRequest .. | .ricMsg .. | .timerFires .. | .e42Setup .. | .e42Subscription ..
  | .e42Control .. | .e42Delete .. | .xappShutdown .. | .forwardDelete .. => .isTrue trivial

theorem eqGlobalE2NodeId_congr {m0 m1 : GlobalE2NodeId} (same : eqGlobalE2NodeId m0 m1)
    (id : GlobalE2NodeId) : eqGlobalE2NodeId m0 id = eqGlobalE2NodeId m1 id :=
  Bool.eq_iff_iff.mpr ⟨eqGlobalE2NodeId_trans (eqGlobalE2NodeId_symm same),
    eqGlobalE2NodeId_trans same⟩

/-- A book without the node has none of the nodes equal to it. -/
theorem countP_absent {α : Type} {l : List α} (key : α → GlobalE2NodeId)
    {id id' : GlobalE2NodeId} (absent : ∀ a ∈ l, ¬eqGlobalE2NodeId (key a) id)
    (same : eqGlobalE2NodeId id id') :
    l.countP (fun a => eqGlobalE2NodeId (key a) id') = 0 :=
  List.countP_eq_zero.mpr fun a mem there =>
    absent a mem (eqGlobalE2NodeId_trans there (eqGlobalE2NodeId_symm same))

/-- The list gives up one node that is equal to the one that leaves. -/
theorem countP_disconnect {nodes : List E2Node} {id : GlobalE2NodeId}
    (known : ∃ n ∈ nodes, eqGlobalE2NodeId n.id id) (id' : GlobalE2NodeId) :
    nodes.countP (fun n => eqGlobalE2NodeId n.id id') =
      (nodes.eraseP fun n => eqGlobalE2NodeId n.id id).countP
        (fun n => eqGlobalE2NodeId n.id id') + (eqGlobalE2NodeId id id').toNat := by
  obtain ⟨n, mem, same⟩ := known
  obtain ⟨gone, l₁, l₂, -, same', cut, rest⟩ :=
    List.exists_of_eraseP (p := fun n => eqGlobalE2NodeId n.id id) mem same
  rw [rest, cut, ← eqGlobalE2NodeId_congr same' id']
  exact countP_of_perm List.perm_middle _

theorem Balanced.bijective (inv : Balanced s) : s.ric.e2Nodes.Bijective where
  inverse := inv.inverse
  left := inv.once.imp fun apart ties => apart.1 (eqGlobalE2NodeId_of_ties ties)
  right := inv.once.imp fun apart ties => apart.2 (eqSctpInfo_iff.mpr ties)

theorem apart_symm {p q : GlobalE2NodeId × SctpInfo}
    (apart : ¬eqGlobalE2NodeId p.1 q.1 ∧ ¬eqSctpInfo p.2 q.2) :
    ¬eqGlobalE2NodeId q.1 p.1 ∧ ¬eqSctpInfo q.2 p.2 :=
  ⟨fun same => apart.1 (eqGlobalE2NodeId_symm same),
    fun same => apart.2 (eqSctpInfo_iff.mpr (eqSctpInfo_iff.mp same).symm)⟩

/-- Entering a node and its address into the endpoint keeps them apart if and
    only if neither was there. -/
theorem once_regSockAddr {req : E2SetupRequest} {info : SctpInfo} (once : EndpointOnce s)
    (tasks : List Task) :
    EndpointOnce { s with
      ric := { s.ric with e2Nodes := s.ric.e2Nodes.insert req.id info }, tasks := tasks } ↔
    TaskOrderly s (.regSockAddr req info) := by
  unfold EndpointOnce
  rw [(BiMap.pairs_insert s.ric.e2Nodes req.id info).pairwise_iff apart_symm, List.pairwise_cons]
  exact ⟨fun both => both.1, fun fresh => ⟨fresh, once⟩⟩

/-- A step that leaves the books and the setups and shutdowns under way alone. -/
theorem Balanced.of_same (inv : Balanced s) (endpoint : s'.ric.e2Nodes = s.ric.e2Nodes)
    (registry : s'.iapp.e2Nodes = s.iapp.e2Nodes)
    (connected : s'.ric.connE2Nodes = s.ric.connE2Nodes) (leaving : s'.leaving = s.leaving)
    (registers_same : ∀ id, s'.registering id = s.registering id)
    (connects_same : ∀ id, s'.connecting id = s.connecting id) : Balanced s' where
  inverse := endpoint ▸ inv.inverse
  once := by
    have := inv.once
    simpa only [EndpointOnce, endpoint] using this
  entered id := by
    have := inv.entered id
    simp only [inEndpoint, disconnecting, inConnected, endpoint, connected, leaving,
      registers_same, connects_same] at this ⊢
    exact this
  registered id := by
    have := inv.registered id
    simp only [inRegistry, unregistering, inConnected, registry, connected, leaving,
      connects_same] at this ⊢
    exact this
  registryOnce id := by
    have := inv.registryOnce id
    simpa only [inRegistry, registry] using this

/-- A task that is not setting up a node and does not start to. -/
theorem Balanced.of_otherTask (inv : Balanced s) {i : Nat} {t : Task} {rest : Option Task}
    (task : s.tasks[i]? = some t) (endpoint : s'.ric.e2Nodes = s.ric.e2Nodes)
    (registry : s'.iapp.e2Nodes = s.iapp.e2Nodes)
    (connected : s'.ric.connE2Nodes = s.ric.connE2Nodes) (leaving : s'.leaving = s.leaving)
    (tasks : s'.tasks = advance s.tasks i rest)
    (other : ∀ id, registers id t = false ∧ connects id t = false)
    (still : ∀ t' ∈ rest, ∀ id, registers id t' = false ∧ connects id t' = false) :
    Balanced s' := by
  have unchanged (p : Task → Bool) (no : p t = false) (no' : ∀ t' ∈ rest, p t' = false) :
      s'.tasks.countP p = s.tasks.countP p := by
    have counts := countP_advance task rest p
    rw [tasks]
    cases rest with
    | none => simpa [no] using counts
    | some t' => simpa [no, no' t' rfl] using counts
  exact inv.of_same endpoint registry connected leaving
    (fun id => unchanged _ (other id).1 fun t' mem => (still t' mem id).1)
    (fun id => unchanged _ (other id).2 fun t' mem => (still t' mem id).2)

/-- A message that is handed to a new task. -/
theorem Balanced.of_newTask (inv : Balanced s) {t : Task}
    (other : ∀ id, registers id t = false ∧ connects id t = false) :
    Balanced { s with tasks := s.tasks ++ [t] } :=
  inv.of_same rfl rfl rfl rfl (fun id => by simp [registering, (other id).1])
    (fun id => by simp [connecting, (other id).2])

variable {req : E2SetupRequest} {info : SctpInfo} {i : Nat} {id : GlobalE2NodeId}

/-- A setup task moves from one count to the next, section by section. -/
theorem counts_regSockAddr (task : s.tasks[i]? = some (.regSockAddr req info))
    (id : GlobalE2NodeId) :
    let tasks := advance s.tasks i (some (.addE2Node req info))
    tasks.countP (registers id) = s.registering id + (eqGlobalE2NodeId req.id id).toNat ∧
      tasks.countP (connects id) = s.connecting id := by
  have registering := countP_advance task (some (.addE2Node req info)) (registers id)
  have connecting := countP_advance task (some (.addE2Node req info)) (connects id)
  exact ⟨registering, connecting⟩

theorem counts_addE2Node (task : s.tasks[i]? = some (.addE2Node req info))
    (id : GlobalE2NodeId) :
    let tasks := advance s.tasks i (some (.connectE2Node req info))
    tasks.countP (registers id) + (eqGlobalE2NodeId req.id id).toNat =
        s.registering id ∧
      tasks.countP (connects id) =
        s.connecting id + (eqGlobalE2NodeId req.id id).toNat := by
  have registering := countP_advance task (some (.connectE2Node req info)) (registers id)
  have connecting := countP_advance task (some (.connectE2Node req info)) (connects id)
  exact ⟨registering, connecting⟩

theorem counts_connectE2Node (task : s.tasks[i]? = some (.connectE2Node req info))
    (id : GlobalE2NodeId) :
    let tasks := advance s.tasks i none
    tasks.countP (registers id) = s.registering id ∧
      tasks.countP (connects id) + (eqGlobalE2NodeId req.id id).toNat =
        s.connecting id := by
  have registering := countP_advance task none (registers id)
  have connecting := countP_advance task none (connects id)
  exact ⟨registering, connecting⟩

theorem Balanced.regSockAddr (inv : Balanced s)
    (task : s.tasks[i]? = some (.regSockAddr req info))
    (orderly : TaskOrderly s (.regSockAddr req info)) :
    Balanced { s with
      ric := { s.ric with e2Nodes := s.ric.e2Nodes.insert req.id info }
      tasks := advance s.tasks i (some (.addE2Node req info)) } where
  inverse := inv.inverse.insert req.id info
  once := (once_regSockAddr inv.once _).mpr orderly
  entered id := by
    have before := inv.entered id
    obtain ⟨registering, connecting⟩ := counts_regSockAddr task id
    have entry := countP_of_perm (BiMap.pairs_insert s.ric.e2Nodes req.id info)
      fun p => eqGlobalE2NodeId p.1 id
    simp only [inEndpoint, disconnecting, Ric.registering, Ric.connecting, inConnected] at *
    omega
  registered id := by
    have before := inv.registered id
    obtain ⟨-, connecting⟩ := counts_regSockAddr task id
    simp only [inRegistry, Ric.connecting, inConnected, unregistering] at *
    omega
  registryOnce := inv.registryOnce

theorem addRegE2Node_ok {reg reg' : RegE2Nodes} {ranFunc : List UInt16} {cca : List NodeCompId}
    (added : addRegE2Node reg id ranFunc cca = .ok reg') :
    reg' = reg.insert id { ranFunc := ranFunc, compConfAdd := cca } := by
  simp only [addRegE2Node, bind_eq_ok, check_eq_ok, mapM_checked cpE2apNodeCompId_eq_ok,
    pure_eq_ok] at added
  obtain ⟨_, -, _, -, _, ⟨-, rfl⟩, _, -, rfl⟩ := added
  rfl

theorem addRegE2Node_iff :
    (∃ reg, addRegE2Node s.iapp.e2Nodes req.id req.ranFuncItem req.compConfAdd = .ok reg) ↔
      TaskOrderly s (.addE2Node req info) := by
  simp only [addRegE2Node, bind_eq_ok, check_eq_ok, mapM_checked cpE2apNodeCompId_eq_ok, pure_eq_ok,
    TaskOrderly]
  constructor
  · rintro ⟨_, _, funcs, _, conf, _, ⟨copied, -⟩, _, absent, -⟩
    refine ⟨funcs, conf, copied, ?_⟩
    intro p mem
    have stored : 0 < s.iapp.e2Nodes.size := by
      rw [AssocRbTree.size_eq]
      exact List.length_pos_of_mem mem
    exact AssocRbTree.findIf_none.mp (absent stored) p mem
  · intro orderly
    obtain ⟨funcs, conf, copied, absent⟩ := orderly
    exact ⟨_, (), funcs, (), conf, _, ⟨copied, rfl⟩, (),
      fun _ => AssocRbTree.findIf_none.mpr absent, rfl⟩

theorem Balanced.addE2Node {reg : RegE2Nodes} (inv : Balanced s)
    (task : s.tasks[i]? = some (.addE2Node req info))
    (orderly : TaskOrderly s (.addE2Node req info))
    (added : addRegE2Node s.iapp.e2Nodes req.id req.ranFuncItem req.compConfAdd = .ok reg) :
    Balanced { s with
      iapp := { s.iapp with e2Nodes := reg }
      tasks := advance s.tasks i (some (.connectE2Node req info)) } := by
  cases addRegE2Node_ok added
  have entry (id : GlobalE2NodeId) := countP_of_perm
    (s.iapp.e2Nodes.insert_perm req.id ⟨req.ranFuncItem, req.compConfAdd⟩)
    fun p => eqGlobalE2NodeId p.1 id
  refine ⟨inv.inverse, inv.once, ?_, ?_, ?_⟩
  · intro id
    have before := inv.entered id
    obtain ⟨registering, connecting⟩ := counts_addE2Node task id
    simp only [inEndpoint, disconnecting, Ric.registering, Ric.connecting, inConnected] at *
    omega
  · intro id
    have before := inv.registered id
    obtain ⟨-, connecting⟩ := counts_addE2Node task id
    specialize entry id
    simp only [inRegistry, Ric.connecting, inConnected, unregistering] at *
    omega
  · intro id
    have before := inv.registryOnce id
    specialize entry id
    simp only [inRegistry] at *
    cases same : eqGlobalE2NodeId req.id id with
    | true =>
        have absent := countP_absent Prod.fst orderly.2.2.2 same
        rw [entry, absent, same]
        exact Nat.le_refl 1
    | false =>
        rw [entry, same]
        exact before

theorem Balanced.connectE2Node {accepted : List UInt16} (inv : Balanced s)
    (task : s.tasks[i]? = some (.connectE2Node req info)) :
    Balanced { s with
      ric := { s.ric with connE2Nodes := s.ric.connE2Nodes ++ [⟨req.id, accepted⟩] }
      tasks := advance s.tasks i none } where
  inverse := inv.inverse
  once := inv.once
  entered id := by
    have before := inv.entered id
    obtain ⟨registering, connecting⟩ := counts_connectE2Node task id
    have entry := countP_of_perm (List.perm_append_singleton (⟨req.id, accepted⟩ : E2Node)
      s.ric.connE2Nodes) fun n => eqGlobalE2NodeId n.id id
    simp only [inEndpoint, disconnecting, Ric.registering, Ric.connecting, inConnected] at *
    omega
  registered id := by
    have before := inv.registered id
    obtain ⟨-, connecting⟩ := counts_connectE2Node task id
    have entry := countP_of_perm (List.perm_append_singleton (⟨req.id, accepted⟩ : E2Node)
      s.ric.connE2Nodes) fun n => eqGlobalE2NodeId n.id id
    simp only [inRegistry, Ric.connecting, inConnected, unregistering] at *
    omega
  registryOnce := inv.registryOnce

theorem Balanced.nodeShutdown {e2Nodes : MapE2NodeSad} (inv : Balanced s)
    (idle : s.leaving = none) (removed : rmMapSadE2Node s.ric.e2Nodes info = .ok (id, e2Nodes)) :
    Balanced { s with
      ric := { s.ric with e2Nodes := e2Nodes }, leaving := some (.disconnect id) } := by
  obtain ⟨b, -, perm, inverse⟩ :=
    BiMap.extractRight_ok inv.inverse inv.bijective.left removed
  refine ⟨inverse, ?_, ?_, ?_, inv.registryOnce⟩
  · exact (List.pairwise_cons.mp ((perm.pairwise_iff apart_symm).mp inv.once)).2
  · intro id'
    have before := inv.entered id'
    have entry := countP_of_perm perm fun p => eqGlobalE2NodeId p.1 id'
    simp only [inEndpoint, disconnecting, Ric.registering, Ric.connecting, inConnected, idle] at *
    omega
  · intro id'
    have before := inv.registered id'
    simp only [inRegistry, Ric.connecting, inConnected, unregistering, idle] at *
    exact before

theorem Balanced.disconnect (inv : Balanced s) (leaving : s.leaving = some (.disconnect id))
    (known : ∃ n ∈ s.ric.connE2Nodes, eqGlobalE2NodeId n.id id) :
    Balanced { s with
      ric := { s.ric with
        connE2Nodes := s.ric.connE2Nodes.eraseP fun n => eqGlobalE2NodeId n.id id }
      leaving := some (.unregister id) } where
  inverse := inv.inverse
  once := inv.once
  entered id' := by
    have before := inv.entered id'
    have gone := countP_disconnect known id'
    simp only [inEndpoint, disconnecting, Ric.registering, Ric.connecting, inConnected,
      leaving] at *
    omega
  registered id' := by
    have before := inv.registered id'
    have gone := countP_disconnect known id'
    simp only [inRegistry, Ric.connecting, inConnected, unregistering, leaving] at *
    omega
  registryOnce := inv.registryOnce

theorem Balanced.unregister {reg : RegE2Nodes} (inv : Balanced s)
    (leaving : s.leaving = some (.unregister id))
    (removed : rmRegE2Node s.iapp.e2Nodes id = .ok reg) :
    Balanced { s with iapp := { s.iapp with e2Nodes := reg }, leaving := none } := by
  unfold rmRegE2Node at removed
  split at removed
  · cases removed
  · rename_i freed
    cases removed
    obtain ⟨e, same, perm⟩ := AssocRbTree.freeIf_some freed
    have entry (id' : GlobalE2NodeId) := countP_of_perm perm fun p => eqGlobalE2NodeId p.1 id'
    refine ⟨inv.inverse, inv.once, ?_, ?_, ?_⟩
    · intro id'
      have before := inv.entered id'
      simp only [inEndpoint, disconnecting, Ric.registering, Ric.connecting, inConnected,
        leaving] at *
      exact before
    · intro id'
      have before := inv.registered id'
      specialize entry id'
      rw [eqGlobalE2NodeId_congr same] at entry
      simp only [inRegistry, Ric.connecting, inConnected, unregistering, leaving] at *
      omega
    · intro id'
      have before := inv.registryOnce id'
      specialize entry id'
      simp only [inRegistry] at *
      omega

theorem balanced_init : Balanced (initRic plugin) where
  inverse := BiMap.inverse_init
  once := List.Pairwise.nil
  entered _ := rfl
  registered _ := rfl
  registryOnce _ := Nat.zero_le 1

theorem balanced_step {e : RicEvent} {out : List Sent} (inv : Balanced s) (enabled : s.Enabled e)
    (orderly : Orderly s e) (step : Step s e s' out) : Balanced s' := by
  cases step with
  | setupRequest | ricMsg => exact inv.of_newTask fun _ => ⟨rfl, rfl⟩
  | regSockAddr task => exact inv.regSockAddr task (orderly _ task)
  | addE2Node task added => exact inv.addE2Node task (orderly _ task) added
  | connectE2Node task answered => exact inv.connectE2Node task
  | handle task handled =>
      obtain ⟨_, _, rfl⟩ := e2apMsgHandleRic_frame handled
      exact inv.of_otherTask task rfl rfl rfl rfl rfl (fun _ => ⟨rfl, rfl⟩)
        (by rintro _ ⟨⟩ _; exact ⟨rfl, rfl⟩)
  | @lookUp _ _ x task found =>
      refine inv.of_otherTask task rfl rfl rfl rfl rfl (fun _ => ⟨rfl, rfl⟩) ?_
      intro t mem _
      obtain ⟨_, _, rfl⟩ := Option.map_eq_some_iff.mp mem
      exact ⟨rfl, rfl⟩
  | forward task found =>
      refine inv.of_otherTask task rfl rfl rfl rfl rfl (fun _ => ⟨rfl, rfl⟩) ?_
      intro t mem _
      split at mem
      · cases mem
        exact ⟨rfl, rfl⟩
      · cases mem
  | remove task removed =>
      exact inv.of_otherTask task rfl rfl rfl rfl rfl (fun _ => ⟨rfl, rfl⟩) (by rintro _ ⟨⟩)
  | nodeShutdown removed => exact inv.nodeShutdown enabled removed
  | disconnect leaving removed =>
      obtain ⟨known, rfl⟩ := disconnectE2Node_ok removed
      exact inv.disconnect leaving known
  | unregister leaving removed => exact inv.unregister leaving removed
  | e42Subscription done | e42Control done =>
      cases done
      exact inv.of_same rfl rfl rfl rfl (fun _ => rfl) (fun _ => rfl)
  | forwardDelete next forwarded =>
      rcases fwdRicSubscriptionRequestDelete_ok forwarded with ⟨rfl, -⟩ | ⟨rfl, -⟩
      · exact inv.of_same rfl rfl rfl rfl (fun _ => rfl) (fun _ => rfl)
      · exact inv.of_same rfl rfl rfl rfl (fun _ => rfl) (fun _ => rfl)
  | _ => exact inv.of_same rfl rfl rfl rfl (fun _ => rfl) (fun _ => rfl)

theorem balanced_run (run : (machine plugin).Run s h) (orderly : Machine.Meets Orderly h) :
    Balanced s :=
  run.invariant_of_meets (C := Orderly) balanced_init
    (fun inv enabled orderly moved => balanced_step inv enabled orderly (step_cases enabled moved))
    orderly

end Ric

end FlexRic
