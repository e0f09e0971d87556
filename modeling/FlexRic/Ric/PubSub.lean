import FlexRic.Ric.NearRic
import Mathlib.Data.List.Induction
import Mathlib.Data.List.Nodup

/-! # Publishing indications

Listeners inside the near-RIC register for a RAN function. `pub_sub` maps each
RAN function with a listener to the array of its listeners, in the order in
which they came, and is itself in increasing order of the RAN functions.

`publish_ind_msg` finds the entry of the indication's RAN function, but then
calls the listeners of the first entry.
-/

namespace FlexRic

open Assertion

def cmpRanFuncId : Comparator UInt16 := .ascending UInt16.toNat

@[simp] theorem cmpRanFuncId_ties {a b : UInt16} : cmpRanFuncId.Ties a b ↔ a = b := by
  simp [cmpRanFuncId, UInt16.toNat_inj]

/-- `subs_ric_t`. The callback is of any type, since it is only called. -/
structure SubsRic (φ : Type) where
  name : String
  fp : φ
  deriving DecidableEq

abbrev PubSub (φ : Type) := AssocRbTree cmpRanFuncId (List (SubsRic φ))

namespace PubSub

variable {φ δ π : Type}

def registerListenersForRanFuncId (pubSub : PubSub φ) (ranFuncId : UInt16) (subs : SubsRic φ) :
    PubSub φ :=
  match pubSub.modifyIf (· = ranFuncId) (· ++ [subs]) with
  | none => pubSub.insert ranFuncId [subs]
  | some pubSub => pubSub

/-- `load_default_pub_sub_ric`, for the RAN functions of the loaded service models. -/
def loadDefaultPubSubRic (plugin : List UInt16) (stdout redis influx : φ) (pubSub : PubSub φ) :
    PubSub φ :=
  plugin.foldl (fun pubSub ranFuncId =>
    let pubSub := pubSub.registerListenersForRanFuncId ranFuncId ⟨"stdout listener", stdout⟩
    let pubSub := pubSub.registerListenersForRanFuncId ranFuncId ⟨"redis listener", redis⟩
    pubSub.registerListenersForRanFuncId ranFuncId ⟨"influx listener", influx⟩) pubSub

/-- `publish_ind_msg`: the listeners that it calls, with what each one gets. -/
def publishIndMsg (pubSub : PubSub φ) (ranFuncId : UInt16) (d : δ) :
    Checked (List (SubsRic φ × δ)) :=
  match pubSub.findIf (· = ranFuncId), pubSub.front with
  -- The array is that of `start_it`, not of the entry that was found.
  | some _, some (_, arr) => pure (arr.map fun sub => (sub, d))
  | _, _ => .error ranFuncNotPublished

/-- The types that the handler lets pass. -/
def ricIndTypes : List SmAgIfRdIndE :=
  [.macStatsV0, .rlcStatsV0, .pdcpStatsV0, .sliceStatsV0, .kpmStatsV3_0, .ranCtrlStatsV1_03,
    .gtpStatsV0, .tcStatsV0]

/-- `e2ap_handle_indication_ric`, with the calls of the listeners. -/
def e2apHandleIndicationRic (onIndication : UInt16 → List UInt8 → SmAgIfRdInd π) (ric : NearRic)
    (pubSub : PubSub φ) (ind : RicIndication) :
    Checked (List (SubsRic φ × SmAgIfRdInd π) × RicMsg) := do
  let ranFuncId := ind.ricId.ranFuncId
  smPluginRic ric ranFuncId
  let d := onIndication ranFuncId ind.bytes
  check (d.type ∈ ricIndTypes) indicationType
  let called ← pubSub.publishIndMsg ranFuncId d
  -- `notify_msg_iapp_api`
  pure (called, .indication ind.ricId)

/-- The listeners registered for a RAN function, in order. -/
def listenersFor (regs : List (UInt16 × SubsRic φ)) (ranFuncId : UInt16) : List (SubsRic φ) :=
  (regs.filter (fun r => r.1 = ranFuncId)).map Prod.snd

/-- The map after these registrations. -/
def registered (regs : List (UInt16 × SubsRic φ)) : PubSub φ :=
  regs.foldl (fun pubSub r => pubSub.registerListenersForRanFuncId r.1 r.2) .init

/-- The map holds, for each RAN function with listeners, these and nothing else. -/
structure Files (pubSub : PubSub φ) (regs : List (UInt16 × SubsRic φ)) : Prop where
  distinct : (pubSub.toList.map Prod.fst).Nodup
  exact_ : ∀ f arr, (f, arr) ∈ pubSub.toList ↔ arr = listenersFor regs f ∧ arr ≠ []

variable {pubSub : PubSub φ} {regs : List (UInt16 × SubsRic φ)} {f g : UInt16} {sub : SubsRic φ}

theorem listenersFor_append (regs : List (UInt16 × SubsRic φ)) (f g : UInt16) (sub : SubsRic φ) :
    listenersFor (regs ++ [(g, sub)]) f = listenersFor regs f ++ if g = f then [sub] else [] := by
  simp only [listenersFor, List.filter_append, List.map_append, List.filter_singleton]
  split <;> simp_all

theorem listenersFor_ne_nil : listenersFor regs f ≠ [] ↔ f ∈ regs.map Prod.fst := by
  simp [listenersFor, List.filter_eq_nil_iff]

theorem Files.unregistered (files : Files pubSub regs) (missed : ∀ e ∈ pubSub.toList, e.1 ≠ f) :
    listenersFor regs f = [] := by
  by_contra some
  exact missed _ ((files.exact_ f _).mpr ⟨rfl, some⟩) rfl

theorem Files.insert (files : Files pubSub regs) (missed : ∀ e ∈ pubSub.toList, e.1 ≠ g) :
    Files (AssocRbTree.insert pubSub g [sub]) (regs ++ [(g, sub)]) where
  distinct := by
    rw [((pubSub.insert_perm g [sub]).map Prod.fst).nodup_iff]
    simpa [files.distinct] using fun arr mem => missed (g, arr) mem rfl
  exact_ f arr := by
    rw [(pubSub.insert_perm g [sub]).mem_iff, List.mem_cons, files.exact_, listenersFor_append]
    by_cases same : g = f
    · subst same
      rw [files.unregistered missed]
      simp_all
    · simp [same, Ne.symm same]

theorem Files.append {pubSub' : PubSub φ} {arr : List (SubsRic φ)} {l r : List _}
    (files : Files pubSub regs) (listed : pubSub.toList = l ++ (g, arr) :: r)
    (written : pubSub'.toList = l ++ (g, arr ++ [sub]) :: r) :
    Files pubSub' (regs ++ [(g, sub)]) where
  distinct := by
    have distinct := files.distinct
    rw [listed] at distinct
    rw [written]
    simpa using distinct
  exact_ f arr' := by
    have here := (files.exact_ g arr).mp (by simp [listed])
    have others : ∀ e ∈ l ++ r, e.1 ≠ g := by
      have distinct := files.distinct
      rw [listed, List.map_append, List.map_cons, List.nodup_middle, List.nodup_cons] at distinct
      intro e mem same
      exact distinct.1 (by simpa [← same] using List.mem_map_of_mem (f := Prod.fst) mem)
    have before := files.exact_ f arr'
    rw [listed] at before
    rw [written, listenersFor_append]
    simp only [List.mem_append, List.mem_cons, Prod.mk.injEq] at before others ⊢
    by_cases same : g = f
    · subst same
      simp only [if_true, ← here.1]
      constructor
      · rintro (mem | ⟨-, rfl⟩ | mem)
        · exact absurd rfl (others _ (.inl mem))
        · simp
        · exact absurd rfl (others _ (.inr mem))
      · intro is
        exact .inr (.inl ⟨trivial, is.1⟩)
    · simpa [same, Ne.symm same] using before

theorem files_register (files : Files pubSub regs) (g : UInt16) (sub : SubsRic φ) :
    Files (pubSub.registerListenersForRanFuncId g sub) (regs ++ [(g, sub)]) := by
  unfold registerListenersForRanFuncId
  split
  · rename_i missed
    have missed := AssocRbTree.modifyIf_none.mp missed
    exact files.insert (by simpa using missed)
  · rename_i pubSub' written
    obtain ⟨l, k, arr, r, here, listed, listed'⟩ := AssocRbTree.modifyIf_some written
    obtain rfl : k = g := by simpa using here
    exact files.append listed listed'

theorem files_registered (regs : List (UInt16 × SubsRic φ)) : Files (registered regs) regs := by
  induction regs using List.reverseRecOn with
  | nil => exact ⟨List.nodup_nil, by simp [registered, listenersFor]⟩
  | append_singleton regs r ih =>
      rw [registered, List.foldl_append]
      exact files_register ih r.1 r.2

/-- Each listener of the RAN function is called once with the message, and no
    other listener is called. -/
def Published (pubSub : PubSub φ) (regs : List (UInt16 × SubsRic φ)) (f : UInt16) (d : δ) : Prop :=
  ∃ called, pubSub.publishIndMsg f d = .ok called ∧
    called.Perm ((listenersFor regs f).map fun sub => (sub, d))

/-- The condition on the registrations: the RAN function has a listener, and the
    first one that has any has the same. -/
def FirstAlike (regs : List (UInt16 × SubsRic φ)) (f : UInt16) : Prop :=
  f ∈ regs.map Prod.fst ∧ ∀ g ∈ regs.map Prod.fst, (∀ g' ∈ regs.map Prod.fst, g ≤ g') →
    (listenersFor regs g).Perm (listenersFor regs f)

/-- The first entry is that of the least RAN function with a listener. -/
theorem Files.front (files : Files pubSub regs) (mem : f ∈ regs.map Prod.fst) :
    ∃ g, AssocRbTree.front pubSub = some (g, listenersFor regs g) ∧ g ∈ regs.map Prod.fst ∧
      ∀ g' ∈ regs.map Prod.fst, g ≤ g' := by
  have stored {f : UInt16} (mem : f ∈ regs.map Prod.fst) :
      (f, listenersFor regs f) ∈ pubSub.toList :=
    (files.exact_ f _).mpr ⟨rfl, listenersFor_ne_nil.mpr mem⟩
  cases listed : pubSub.toList with
  | nil =>
      have none := stored mem
      rw [listed] at none
      cases none
  | cons e rest =>
      obtain ⟨g, arr⟩ := e
      obtain ⟨rfl, some⟩ := (files.exact_ g arr).mp (by simp [listed])
      refine ⟨g, by rw [AssocRbTree.front, listed]; rfl, listenersFor_ne_nil.mp some, ?_⟩
      intro g' mem'
      have sorted : AssocNode.Sorted cmpRanFuncId pubSub.toList := pubSub.sorted
      have later := stored mem'
      rw [listed] at sorted later
      rcases List.mem_cons.mp later with same | later
      · cases same
        exact UInt16.le_refl g
      · have le := (List.pairwise_cons.mp sorted).1 _ later
        rw [cmpRanFuncId, Comparator.ascending_le] at le
        exact UInt16.le_iff_toNat_le.mpr le

theorem Files.publish (files : Files pubSub regs) (mem : f ∈ regs.map Prod.fst) (d : δ) :
    ∃ g ∈ regs.map Prod.fst, (∀ g' ∈ regs.map Prod.fst, g ≤ g') ∧
      pubSub.publishIndMsg f d = .ok ((listenersFor regs g).map fun sub => (sub, d)) := by
  obtain ⟨g, front, known, least⟩ := files.front mem
  refine ⟨g, known, least, ?_⟩
  have found : (pubSub.findIf (· = f)).isSome := by
    by_contra none
    have missed := AssocRbTree.findIf_none.mp (Option.not_isSome_iff_eq_none.mp none)
    exact listenersFor_ne_nil.mpr mem (files.unregistered (by simpa using missed))
  obtain ⟨e, found⟩ := Option.isSome_iff_exists.mp found
  rw [publishIndMsg, found, front]
  rfl

theorem Files.publish_unregistered (files : Files pubSub regs) (none : f ∉ regs.map Prod.fst)
    (d : δ) : pubSub.publishIndMsg f d = .error ranFuncNotPublished := by
  have missed : pubSub.findIf (· = f) = Option.none := by
    apply AssocRbTree.findIf_none.mpr
    intro e mem same
    obtain ⟨listed, some⟩ := (files.exact_ e.1 e.2).mp mem
    have same : e.1 = f := by simpa using same
    rw [listed, same] at some
    exact none (listenersFor_ne_nil.mp some)
  rw [publishIndMsg, missed]

theorem Files.published_iff (files : Files pubSub regs) (f : UInt16) (d : δ) :
    Published pubSub regs f d ↔ FirstAlike regs f := by
  have single : Function.Injective fun sub : SubsRic φ => (sub, d) :=
    fun _ _ same => congrArg Prod.fst same
  by_cases mem : f ∈ regs.map Prod.fst
  · obtain ⟨g, known, least, published⟩ := files.publish mem d
    rw [Published, published]
    constructor
    · intro reached
      obtain ⟨called, same, perm⟩ := reached
      cases same
      refine ⟨mem, fun g' known' least' => ?_⟩
      obtain rfl : g' = g := UInt16.le_antisymm (least' g known) (least g' known')
      exact (List.map_perm_map_iff single).mp perm
    · intro alike
      exact ⟨_, rfl, (alike.2 g known least).map _⟩
  · constructor
    · intro reached
      obtain ⟨called, published, -⟩ := reached
      cases published.symm.trans (files.publish_unregistered mem d)
    · exact fun alike => absurd alike.1 mem

/-- The listeners of the indication's RAN function are called, each once and no
    others, if and only if the first RAN function with a listener has the same. -/
theorem publish_iff (regs : List (UInt16 × SubsRic φ)) (f : UInt16) (d : δ) :
    Published (registered regs) regs f d ↔ FirstAlike regs f :=
  (files_registered regs).published_iff f d

/-- RAN functions 2 and 3 with a listener each. -/
def twoFunctions : List (UInt16 × SubsRic Nat) := [(3, ⟨"b", 1⟩), (2, ⟨"a", 0⟩)]

/-- An indication of RAN function 3 goes to the listener of RAN function 2. -/
theorem published_elsewhere :
    ¬∀ (regs : List (UInt16 × SubsRic Nat)) (f : UInt16) (d : Nat),
      f ∈ regs.map Prod.fst → Published (registered regs) regs f d := by
  intro published
  obtain ⟨called, went, perm⟩ := published twoFunctions 3 7 (by decide)
  have wrong : (registered twoFunctions).publishIndMsg 3 7 = .ok [(⟨"a", 0⟩, 7)] := by
    decide +kernel
  cases went.symm.trans wrong
  exact absurd perm (by decide)

/-- What `load_default_pub_sub_ric` registers. -/
def defaultListeners (stdout redis influx : φ) : List (SubsRic φ) :=
  [⟨"stdout listener", stdout⟩, ⟨"redis listener", redis⟩, ⟨"influx listener", influx⟩]

def defaultRegistrations (plugin : List UInt16) (stdout redis influx : φ) :
    List (UInt16 × SubsRic φ) :=
  plugin.flatMap fun f => (defaultListeners stdout redis influx).map fun sub => (f, sub)

theorem mem_defaultRegistrations {plugin : List UInt16} {stdout redis influx : φ} :
    f ∈ (defaultRegistrations plugin stdout redis influx).map Prod.fst ↔ f ∈ plugin := by
  simp [defaultRegistrations, defaultListeners, List.map_flatMap, -List.mem_map]

theorem loadDefault_eq (plugin : List UInt16) (stdout redis influx : φ) :
    loadDefaultPubSubRic plugin stdout redis influx .init =
      registered (defaultRegistrations plugin stdout redis influx) := by
  simp only [loadDefaultPubSubRic, registered, defaultRegistrations, List.foldl_flatMap]
  rfl

theorem listenersFor_default {plugin : List UInt16} (distinct : plugin.Nodup) (mem : f ∈ plugin)
    (stdout redis influx : φ) :
    listenersFor (defaultRegistrations plugin stdout redis influx) f =
      defaultListeners stdout redis influx := by
  obtain ⟨before, after, rfl⟩ := List.append_of_mem mem
  have others : ∀ g ∈ before ++ after, g ≠ f := by
    rw [List.nodup_middle, List.nodup_cons] at distinct
    exact fun g mem same => distinct.1 (same ▸ mem)
  have nothing {fs : List UInt16} (sub : fs ⊆ before ++ after) :
      listenersFor (defaultRegistrations fs stdout redis influx) f = [] := by
    apply Classical.not_not.mp
    rw [← ne_eq, listenersFor_ne_nil, mem_defaultRegistrations]
    exact fun mem => others f (sub mem) rfl
  have split (a b : List UInt16) :
      listenersFor (defaultRegistrations (a ++ b) stdout redis influx) f
      = listenersFor (defaultRegistrations a stdout redis influx) f ++
        listenersFor (defaultRegistrations b stdout redis influx) f := by
    simp [listenersFor, defaultRegistrations]
  rw [split, nothing (List.subset_append_left _ _), ← List.singleton_append, split [f],
    nothing (List.subset_append_right _ _)]
  simp [listenersFor, defaultRegistrations, defaultListeners]

/-- Every RAN function has the same ones, so that it does not matter whose are called. -/
theorem default_called {plugin : List UInt16} (distinct : plugin.Nodup) (mem : f ∈ plugin)
    (stdout redis influx : φ) (d : δ) :
    (loadDefaultPubSubRic plugin stdout redis influx .init).publishIndMsg f d =
      .ok ((defaultListeners stdout redis influx).map fun sub => (sub, d)) := by
  rw [loadDefault_eq]
  obtain ⟨g, known, -, published⟩ :=
    (files_registered _).publish (mem_defaultRegistrations.mpr mem) d
  rw [published, listenersFor_default distinct (mem_defaultRegistrations.mp known)]

end PubSub

end FlexRic
