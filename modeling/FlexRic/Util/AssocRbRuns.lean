import FlexRic.Library.Machine
import FlexRic.Util.AssocRbShape

/-! # Runs of a red-black tree

Users insert keys that are absent, extract keys that are present and look up any.
Under a comparison that tells all keys apart the tree is then the finite map of
what was done to it, and every operation leaves a red-black tree.
-/

namespace FlexRic

/-- An insertion comes with the address of its node. -/
inductive RbEvent (κ ν : Type) where
  | insert (addr : Ptr) (key : κ) (value : ν)
  | extract (key : κ)
  | find (key : κ)

namespace RbMemory

open RbLinks (Sentinel Holds ptr dummy null)
open AssocNode (Place)

variable {κ ν : Type} {o : Comparator κ} {tree tree' : RbMemory κ ν}

/-- Nodes are allocated where nothing is. -/
def Enabled (tree : RbMemory κ ν) : RbEvent κ ν → Prop
  | .insert addr _ _ => tree.Fresh addr
  | .extract _ | .find _ => True

instance (tree : RbMemory κ ν) : (e : RbEvent κ ν) → Decidable (tree.Enabled e)
  | .insert .. => inferInstanceAs (Decidable (_ ∧ _))
  | .extract _ | .find _ => .isTrue trivial

/-- An operation, with the value that it returns. -/
def step (o : Comparator κ) (tree : RbMemory κ ν) :
    RbEvent κ ν → RbResult (RbMemory κ ν × Option ν)
  | .insert addr key value => do
      let tree ← tree.insert o addr key value
      pure (tree, none)
  | .extract key => do
      let (value, tree) ← tree.extract o key
      pure (tree, some value)
  | .find key => do
      let found ← tree.find o key
      pure (tree, found)

def machine (o : Comparator κ) (ν : Type) :
    Machine (RbMemory κ ν) (RbEvent κ ν) AssocRbFailure (Option ν) where
  init := .init
  enabled := Enabled
  step := step o

instance (tree : RbMemory κ ν) (e : RbEvent κ ν) : Decidable ((machine o ν).enabled tree e) :=
  inferInstanceAs (Decidable (tree.Enabled e))

abbrev History (κ ν : Type) := List (Entry (RbMemory κ ν) (RbEvent κ ν) (Option ν))

section Map

variable [DecidableEq κ]

/-- What an operation does to a map. -/
def apply (m : κ → Option ν) : RbEvent κ ν → κ → Option ν
  | .insert _ key value => Function.update m key (some value)
  | .extract key => Function.update m key none
  | .find _ => m

/-- What it returns. -/
def answer (m : κ → Option ν) : RbEvent κ ν → Option ν
  | .insert .. => none
  | .extract key | .find key => m key

/-- The map that a history leaves. -/
def contents (h : History κ ν) : κ → Option ν :=
  h.foldr (fun x m => apply m x.event) fun _ => none

/-- Keys are inserted when absent and extracted when present. -/
def Proper (h : History κ ν) (_ : RbMemory κ ν) : RbEvent κ ν → Prop
  | .insert _ key _ => contents h key = none
  | .extract key => (contents h key).isSome
  | .find _ => True

instance (h : History κ ν) (tree : RbMemory κ ν) :
    (e : RbEvent κ ν) → Decidable (Proper h tree e)
  | .insert _ key _ =>
      match there : contents h key with
      | none => .isTrue there
      | some _ => .isFalse fun absent => nomatch there.symm.trans absent
  | .extract _ => inferInstanceAs (Decidable (_ = true))
  | .find _ => .isTrue trivial

end Map

/-- The tree is a finite map: searches find what it has, and the loop over all
    entries meets each once, in strictly increasing order. -/
structure Refines (o : Comparator κ) (tree : RbMemory κ ν) (m : κ → Option ν) : Prop where
  found : ∀ key, tree.find o key = .ok (m key)
  iterates : ∃ entries, tree.walk = .ok entries ∧ Represents entries m ∧
    entries.Pairwise fun a b => o.cmp a.1 b.1 = 1

/-- The memory stores a tree with the entries of the map. -/
def Implements (o : Comparator κ) (tree : RbMemory κ ν) (m : κ → Option ν) : Prop :=
  ∃ t : LocatedTree o ν, tree.Stores t ∧ Represents (t.toList.map fun e => (e.1.2, e.2)) m

theorem stores_init : (init : RbMemory κ ν).Stores (.init : LocatedTree o ν) where
  holds := ⟨trivial, rfl, List.nodup_singleton dummy, null, rfl⟩
  colored := ⟨rfl, 0, rfl⟩
  keeps := nofun
  size := rfl
  distinct := .nil

variable {m : κ → Option ν} {e : RbEvent κ ν} {t : LocatedTree o ν} {key : κ}

theorem mem_entries {v : ν} : (key, v) ∈ t.toList.map (fun e => (e.1.2, e.2)) ↔
    ∃ p, ((p, key), v) ∈ t.toList := by
  simp

/-- No key of the tree ties with one that the map does not have. -/
theorem absent_iff (strict : o.Strict) (rep : Represents (t.toList.map fun e => (e.1.2, e.2)) m) :
    m key = none ↔ ∀ e ∈ t.toList, ¬o.Ties key e.1.2 := by
  rw [rep.eq_none_iff]
  constructor
  · intro absent e mem ties
    apply absent
    rw [strict key e.1.2 ties, List.map_map]
    exact List.mem_map.mpr ⟨e, mem, rfl⟩
  · intro apart mem
    rw [List.map_map] at mem
    obtain ⟨e, inside, rfl⟩ := List.mem_map.mp mem
    exact apart e inside (Comparator.Ties.refl o _)

/-- The search finds what the map has. -/
theorem find_eq (strict : o.Strict) (rep : Represents (t.toList.map fun e => (e.1.2, e.2)) m) :
    t.find (dummy, key) = m key := by
  cases found : t.find (dummy, key) with
  | none => exact ((absent_iff strict rep).mpr (AssocRbTree.find_none found)).symm
  | some v =>
      obtain ⟨k, ties, mem⟩ := AssocRbTree.find_some found
      have same : key = k.2 := strict key k.2 ties
      refine ((rep.mem_iff key v).mp (mem_entries.mpr ⟨k.1, ?_⟩)).symm
      rw [same]
      exact mem

theorem Implements.refines (strict : o.Strict) (impl : Implements o tree m) :
    tree.Refines o m := by
  obtain ⟨t, stores, rep⟩ := impl
  refine ⟨fun key => ?_, _, walk_ok stores, rep, ?_⟩
  · rw [stores.find_value key, find_eq strict rep]
  · rw [List.pairwise_map]
    exact stores.increasing

theorem Implements.step [DecidableEq κ] (strict : o.Strict) {h : History κ ν}
    (impl : Implements o tree (contents h)) (enabled : tree.Enabled e) (proper : Proper h tree e) :
    ∃ tree', tree.step o e = .ok (tree', answer (contents h) e) ∧
      Implements o tree' (apply (contents h) e) := by
  obtain ⟨t, stores, rep⟩ := impl
  cases e with
  | insert addr key value =>
      obtain ⟨tree', inserted, stores'⟩ :=
        stores.insert enabled ((absent_iff strict rep).mp proper) value
      have entries := (t.insert_perm (addr, key) value).map fun e => (e.1.2, e.2)
      exact ⟨tree', bind_eq_ok.mpr ⟨tree', inserted, rfl⟩, _, stores',
        (rep.cons proper value).perm entries.symm⟩
  | extract key =>
      obtain ⟨value, present⟩ := Option.isSome_iff_exists.mp proper
      have there := (find_eq strict rep).trans present
      obtain ⟨z, found, rfl⟩ := Option.map_eq_some_iff.mp there
      obtain ⟨tree', t', extracted, stores', perm⟩ := stores.extract found
      have same : key = z.key.2 := strict key z.key.2 (AssocNode.findRbTree_some found).1
      have entries := perm.map fun e => (e.1.2, e.2)
      rw [List.map_cons, ← same] at entries
      refine ⟨tree', ?_, t', stores', (rep.perm entries).of_cons.2⟩
      rw [answer, present]
      exact bind_eq_ok.mpr ⟨_, extracted, rfl⟩
  | find key =>
      refine ⟨tree, ?_, t, stores, rep⟩
      rw [answer, ← find_eq strict rep]
      exact bind_eq_ok.mpr ⟨_, stores.find_value key, rfl⟩

theorem implements_run [DecidableEq κ] (strict : o.Strict) {h : History κ ν}
    (run : (machine o ν).Run tree h) (proper : Machine.MeetsAlong Proper h) :
    Implements o tree (contents h) := by
  induction run with
  | start => exact ⟨.init, stores_init, .nil⟩
  | next _ enabled moved ih =>
      obtain ⟨here, earlier⟩ := proper
      obtain ⟨_, goes, impl⟩ := (ih earlier).step strict enabled here
      cases goes.symm.trans moved
      exact impl

/-- Every run leaves a red-black tree, and so does the next operation. -/
theorem red_black_kept [DecidableEq κ] (strict : o.Strict) {h : History κ ν}
    (run : (machine o ν).Run tree h) (proper : Machine.MeetsAlong Proper h) :
    tree.RedBlackTree o ∧ ∀ e, tree.Enabled e → Proper h tree e →
      ∃ tree' out, tree.step o e = .ok (tree', out) ∧ tree'.RedBlackTree o := by
  have impl := implements_run strict run proper
  constructor
  · obtain ⟨t, stores, -⟩ := impl
    exact stores.redBlackTree
  · intro e enabled here
    obtain ⟨tree', goes, t', stores', -⟩ := impl.step strict enabled here
    exact ⟨tree', _, goes, stores'.redBlackTree⟩

theorem ascending_strict : (Comparator.ascending (id : Nat → Nat)).Strict :=
  fun _ _ ties => Comparator.ascending_ties.mp ties

/-- Eleven keys in, and four of them out again. -/
def thinned : List (RbEvent Nat String) :=
  (List.range 11).map (fun i => .insert (i + 2) (i * 4 % 11) "x") ++
    [.extract 4, .extract 0, .find 4, .insert 3 4 "y", .extract 7, .extract 10]

theorem red_black_kept_thinned :
    let reached := (machine (.ascending id) String).replay thinned
    reached.1.RedBlackTree (.ascending id) ∧
      ∀ e, reached.1.Enabled e → Proper reached.2 reached.1 e →
        ∃ tree' out, reached.1.step (.ascending id) e = .ok (tree', out) ∧
          tree'.RedBlackTree (.ascending id) :=
  red_black_kept ascending_strict ((machine (.ascending id) String).run_replay thinned)
    (by decide +kernel)

/-- After every run the tree is the finite map of its history, and the next operation
    returns what that map says and leaves the next map. -/
theorem refines_finite_map [DecidableEq κ] (strict : o.Strict) {h : History κ ν}
    (run : (machine o ν).Run tree h) (proper : Machine.MeetsAlong Proper h) :
    tree.Refines o (contents h) ∧ ∀ e, tree.Enabled e → Proper h tree e →
      ∃ tree', tree.step o e = .ok (tree', answer (contents h) e) ∧
        tree'.Refines o (apply (contents h) e) := by
  have impl := implements_run strict run proper
  refine ⟨impl.refines strict, fun e enabled here => ?_⟩
  obtain ⟨tree', goes, impl'⟩ := impl.step strict enabled here
  exact ⟨tree', goes, impl'.refines strict⟩

theorem refines_finite_map_thinned :
    let reached := (machine (.ascending id) String).replay thinned
    reached.1.Refines (.ascending id) (contents reached.2) ∧
      ∀ e, reached.1.Enabled e → Proper reached.2 reached.1 e →
        ∃ tree', reached.1.step (.ascending id) e = .ok (tree', answer (contents reached.2) e) ∧
          tree'.Refines (.ascending id) (apply (contents reached.2) e) :=
  refines_finite_map ascending_strict ((machine (.ascending id) String).run_replay thinned)
    (by decide +kernel)

end RbMemory

end FlexRic
