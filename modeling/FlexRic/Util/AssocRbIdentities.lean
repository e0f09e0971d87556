import FlexRic.Util.AssocRbRuns

/-! # Red-black trees over identities

A comparison may skip parts of its keys. A tree over it holds one entry for each
thing that a key stands for, whatever else the key says.
-/

namespace FlexRic.RbMemory

open RbLinks (dummy)

variable {κ ν : Type} {o : Comparator κ} {same : κ → κ → Bool}
variable {tree tree' : RbMemory κ ν} {entries : List (κ × ν)} {key : κ}

/-- What an operation leaves of the entries. -/
def entriesAfter (same : κ → κ → Bool) (entries : List (κ × ν)) : RbEvent κ ν → List (κ × ν)
  | .insert _ key value => (key, value) :: entries
  | .extract key => entries.filter fun e => !same key e.1
  | .find _ => entries

/-- The entries that a history leaves. -/
def entriesOf (same : κ → κ → Bool) (h : History κ ν) : List (κ × ν) :=
  h.foldr (fun x entries => entriesAfter same entries x.event) []

def lookup (same : κ → κ → Bool) (entries : List (κ × ν)) (key : κ) : Option ν :=
  (entries.find? fun e => same key e.1).map Prod.snd

/-- What an operation returns. -/
def valueOf (same : κ → κ → Bool) (entries : List (κ × ν)) : RbEvent κ ν → Option ν
  | .insert .. => none
  | .extract key | .find key => lookup same entries key

/-- What is inserted is new, and what is extracted is there. -/
def Sound (same : κ → κ → Bool) (h : History κ ν) (_ : RbMemory κ ν) : RbEvent κ ν → Prop
  | .insert _ key _ => lookup same (entriesOf same h) key = none
  | .extract key => (lookup same (entriesOf same h) key).isSome
  | .find _ => True

/-- Whatever was done to a tree, its next operation answers by identity. -/
def TreesServe (o : Comparator κ) (same : κ → κ → Bool) : Prop :=
  ∀ {ν : Type} {tree : RbMemory κ ν} {h : History κ ν}, (machine o ν).Run tree h →
    Machine.MeetsAlong (Sound same) h → ∀ e, tree.Enabled e → Sound same h tree e →
      ∃ tree', tree.step o e = .ok (tree', valueOf same (entriesOf same h) e)

/-- The memory stores a tree of the entries, no two of them for the same thing. -/
def Lists (o : Comparator κ) (tree : RbMemory κ ν) (entries : List (κ × ν)) : Prop :=
  ∃ t : LocatedTree o ν, tree.Stores t ∧ (t.toList.map fun e => (e.1.2, e.2)).Perm entries

theorem lists_init : Lists o (init : RbMemory κ ν) [] :=
  ⟨.init, stores_init, .nil⟩

variable {t : LocatedTree o ν}

/-- The entries of a stored tree are for different things. -/
theorem Stores.apart (stores : tree.Stores t)
    (perm : (t.toList.map fun e => (e.1.2, e.2)).Perm entries) :
    entries.Pairwise (o.Apart Prod.fst) := by
  have distinct : (t.toList.map fun e => (e.1.2, e.2)).Pairwise (o.Apart Prod.fst) :=
    List.pairwise_map.mpr stores.distinct
  exact distinct.perm perm fun apart ties => apart ties.symm

/-- The search in the tree is the search among the entries. -/
theorem find_lookup (ties : ∀ a b, o.Ties a b ↔ same a b)
    (apart : entries.Pairwise (o.Apart Prod.fst))
    (perm : (t.toList.map fun e => (e.1.2, e.2)).Perm entries) :
    t.find (dummy, key) = lookup same entries key := by
  rw [lookup]
  cases sought : entries.find? fun e => same key e.1 with
  | none =>
      cases found : t.find (dummy, key) with
      | none => rfl
      | some v =>
          obtain ⟨k, tied, mem⟩ := AssocRbTree.find_some found
          have listed : (k.2, v) ∈ entries := perm.mem_iff.mp (List.mem_map.mpr ⟨_, mem, rfl⟩)
          exact absurd ((ties key k.2).mp tied) (List.find?_eq_none.mp sought _ listed)
  | some e =>
      have mem := List.mem_of_find?_eq_some sought
      have meant : same key e.1 = true := by simpa using List.find?_some sought
      have tied : o.Ties key e.1 := (ties key e.1).mpr meant
      obtain ⟨x, inside, rfl⟩ := List.mem_map.mp (perm.mem_iff.mpr mem)
      cases found : t.find (dummy, key) with
      | none => exact absurd tied (AssocRbTree.find_none found x inside)
      | some v =>
          obtain ⟨k, tied', mem'⟩ := AssocRbTree.find_some found
          have listed : (k.2, v) ∈ entries := perm.mem_iff.mp (List.mem_map.mpr ⟨_, mem', rfl⟩)
          have one := Comparator.eq_of_ties apart listed mem (tied'.symm.trans tied)
          rw [← one]
          rfl

theorem lookup_eq_none : lookup same entries key = none ↔ ∀ e ∈ entries, same key e.1 = false := by
  simp [lookup]

/-- Of entries for different things an extraction leaves all but one. -/
theorem filter_apart (ties : ∀ a b, o.Ties a b ↔ same a b) {e : κ × ν} {rest : List (κ × ν)}
    (apart : entries.Pairwise (o.Apart Prod.fst)) (perm : entries.Perm (e :: rest))
    (tied : o.Ties key e.1) : (entries.filter fun x => !same key x.1).Perm rest := by
  have apart' := apart.perm perm fun apart ties => apart ties.symm
  have others : ∀ x ∈ rest, same key x.1 = false := by
    intro x mem
    have differ : ¬o.Ties e.1 x.1 := List.rel_of_pairwise_cons apart' mem
    rw [← Bool.not_eq_true, ← ties]
    exact fun tied' => differ (tied.symm.trans tied')
  have gone : same key e.1 = true := (ties key e.1).mp tied
  have kept : (e :: rest).filter (fun x => !same key x.1) = rest := by
    rw [List.filter_cons_of_neg (by simp [gone])]
    exact List.filter_eq_self.mpr fun x mem => by simp [others x mem]
  rw [← kept]
  exact perm.filter _

theorem Lists.step (ties : ∀ a b, o.Ties a b ↔ same a b) {h : History κ ν} {e : RbEvent κ ν}
    (lists : Lists o tree (entriesOf same h)) (enabled : tree.Enabled e)
    (sound : Sound same h tree e) :
    ∃ tree', tree.step o e = .ok (tree', valueOf same (entriesOf same h) e) ∧
      Lists o tree' (entriesAfter same (entriesOf same h) e) := by
  obtain ⟨t, stores, perm⟩ := lists
  have apart := stores.apart perm
  cases e with
  | insert addr key value =>
      have new : ∀ e ∈ t.toList, ¬o.Ties key e.1.2 := by
        intro e mem tied
        have listed := perm.mem_iff.mp (List.mem_map.mpr ⟨e, mem, rfl⟩)
        have differ := lookup_eq_none.mp sound _ listed
        rw [(ties key e.1.2).mp tied] at differ
        cases differ
      obtain ⟨tree', inserted, stores'⟩ := stores.insert enabled new value
      have more := (t.insert_perm (addr, key) value).map fun e => (e.1.2, e.2)
      exact ⟨tree', bind_eq_ok.mpr ⟨tree', inserted, rfl⟩, _, stores', more.trans (perm.cons _)⟩
  | extract key =>
      obtain ⟨value, present⟩ := Option.isSome_iff_exists.mp sound
      have there := (find_lookup ties apart perm).trans present
      obtain ⟨z, found, rfl⟩ := Option.map_eq_some_iff.mp there
      obtain ⟨tree', t', extracted, stores', fewer⟩ := stores.extract found
      have tied : o.Ties key z.key.2 := (AssocNode.findRbTree_some found).1
      have split := perm.symm.trans (fewer.map fun e => (e.1.2, e.2))
      refine ⟨tree', ?_, t', stores', (filter_apart ties apart split tied).symm⟩
      rw [valueOf, present]
      exact bind_eq_ok.mpr ⟨_, extracted, rfl⟩
  | find key =>
      refine ⟨tree, ?_, t, stores, perm⟩
      rw [valueOf, ← find_lookup ties apart perm]
      exact bind_eq_ok.mpr ⟨_, stores.find_value key, rfl⟩

theorem lists_run (ties : ∀ a b, o.Ties a b ↔ same a b) {h : History κ ν}
    (run : (machine o ν).Run tree h) (sound : Machine.MeetsAlong (Sound same) h) :
    Lists o tree (entriesOf same h) := by
  induction run with
  | start => exact lists_init
  | next _ enabled moved ih =>
      obtain ⟨here, earlier⟩ := sound
      obtain ⟨_, goes, lists⟩ := (ih earlier).step ties enabled here
      cases goes.symm.trans moved
      exact lists

/-- A comparison that ties just what is the same serves. -/
theorem treesServe (ties : ∀ a b, o.Ties a b ↔ same a b) : TreesServe o same := by
  intro ν tree h run along e enabled sound
  obtain ⟨tree', goes, -⟩ := (lists_run ties run along).step ties enabled sound
  exact ⟨tree', goes⟩

end FlexRic.RbMemory
