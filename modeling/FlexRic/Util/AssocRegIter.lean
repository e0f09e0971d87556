import FlexRic.Util.AssocReg

/-! # Iterating over a registry, and erasing ranges of it

An iterator is a place in the array, at a bucket with a value or at the end.
Advancing one skips the dead buckets, and so does the loop that erases from one
iterator to another.
-/

namespace FlexRic

open Assertion

namespace AssocReg

variable {ν : Type}

/-- `assoc_reg_key` and `assoc_reg_value`. -/
def at_ (reg : AssocReg ν) (it : Nat) : Checked (UInt32 × ν) :=
  match reg.arr[it]? with
  | none => .error regIterator
  | some b => do
      check (b.hasValue = true) regNoValue
      pure (b.key, b.val)

/-- `assoc_reg_next`: the next bucket with a value, or the end. -/
def next (reg : AssocReg ν) (it : Nat) : Checked Nat :=
  match reg.arr[it]? with
  | none => .error regIterator
  | some b => do
      check (b.hasValue = true) regNoValue
      pure (it + 1 + (reg.arr.drop (it + 1)).findIdx RegistryBucket.hasValue)

/-- The entries met on the way from an iterator to the end. -/
def walkFrom (reg : AssocReg ν) : Nat → Nat → Checked (List (UInt32 × ν))
  | 0, it => if it = reg.arr.length then pure [] else .error regIterator
  | rounds + 1, it =>
      if it = reg.arr.length then pure []
      else do
        let e ← reg.at_ it
        let it ← reg.next it
        let rest ← reg.walkFrom rounds it
        pure (e :: rest)

/-- The entries met from `assoc_reg_front` to `assoc_reg_end`. -/
def walk (reg : AssocReg ν) : Checked (List (UInt32 × ν)) :=
  reg.walkFrom reg.arr.length reg.front

/-- A place is an iterator when it is the end or has a value. -/
def IsIter (reg : AssocReg ν) (it : Nat) : Prop :=
  it = reg.arr.length ∨ ∃ b ∈ reg.arr[it]?, b.hasValue = true

instance (reg : AssocReg ν) (it : Nat) : Decidable (reg.IsIter it) :=
  inferInstanceAs (Decidable (_ ∨ _))

variable {reg : AssocReg ν} {it : Nat} {b : RegistryBucket ν}

/-- The first live bucket from the head on, or the end, is what a search stops at. -/
theorem drop_findIdx_valued (arr : List (RegistryBucket ν)) :
    valued (arr.drop (arr.findIdx RegistryBucket.hasValue)) = valued arr := by
  induction arr with
  | nil => rfl
  | cons b rest ih =>
      by_cases live : b.hasValue
      · simp [List.findIdx_cons, live]
      · simpa [List.findIdx_cons, live, valued] using ih

theorem findIdx_valued (arr : List (RegistryBucket ν)) :
    arr.findIdx RegistryBucket.hasValue = arr.length ∨
      ∃ b, arr[arr.findIdx RegistryBucket.hasValue]? = some b ∧ b.hasValue = true := by
  rcases Nat.lt_or_ge (arr.findIdx RegistryBucket.hasValue) arr.length with found | missed
  · exact .inr ⟨_, List.getElem?_eq_getElem found, List.findIdx_getElem⟩
  · exact .inl (Nat.le_antisymm List.findIdx_le_length missed)

theorem isIter_front (reg : AssocReg ν) : reg.IsIter reg.front :=
  (findIdx_valued reg.arr).imp_right fun found => found

theorem next_ok (here : reg.arr[it]? = some b) (live : b.hasValue = true) :
    reg.next it = .ok (it + 1 + (reg.arr.drop (it + 1)).findIdx RegistryBucket.hasValue) := by
  rw [next, here]
  exact bind_eq_ok.mpr ⟨(), check_pass _ live, rfl⟩

/-- Advancing a live iterator leads to an iterator, past this bucket alone. -/
theorem next_spec (here : reg.arr[it]? = some b) (live : b.hasValue = true) :
    ∃ it', reg.next it = .ok it' ∧ it < it' ∧ reg.IsIter it' ∧
      valued (reg.arr.drop it) = b :: valued (reg.arr.drop it') := by
  obtain ⟨bound, rfl⟩ := List.getElem?_eq_some_iff.mp here
  refine ⟨_, next_ok here live, by omega, ?_, ?_⟩
  · rcases findIdx_valued (reg.arr.drop (it + 1)) with end_ | ⟨b', at_, live'⟩
    · left
      rw [end_, List.length_drop]
      omega
    · right
      exact ⟨b', by rwa [List.getElem?_drop] at at_, live'⟩
  · have rest := drop_findIdx_valued (reg.arr.drop (it + 1))
    rw [List.drop_drop] at rest
    rw [List.drop_eq_getElem_cons bound, valued, List.filter_cons_of_pos live, ← valued, rest]

/-- From an iterator on, every entry is met once and in order. -/
theorem walkFrom_ok {rounds : Nat} (iter : reg.IsIter it) (enough : reg.arr.length ≤ it + rounds)
    (inside : it ≤ reg.arr.length) :
    reg.walkFrom rounds it =
      .ok ((valued (reg.arr.drop it)).map fun b => (b.key, b.val)) := by
  induction rounds generalizing it with
  | zero =>
      have end_ : it = reg.arr.length := by omega
      simp [walkFrom, end_, valued, pure, Except.pure]
  | succ rounds ih =>
      by_cases end_ : it = reg.arr.length
      · simp [walkFrom, end_, valued, pure, Except.pure]
      · obtain ⟨b, here, live⟩ := iter.resolve_left end_
        obtain ⟨it', goes, later, iter', listed⟩ := next_spec here live
        have inside' : it' ≤ reg.arr.length := by
          rcases iter' with end' | ⟨b', here', -⟩
          · omega
          · exact Nat.le_of_lt (List.getElem?_eq_some_iff.mp here').1
        have value : reg.at_ it = .ok (b.key, b.val) := by
          rw [at_, show reg.arr[it]? = some b from here]
          exact bind_eq_ok.mpr ⟨(), check_pass _ live, rfl⟩
        simp only [walkFrom, if_neg end_, value, goes, ok_bind,
          ih iter' (by omega) inside', listed, List.map_cons]
        rfl

/-- Iterating over the registry meets its entries. -/
theorem walk_ok (reg : AssocReg ν) : reg.walk = .ok reg.entries := by
  have inside : reg.front ≤ reg.arr.length := List.findIdx_le_length
  rw [walk, walkFrom_ok reg.isIter_front (by omega) inside, front, drop_findIdx_valued, entries]

/-- `b->has_value = false` -/
def kill (b : RegistryBucket ν) : RegistryBucket ν := { b with hasValue := false }

/-- The loop of `assoc_reg_erase`. -/
def eraseLoop : Nat → AssocReg ν → Nat → Nat → Checked (AssocReg ν)
  | 0, reg, start, stop => if start = stop then pure reg else .error regIterator
  | rounds + 1, reg, start, stop =>
      if start = stop then pure reg
      else do
        let it ← reg.next start
        eraseLoop rounds { reg with arr := reg.arr.modify start kill, sz := reg.sz - 1 } it stop

/-- `assoc_reg_erase`. -/
def eraseRange (reg : AssocReg ν) (start stop : Nat) : Checked (AssocReg ν) :=
  if start = stop then pure reg
  else do
    check (start < reg.arr.length) regIterator
    let reg ← eraseLoop reg.arr.length reg start stop
    pure reg.compactIfNecessary.shrinkIfNecessary

/-- The buckets of `remove_if_range_reg` that it takes the value of. -/
def Taken (f : ν → Bool) (b : RegistryBucket ν) : Prop := b.hasValue = true ∧ f b.val = true

instance (f : ν → Bool) (b : RegistryBucket ν) : Decidable (Taken f b) :=
  inferInstanceAs (Decidable (_ ∧ _))

/-- The loop of `remove_if_range_reg`: the buckets after it, and the keys it has
    collected. -/
def removeIf (f : ν → Bool) :
    List (RegistryBucket ν) → List (RegistryBucket ν) × List UInt32
  | [] => ([], [])
  | b :: rest =>
      let (rest, keys) := removeIf f rest
      if Taken f b then (kill b :: rest, b.key :: keys) else (b :: rest, keys)

def removeIfRangeReg (reg : AssocReg ν) (f : ν → Bool) : AssocReg ν × List UInt32 :=
  let (arr, keys) := removeIf f reg.arr
  let reg := { reg with arr := arr, sz := reg.sz - keys.length }
  (reg.compactIfNecessary.shrinkIfNecessary, keys)

@[simp] theorem kill_key (b : RegistryBucket ν) : (kill b).key = b.key := rfl

@[simp] theorem kill_hasValue (b : RegistryBucket ν) : (kill b).hasValue = false := rfl

theorem kill_dead {b : RegistryBucket ν} (dead : ¬b.hasValue = true) : kill b = b := by
  cases b
  simp_all [kill]

/-- The search stops right after a stretch of dead buckets. -/
theorem findIdx_append_dead {dead live : List (RegistryBucket ν)}
    (none : ∀ b ∈ dead, ¬b.hasValue = true) (first : ∀ b ∈ live.head?, b.hasValue = true) :
    (dead ++ live).findIdx RegistryBucket.hasValue = dead.length := by
  induction dead with
  | nil =>
      cases live with
      | nil => rfl
      | cons b rest => simp [List.findIdx_cons, first b rfl]
  | cons b dead ih =>
      have here : b.hasValue = false := by simpa using none b (by simp)
      have rest := ih fun b mem => none b (List.mem_cons_of_mem _ mem)
      simp [List.findIdx_cons, here, rest]

theorem split_dead (arr : List (RegistryBucket ν)) :
    ∃ dead live, arr = dead ++ live ∧ (∀ b ∈ dead, ¬b.hasValue = true) ∧
      ∀ b ∈ live.head?, b.hasValue = true := by
  induction arr with
  | nil => exact ⟨[], [], rfl, by simp, by simp⟩
  | cons b rest ih =>
      by_cases here : b.hasValue = true
      · exact ⟨[], b :: rest, rfl, by simp, by simpa using here⟩
      · obtain ⟨dead, live, rfl, none, first⟩ := ih
        exact ⟨b :: dead, live, rfl, by simpa [here] using none, first⟩

theorem modify_length (f : RegistryBucket ν → RegistryBucket ν) (pre : List (RegistryBucket ν))
    (b : RegistryBucket ν) (post : List (RegistryBucket ν)) :
    (pre ++ b :: post).modify pre.length f = pre ++ f b :: post := by
  induction pre with
  | nil => rfl
  | cons c pre ih => simp [ih]

/-- The loop kills what lies between two iterators. The induction is on its
    rounds; what it has passed joins the part before. -/
theorem eraseLoop_ok {r : AssocReg ν} {pre mid post : List (RegistryBucket ν)} {rounds : Nat}
    (arr : r.arr = pre ++ mid ++ post) (enough : mid.length ≤ rounds)
    (first : ∀ b ∈ mid.head?, b.hasValue = true) (last : ∀ b ∈ post.head?, b.hasValue = true) :
    eraseLoop rounds r pre.length (pre.length + mid.length) =
      .ok { r with
        arr := pre ++ mid.map kill ++ post
        sz := r.sz - mid.countP RegistryBucket.hasValue } := by
  induction rounds generalizing r pre mid with
  | zero =>
      obtain rfl := List.eq_nil_of_length_eq_zero (Nat.le_zero.mp enough)
      rw [eraseLoop, if_pos (by simp), List.map_nil, ← arr]
      rfl
  | succ rounds ih =>
      cases mid with
      | nil =>
          rw [eraseLoop, if_pos (by simp), List.map_nil, ← arr]
          rfl
      | cons b rest =>
          have live : b.hasValue = true := first b rfl
          obtain ⟨dead, tail, rfl, isDead, tailLive⟩ := split_dead rest
          have liveFirst : ∀ b ∈ (tail ++ post).head?, b.hasValue = true := by
            cases tail with
            | nil => exact last
            | cons c tail => exact tailLive
          have search : (r.arr.drop (pre.length + 1)).findIdx RegistryBucket.hasValue =
              dead.length := by
            rw [← findIdx_append_dead isDead liveFirst, arr]
            simp
          have goes : r.next pre.length = _ := next_ok (by simp [arr]) live
          rw [search] at goes
          have same : dead.map kill = dead :=
            (List.map_congr_left fun b mem => kill_dead (isDead b mem)).trans (List.map_id' dead)
          have none : dead.countP RegistryBucket.hasValue = 0 := List.countP_eq_zero.mpr isDead
          have modified : r.arr.modify pre.length kill =
              (pre ++ kill b :: dead) ++ tail ++ post := by
            rw [arr, List.append_assoc, List.cons_append, modify_length]
            simp
          have again := ih (r := { r with
            arr := r.arr.modify pre.length kill, sz := r.sz - 1 }) modified
            (by simp only [List.length_cons, List.length_append] at enough; omega) tailLive
          simp only [List.length_append, List.length_cons] at again ⊢
          rw [eraseLoop, if_neg (by omega), goes, ok_bind,
            show pre.length + 1 + dead.length = pre.length + (dead.length + 1) by omega,
            show pre.length + (dead.length + tail.length + 1) =
              pre.length + (dead.length + 1) + tail.length by omega, again]
          simp [same, none, live]
          omega

variable {start stop : Nat} {reg' : AssocReg ν}

/-- The keys between two iterators. -/
def InRange (reg : AssocReg ν) (start stop : Nat) (key : UInt32) : Prop :=
  (∃ b ∈ reg.arr[start]?, b.key ≤ key) ∧ ∀ b ∈ reg.arr[stop]?, key < b.key

instance (reg : AssocReg ν) (start stop : Nat) (key : UInt32) :
    Decidable (reg.InRange start stop key) :=
  inferInstanceAs (Decidable (_ ∧ _))

/-- The array, cut at two iterators. -/
theorem cut_range (iterStart : reg.IsIter start) (iterStop : reg.IsIter stop)
    (le : start ≤ stop) (inside : stop ≤ reg.arr.length) :
    ∃ pre mid post, reg.arr = pre ++ mid ++ post ∧ pre.length = start ∧
      start + mid.length = stop ∧ (∀ b ∈ mid.head?, b.hasValue = true) ∧
      ∀ b ∈ post.head?, b.hasValue = true := by
  have live {it : Nat} (iter : reg.IsIter it) {b : RegistryBucket ν}
      (here : reg.arr[it]? = some b) : b.hasValue = true := by
    rcases iter with rfl | ⟨b', here', live⟩
    · simp at here
    · cases here.symm.trans here'
      exact live
  refine ⟨reg.arr.take start, (reg.arr.drop start).take (stop - start), reg.arr.drop stop, ?_, ?_,
    ?_, ?_, ?_⟩
  · have rest : (reg.arr.drop start).drop (stop - start) = reg.arr.drop stop := by
      rw [List.drop_drop, Nat.add_sub_cancel' le]
    rw [← rest, List.append_assoc, List.take_append_drop, List.take_append_drop]
  · rw [List.length_take]
    omega
  · rw [List.length_take, List.length_drop]
    omega
  · intro b mem
    rw [List.head?_take] at mem
    split at mem
    · cases mem
    · rw [List.head?_drop] at mem
      exact live iterStart mem
  · intro b mem
    rw [List.head?_drop] at mem
    exact live iterStop mem

/-- The keys of the middle are those in the range. -/
theorem inRange_iff {pre mid post : List (RegistryBucket ν)}
    (sorted : reg.arr.Pairwise fun a b => a.key < b.key) (arr : reg.arr = pre ++ mid ++ post)
    {b : RegistryBucket ν} (mem : b ∈ reg.arr) :
    reg.InRange pre.length (pre.length + mid.length) b.key ↔ b ∈ mid := by
  have atStart : reg.arr[pre.length]? = (mid ++ post).head? := by
    rw [arr, List.append_assoc, List.getElem?_append_right (Nat.le_refl _), Nat.sub_self,
      List.head?_eq_getElem?]
  have atStop : reg.arr[pre.length + mid.length]? = post.head? := by
    rw [arr, ← List.length_append, List.getElem?_append_right (Nat.le_refl _), Nat.sub_self,
      List.head?_eq_getElem?]
  rw [InRange, atStart, atStop]
  rw [arr, List.append_assoc] at sorted
  obtain ⟨-, sortedRest, acrossPre⟩ := List.pairwise_append.mp sorted
  obtain ⟨sortedMid, sortedPost, acrossMid⟩ := List.pairwise_append.mp sortedRest
  have fromHead {l : List (RegistryBucket ν)} (rising : l.Pairwise fun a b => a.key < b.key)
      (mem : b ∈ l) : ∃ c ∈ l.head?, c.key ≤ b.key := by
    cases l with
    | nil => cases mem
    | cons c l =>
        refine ⟨c, rfl, ?_⟩
        rcases List.mem_cons.mp mem with rfl | later
        · exact UInt32.le_refl _
        · exact UInt32.le_of_lt ((List.pairwise_cons.mp rising).1 b later)
  constructor
  · intro within
    obtain ⟨⟨c, first, above⟩, below⟩ := within
    rw [arr, List.append_assoc] at mem
    rcases List.mem_append.mp mem with inPre | inRest
    · have less := acrossPre b inPre c (List.mem_of_head? first)
      exact absurd (UInt32.lt_of_lt_of_le less above) (UInt32.lt_irrefl _)
    · apply (List.mem_append.mp inRest).resolve_right
      intro inPost
      obtain ⟨d, first', above'⟩ := fromHead sortedPost inPost
      exact absurd (UInt32.lt_of_lt_of_le (below d first') above') (UInt32.lt_irrefl _)
  · intro inMid
    refine ⟨fromHead sortedRest (List.mem_append_left _ inMid), fun d first => ?_⟩
    exact acrossMid b inMid d (List.mem_of_head? first)

theorem entries_kill {pre mid post : List (RegistryBucket ν)} (sz cap : Nat) (keyId : UInt64)
    (sorted : reg.arr.Pairwise fun a b => a.key < b.key) (arr : reg.arr = pre ++ mid ++ post) :
    (⟨pre ++ mid.map kill ++ post, sz, cap, keyId⟩ : AssocReg ν).entries =
      reg.entries.filter fun e => ¬reg.InRange pre.length (pre.length + mid.length) e.1 := by
  have split : reg.arr.filter (fun b => b.hasValue &&
      !decide (reg.InRange pre.length (pre.length + mid.length) b.key)) =
      valued pre ++ valued post := by
    have apart : ∀ b ∈ pre ++ post, b ∉ mid := by
      intro b mem inMid
      rw [arr, List.append_assoc] at sorted
      obtain ⟨-, sortedRest, acrossPre⟩ := List.pairwise_append.mp sorted
      rcases List.mem_append.mp mem with inPre | inPost
      · exact UInt32.lt_irrefl _ (acrossPre b inPre b (List.mem_append_left _ inMid))
      · exact UInt32.lt_irrefl _ ((List.pairwise_append.mp sortedRest).2.2 b inMid b inPost)
    have keep {l : List (RegistryBucket ν)} (sub : l ⊆ pre ++ post) :
        l.filter (fun b => b.hasValue &&
          !decide (reg.InRange pre.length (pre.length + mid.length) b.key)) = valued l := by
      apply List.filter_congr
      intro b mem
      have listed : b ∈ reg.arr := by
        have := sub mem
        rw [arr]
        simp only [List.mem_append] at this ⊢
        tauto
      simp [inRange_iff sorted arr listed, apart b (sub mem)]
    have drop : mid.filter (fun b => b.hasValue &&
        !decide (reg.InRange pre.length (pre.length + mid.length) b.key)) = [] := by
      apply List.filter_eq_nil_iff.mpr
      intro b mem
      have listed : b ∈ reg.arr := by simp [arr, mem]
      simp [inRange_iff sorted arr listed, mem]
    rw [arr, List.filter_append, List.filter_append, keep (List.subset_append_left _ _), drop,
      keep (List.subset_append_right _ _), List.append_nil]
  have dead : valued (mid.map kill) = [] := by simp [valued]
  rw [entries, entries, valued, valued, List.filter_append, List.filter_append, ← valued, ← valued,
    ← valued, dead, List.append_nil, ← split, List.filter_map, List.filter_filter]
  simp [Bool.and_comm]

/-- Compacting and shrinking drop dead buckets at most. -/
theorem tidied (reg : AssocReg ν) :
    reg.compactIfNecessary.shrinkIfNecessary.keyId = reg.keyId ∧
      reg.compactIfNecessary.shrinkIfNecessary.arr.length ≤ reg.arr.length := by
  have fewer : (valued reg.arr).length ≤ reg.arr.length := List.length_filter_le _ _
  rw [shrinkIfNecessary_eq, compactIfNecessary_eq]
  split <;> split <;> simp [valued_idem, fewer]

/-- Erasing a range takes out the entries of its keys, and no others. -/
theorem eraseRange_ok (ordered : reg.Ordered) (iterStart : reg.IsIter start)
    (iterStop : reg.IsIter stop) (le : start ≤ stop) :
    ∃ reg', reg.eraseRange start stop = .ok reg' ∧ reg'.Ordered ∧ reg'.keyId = reg.keyId ∧
      reg'.arr.length ≤ reg.arr.length ∧
      reg'.entries = reg.entries.filter fun e => ¬reg.InRange start stop e.1 := by
  by_cases same : start = stop
  · subst same
    refine ⟨reg, if_pos rfl, ordered, rfl, Nat.le_refl _, ?_⟩
    rw [List.filter_eq_self.mpr]
    intro e mem
    simp only [decide_not, Bool.not_eq_true', decide_eq_false_iff_not]
    intro within
    obtain ⟨⟨b, here, above⟩, below⟩ := within
    exact UInt32.lt_irrefl _ (UInt32.lt_of_lt_of_le (below b here) above)
  · have inside : stop ≤ reg.arr.length := by
      rcases iterStop with rfl | ⟨b, here, -⟩
      · exact Nat.le_refl _
      · exact Nat.le_of_lt (List.getElem?_eq_some_iff.mp here).1
    obtain ⟨pre, mid, post, arr, rfl, rfl, first, last⟩ := cut_range iterStart iterStop le inside
    have length := congrArg List.length arr
    simp only [List.length_append] at length
    have looped := eraseLoop_ok arr (Nat.le_of_add_right_le (k := pre.length + post.length)
      (by omega : mid.length + (pre.length + post.length) ≤ reg.arr.length)) first last
    have keys : (pre ++ mid.map kill ++ post).map RegistryBucket.key =
        reg.arr.map RegistryBucket.key := by
      simp [arr, Function.comp_def]
    have goes : reg.eraseRange pre.length (pre.length + mid.length) =
        .ok ({ reg with
          arr := pre ++ mid.map kill ++ post
          sz := reg.sz - mid.countP RegistryBucket.hasValue
          } : AssocReg ν).compactIfNecessary.shrinkIfNecessary := by
      rw [eraseRange, if_neg same, check_pass _ (by omega), ok_bind, looped]
      rfl
    refine ⟨_, goes, (Erased.compact ?_).shrink, (tidied _).1, ?_, ?_⟩
    · refine ⟨sorted_of_keys keys ordered.sorted, below_of_keys keys ordered.below, ?_,
        ordered.doubled, ?_⟩
      · have room := ordered.room
        simp only [List.length_append, List.length_map]
        omega
      · have none : (mid.map kill).countP RegistryBucket.hasValue = 0 := by simp
        rw [ordered.counted, arr]
        simp only [List.countP_append, none]
        omega
    · refine Nat.le_trans (tidied _).2 ?_
      simp only [List.length_append, List.length_map]
      omega
    · rw [entries_shrink, entries_compact, entries_kill _ _ _ ordered.sorted arr]

theorem removeIf_eq (f : ν → Bool) (arr : List (RegistryBucket ν)) :
    removeIf f arr = (arr.map fun b => if Taken f b then kill b else b,
      (arr.filter fun b => Taken f b).map RegistryBucket.key) := by
  induction arr with
  | nil => rfl
  | cons b rest ih =>
      simp only [removeIf, ih]
      by_cases taken : Taken f b <;> simp [taken]

/-- `remove_if_range_reg` takes out the entries whose value satisfies the predicate, and
    returns their keys in order. -/
theorem removeIfRangeReg_spec (ordered : reg.Ordered) (f : ν → Bool) :
    (reg.removeIfRangeReg f).1.Ordered ∧ (reg.removeIfRangeReg f).1.keyId = reg.keyId ∧
      (reg.removeIfRangeReg f).1.arr.length ≤ reg.arr.length ∧
      (reg.removeIfRangeReg f).1.entries = (reg.entries.filter fun e => ¬f e.2) ∧
      (reg.removeIfRangeReg f).2 = (reg.entries.filter fun e => f e.2).map Prod.fst := by
  have keys : (reg.arr.map fun b => if Taken f b then kill b else b).map RegistryBucket.key =
      reg.arr.map RegistryBucket.key := by
    rw [List.map_map]
    apply List.map_congr_left
    intro b mem
    simp only [Function.comp_apply]
    split <;> rfl
  have rest : valued (reg.arr.map fun b => if Taken f b then kill b else b) =
      reg.arr.filter fun b => b.hasValue && !f b.val := by
    generalize reg.arr = arr
    induction arr with
    | nil => rfl
    | cons b arr ih =>
        simp only [valued, List.map_cons, List.filter_cons] at ih ⊢
        by_cases taken : Taken f b
        · simp [taken, taken.1, taken.2, ih]
        · by_cases live : b.hasValue
          · have holds : f b.val = false := by simpa [Taken, live] using taken
            simp [taken, live, holds, ih]
          · simp [taken, live, ih]
  simp only [removeIfRangeReg, removeIf_eq]
  refine ⟨(Erased.compact ?_).shrink, (tidied _).1, ?_, ?_, ?_⟩
  · refine ⟨sorted_of_keys keys ordered.sorted, below_of_keys keys ordered.below, ?_,
      ordered.doubled, ?_⟩
    · simpa using ordered.room
    · have parts := List.countP_eq_countP_filter_add reg.arr RegistryBucket.hasValue
        fun b => Taken f b
      have taken : (reg.arr.filter fun b => Taken f b).countP RegistryBucket.hasValue =
          (reg.arr.filter fun b => Taken f b).length := by
        apply List.countP_eq_length.mpr
        intro b mem
        simpa using (of_decide_eq_true (List.mem_filter.mp mem).2).1
      have left : (reg.arr.filter fun b => !decide (Taken f b)).countP RegistryBucket.hasValue =
          (valued (reg.arr.map fun b => if Taken f b then kill b else b)).length := by
        rw [rest, List.countP_eq_length_filter, List.filter_filter]
        congr 2
        funext b
        by_cases live : b.hasValue <;> by_cases holds : f b.val <;> simp [Taken, live, holds]
      rw [List.countP_eq_length_filter (l := reg.arr.map _), ← valued, ← left, List.length_map,
        ordered.counted, parts, taken, Nat.add_sub_cancel_left]
  · refine Nat.le_trans (tidied _).2 ?_
    simp
  · rw [entries_shrink, entries_compact, entries, entries, rest, List.filter_map, valued,
      List.filter_filter]
    congr 2
    funext b
    simp [Bool.and_comm]
  · rw [entries, List.filter_map, List.map_map, valued, List.filter_filter]
    congr 2
    funext b
    by_cases live : b.hasValue <;> by_cases holds : f b.val <;> simp [Taken, live, holds]

/-- The loop of `test_invariants_registry_hold`, after a bucket of key `last`. -/
def testKeys : Int → List (RegistryBucket ν) → Checked Unit
  | _, [] => pure ()
  | last, b :: rest => do
      check (last < b.key.toNat) regKeyOrder
      testKeys b.key.toNat rest

/-- `test_invariants_registry_hold`, whose counter has 32 bits. -/
def testInvariantsRegistryHold (reg : AssocReg ν) : Checked Unit := do
  check (reg.arr.length ≤ reg.cap) regCapacity
  check (reg.sz ≤ reg.cap) regCapacity
  testKeys (-1) reg.arr
  check (reg.arr.countP RegistryBucket.hasValue % 2 ^ 32 = reg.sz) regCounter

theorem testKeys_ok {last : Int} {arr : List (RegistryBucket ν)}
    (sorted : arr.Pairwise fun a b => a.key < b.key) (above : ∀ b ∈ arr, last < b.key.toNat) :
    testKeys last arr = .ok () := by
  induction arr generalizing last with
  | nil => rfl
  | cons b rest ih =>
      obtain ⟨later, sorted⟩ := List.pairwise_cons.mp sorted
      rw [testKeys, check_pass _ (above b (by simp)), ok_bind]
      apply ih sorted
      intro c mem
      exact Int.ofNat_lt.mpr (UInt32.lt_iff_toNat_lt.mp (later c mem))

theorem testInvariantsRegistryHold_ok (ordered : reg.Ordered) (few : reg.sz < 2 ^ 32) :
    reg.testInvariantsRegistryHold = .ok () := by
  have counter : reg.arr.countP RegistryBucket.hasValue % 2 ^ 32 = reg.sz := by
    rw [← ordered.counted, Nat.mod_eq_of_lt few]
  rw [testInvariantsRegistryHold, check_pass _ (Nat.le_of_lt ordered.room), ok_bind,
    check_pass _ (Nat.le_of_lt ordered.sz_lt), ok_bind,
    testKeys_ok ordered.sorted fun b _ => by omega, ok_bind, check_pass _ counter]

end AssocReg

end FlexRic
