import FlexRic.Library.Checked
import Mathlib.Data.List.Forall2

/-! # Translations there and back

An encoder refuses what it cannot write, and a decoder what it did not expect. A
value returns from the two as what the decoder makes of it; lists and optional
values return when their items do.
-/

namespace FlexRic

universe u

variable {ε : Type*} {α β γ : Type u}

/-- What the encoder makes of the value, the decoder takes for `back`. -/
def Returns (enc : α → Except ε β) (dec : β → Except ε γ) (a : α) (back : γ) : Prop :=
  ∀ b, enc a = .ok b → dec b = .ok back

variable {enc : α → Except ε β} {dec : β → Except ε γ} {back : α → γ}

@[simp] theorem map_eq_ok {f : α → β} {x : Except ε α} {b : β} :
    f <$> x = .ok b ↔ ∃ a, x = .ok a ∧ f a = b := by
  cases x <;> simp [Functor.map, Except.map]

@[simp] theorem check_true (e : ε) : check True e = .ok () := rfl

@[simp] theorem mapM_nil_ok (f : α → Except ε β) : [].mapM f = .ok [] := rfl

theorem mapM_cons_eq_ok {f : α → Except ε β} {a : α} {as : List α} {bs : List β} :
    (a :: as).mapM f = .ok bs ↔
      ∃ b rest, f a = .ok b ∧ as.mapM f = .ok rest ∧ b :: rest = bs := by
  simp only [List.mapM_cons, bind_eq_ok, pure_eq_ok]
  grind

theorem mapM_cons_ok {f : α → Except ε β} {a : α} {as : List α} {b : β} {bs : List β}
    (here : f a = .ok b) (there : as.mapM f = .ok bs) : (a :: as).mapM f = .ok (b :: bs) :=
  mapM_cons_eq_ok.mpr ⟨b, bs, here, there, rfl⟩

theorem length_of_mapM {f : α → Except ε β} {as : List α} {bs : List β}
    (mapped : as.mapM f = .ok bs) : bs.length = as.length := by
  induction as generalizing bs with
  | nil =>
      cases mapped
      rfl
  | cons a as ih =>
      obtain ⟨b, rest, -, there, rfl⟩ := mapM_cons_eq_ok.mp mapped
      rw [List.length_cons, List.length_cons, ih there]

theorem eq_nil_of_mapM {f : α → Except ε β} {as : List α} {bs : List β}
    (mapped : as.mapM f = .ok bs) : bs = [] ↔ as = [] := by
  rw [← List.length_eq_zero_iff, length_of_mapM mapped, List.length_eq_zero_iff]

/-- A list is translated to one with related items when each of its items is. -/
theorem mapM_related_iff {f : α → Except ε β} {Related : α → β → Prop} {as : List α} :
    (∃ bs, as.mapM f = .ok bs ∧ List.Forall₂ Related as bs) ↔
      ∀ a ∈ as, ∃ b, f a = .ok b ∧ Related a b := by
  induction as with
  | nil => simp
  | cons a as ih =>
      rw [List.forall_mem_cons, ← ih]
      constructor
      · rintro ⟨_, mapped, related⟩
        obtain ⟨b, bs, here, there, rfl⟩ := mapM_cons_eq_ok.mp mapped
        obtain ⟨first, others⟩ := List.forall₂_cons.mp related
        exact ⟨⟨b, here, first⟩, bs, there, others⟩
      · rintro ⟨⟨b, here, first⟩, bs, there, others⟩
        exact ⟨b :: bs, mapM_cons_ok here there, .cons first others⟩

/-- Where each item can only be translated in one way, so can the list. -/
theorem eq_map_of_mapM {f : α → Except ε β} {g : α → β} {as : List α} {bs : List β}
    (mapped : as.mapM f = .ok bs) (each : ∀ a ∈ as, ∀ b, f a = .ok b → g a = b) :
    as.map g = bs := by
  induction as generalizing bs with
  | nil =>
      cases mapped
      rfl
  | cons a as ih =>
      obtain ⟨b, rest, here, there, rfl⟩ := mapM_cons_eq_ok.mp mapped
      have others := ih there fun a mem => each a (List.mem_cons_of_mem _ mem)
      rw [List.map_cons, each a List.mem_cons_self b here, others]

theorem exists_of_mapM {f : α → Except ε β} {as : List α} {bs : List β} {b : β}
    (mapped : as.mapM f = .ok bs) (mem : b ∈ bs) : ∃ a ∈ as, f a = .ok b := by
  induction as generalizing bs with
  | nil =>
      cases mapped
      cases mem
  | cons a as ih =>
      obtain ⟨c, rest, here, there, rfl⟩ := mapM_cons_eq_ok.mp mapped
      rcases List.mem_cons.mp mem with rfl | mem
      · exact ⟨a, List.mem_cons_self, here⟩
      · obtain ⟨a, mem, here⟩ := ih there mem
        exact ⟨a, List.mem_cons_of_mem _ mem, here⟩

/-- Two translations of a list are one translation in two steps. -/
theorem mapM_comp_eq_ok {f : α → Except ε β} {g : β → Except ε γ} {as : List α} {cs : List γ} :
    (∃ bs, as.mapM f = .ok bs ∧ bs.mapM g = .ok cs) ↔ as.mapM (fun a => f a >>= g) = .ok cs := by
  induction as generalizing cs with
  | nil => simp
  | cons a as ih =>
      simp only [mapM_cons_eq_ok, ← ih, bind_eq_ok]
      constructor
      · rintro ⟨_, ⟨b, rest, here, there, rfl⟩, translated⟩
        obtain ⟨c, others, first, second, rfl⟩ := mapM_cons_eq_ok.mp translated
        exact ⟨c, others, ⟨b, here, first⟩, ⟨rest, there, second⟩, rfl⟩
      · rintro ⟨c, others, ⟨b, here, first⟩, ⟨rest, there, second⟩, rfl⟩
        exact ⟨b :: rest, ⟨b, rest, here, there, rfl⟩, mapM_cons_ok first second⟩

/-- A translation that does no more than check its item leaves a list as it is. -/
theorem mapM_checked {f : α → Except ε α} {P : α → Prop}
    (each : ∀ {a b}, f a = .ok b ↔ P a ∧ a = b) {as bs : List α} :
    as.mapM f = .ok bs ↔ (∀ a ∈ as, P a) ∧ as = bs := by
  induction as generalizing bs with
  | nil => simp
  | cons a as ih =>
      simp only [mapM_cons_eq_ok, each, ih, List.forall_mem_cons]
      constructor
      · rintro ⟨_, _, ⟨here, rfl⟩, ⟨there, rfl⟩, rfl⟩
        exact ⟨⟨here, there⟩, rfl⟩
      · rintro ⟨⟨here, there⟩, rfl⟩
        exact ⟨a, as, ⟨here, rfl⟩, ⟨there, rfl⟩, rfl⟩

/-- A list is translated when each of its items is. -/
theorem mapM_completes {f : α → Except ε β} {as : List α} (each : ∀ a ∈ as, ∃ b, f a = .ok b) :
    ∃ bs, as.mapM f = .ok bs := by
  induction as with
  | nil => exact ⟨[], rfl⟩
  | cons a as ih =>
      obtain ⟨b, here⟩ := each a List.mem_cons_self
      obtain ⟨bs, there⟩ := ih fun a mem => each a (List.mem_cons_of_mem _ mem)
      exact ⟨b :: bs, mapM_cons_ok here there⟩

theorem Returns.mapM {as : List α} (each : ∀ a ∈ as, Returns enc dec a (back a)) :
    Returns (·.mapM enc) (·.mapM dec) as (as.map back) := by
  intro bs mapped
  induction as generalizing bs with
  | nil =>
      cases mapped
      rfl
  | cons a as ih =>
      obtain ⟨b, rest, here, there, rfl⟩ := mapM_cons_eq_ok.mp mapped
      exact mapM_cons_ok (each a List.mem_cons_self b here)
        (ih (fun a mem => each a (List.mem_cons_of_mem _ mem)) rest there)

/-- What a list was translated to comes back item by item. -/
theorem mapM_back {as : List α} {bs : List β} (mapped : as.mapM enc = .ok bs)
    (each : ∀ a ∈ as, Returns enc dec a (back a)) : bs.mapM dec = .ok (as.map back) :=
  Returns.mapM each bs mapped

/-- A list comes back just when each of its items does. -/
theorem list_kept_iff_of_mem {dec : β → Except ε α} {Kept : α → Prop} {as : List α}
    (kept : ∀ a ∈ as, (enc a >>= dec) = .ok a ↔ Kept a) :
    (∃ bs, as.mapM enc = .ok bs ∧ bs.mapM dec = .ok as) ↔ ∀ a ∈ as, Kept a := by
  rw [mapM_comp_eq_ok]
  induction as with
  | nil => simp
  | cons a as ih =>
      rw [List.forall_mem_cons, ← kept a List.mem_cons_self,
        ← ih fun b mem => kept b (List.mem_cons_of_mem _ mem), mapM_cons_eq_ok]
      constructor
      · rintro ⟨_, _, here, there, same⟩
        obtain ⟨rfl, rfl⟩ := List.cons.inj same
        exact ⟨here, there⟩
      · rintro ⟨here, there⟩
        exact ⟨a, as, here, there, rfl⟩

theorem list_kept_iff {dec : β → Except ε α} {Kept : α → Prop} {as : List α}
    (kept : ∀ a, (enc a >>= dec) = .ok a ↔ Kept a) :
    (∃ bs, as.mapM enc = .ok bs ∧ bs.mapM dec = .ok as) ↔ ∀ a ∈ as, Kept a :=
  list_kept_iff_of_mem fun a _ => kept a

section
variable {α β : Type} {enc : α → Except ε β}

/-- The translation of a list whose length is checked. -/
def mapMWithin (least most : Nat) (e : ε) (f : α → Except ε β) (as : List α) :
    Except ε (List β) := do
  check (least ≤ as.length ∧ as.length ≤ most) e
  as.mapM f

theorem within_eq_ok {least most : Nat} {e : ε} {f : α → Except ε β} {as : List α} {bs : List β} :
    mapMWithin least most e f as = .ok bs ↔
      (least ≤ as.length ∧ as.length ≤ most) ∧ as.mapM f = .ok bs := by
  simp only [mapMWithin, bind_eq_ok, check_eq_ok, exists_const]

/-- Where the decoder alone checks the length. -/
theorem counted_kept_iff_of_mem {least most : Nat} {e : ε} {dec : β → Except ε α}
    {Kept : α → Prop} {as : List α} (kept : ∀ a ∈ as, (enc a >>= dec) = .ok a ↔ Kept a) :
    (∃ bs, as.mapM enc = .ok bs ∧ mapMWithin least most e dec bs = .ok as) ↔
      (least ≤ as.length ∧ as.length ≤ most) ∧ ∀ a ∈ as, Kept a := by
  simp only [within_eq_ok, ← list_kept_iff_of_mem kept]
  constructor
  · rintro ⟨bs, taken, range, back⟩
    rw [length_of_mapM taken] at range
    exact ⟨range, bs, taken, back⟩
  · rintro ⟨range, bs, taken, back⟩
    refine ⟨bs, taken, ?_, back⟩
    rwa [length_of_mapM taken]

/-- The two sides may check the length against bounds of their own. -/
theorem withins_kept_iff {least most least' most' : Nat} {e e' : ε} {dec : β → Except ε α}
    {Kept : α → Prop} {as : List α} (kept : ∀ a, (enc a >>= dec) = .ok a ↔ Kept a) :
    (∃ bs, mapMWithin least most e enc as = .ok bs ∧ mapMWithin least' most' e' dec bs = .ok as) ↔
      (least ≤ as.length ∧ as.length ≤ most) ∧ (least' ≤ as.length ∧ as.length ≤ most') ∧
        ∀ a ∈ as, Kept a := by
  rw [← counted_kept_iff_of_mem (e := e') fun a _ => kept a]
  simp only [within_eq_ok, and_assoc, exists_and_left]

theorem within_kept_iff {least most : Nat} {e : ε} {dec : β → Except ε α} {Kept : α → Prop}
    {as : List α} (kept : ∀ a, (enc a >>= dec) = .ok a ↔ Kept a) :
    (∃ bs, mapMWithin least most e enc as = .ok bs ∧ mapMWithin least most e dec bs = .ok as) ↔
      (least ≤ as.length ∧ as.length ≤ most) ∧ ∀ a ∈ as, Kept a :=
  (withins_kept_iff kept).trans and_self_left

/-- The translation of a list that may not be empty. -/
def mapMSome (e : ε) (f : α → Except ε β) (as : List α) : Except ε (List β) := do
  check (0 < as.length) e
  as.mapM f

/-- Where the encoder checks the least length alone. -/
theorem some_kept_iff {least most : Nat} {e e' : ε} {dec : β → Except ε α} {Kept : α → Prop}
    {as : List α} (kept : ∀ a, (enc a >>= dec) = .ok a ↔ Kept a) (positive : 1 ≤ least) :
    (∃ bs, mapMSome e enc as = .ok bs ∧ mapMWithin least most e' dec bs = .ok as) ↔
      (least ≤ as.length ∧ as.length ≤ most) ∧ ∀ a ∈ as, Kept a := by
  rw [← counted_kept_iff_of_mem (e := e') fun a _ => kept a]
  simp only [mapMSome, bind_eq_ok, check_eq_ok, exists_const]
  constructor
  · rintro ⟨bs, ⟨-, taken⟩, back⟩
    exact ⟨bs, taken, back⟩
  · rintro ⟨bs, taken, back⟩
    have count := (within_eq_ok.mp back).1.1
    rw [length_of_mapM taken] at count
    exact ⟨bs, ⟨Nat.lt_of_lt_of_le positive count, taken⟩, back⟩

/-- A list that is left out when it is empty. -/
def orNull (encs : List α → Except ε (List β)) (as : List α) : Except ε (Option (List β)) := do
  let bs ← encs as
  pure (if as.isEmpty then none else some bs)

/-- What is left out is read as empty. -/
def fromNull (decs : List β → Except ε (List α)) : Option (List β) → Except ε (List α)
  | none => pure []
  | some bs => decs bs

theorem orNull_back_iff {encs : List α → Except ε (List β)} {decs : List β → Except ε (List α)}
    {as : List α} (nothing : ∃ bs, encs [] = .ok bs) :
    (∃ o, orNull encs as = .ok o ∧ fromNull decs o = .ok as) ↔
      (as ≠ [] → ∃ bs, encs as = .ok bs ∧ decs bs = .ok as) := by
  cases as with
  | nil =>
      obtain ⟨bs, taken⟩ := nothing
      refine iff_of_true ⟨none, ?_, rfl⟩ fun filled => (filled rfl).elim
      exact bind_eq_ok.mpr ⟨bs, taken, rfl⟩
  | cons a as =>
      simp only [orNull, bind_eq_ok, List.isEmpty_cons, pure_eq_ok]
      constructor
      · rintro ⟨_, ⟨bs, taken, rfl⟩, back⟩ -
        exact ⟨bs, taken, back⟩
      · intro filled
        obtain ⟨bs, taken, back⟩ := filled (List.cons_ne_nil a as)
        exact ⟨some bs, ⟨bs, taken, rfl⟩, back⟩

/-- Where nothing comes back from nothing, it does not matter that it is left out. -/
theorem orNull_kept_iff {encs : List α → Except ε (List β)} {decs : List β → Except ε (List α)}
    {as : List α} {Kept : Prop} (nothing : ∃ bs, encs [] = .ok bs) (empty : as = [] → Kept)
    (filled : (∃ bs, encs as = .ok bs ∧ decs bs = .ok as) ↔ Kept) :
    (∃ o, orNull encs as = .ok o ∧ fromNull decs o = .ok as) ↔ Kept := by
  rw [orNull_back_iff nothing, filled]
  constructor
  · intro kept
    by_cases bare : as = []
    · exact empty bare
    · exact kept bare
  · intro kept _
    exact kept

section
variable {dec : β → Except ε α} {Kept : α → Prop} {most most' : Nat} {e e' : ε} {as : List α}
  (kept : ∀ a, (enc a >>= dec) = .ok a ↔ Kept a)
include kept

theorem orNull_list_kept_iff :
    (∃ o, orNull (·.mapM enc) as = .ok o ∧ fromNull (·.mapM dec) o = .ok as) ↔
      ∀ a ∈ as, Kept a := by
  refine orNull_kept_iff ⟨[], rfl⟩ ?_ (list_kept_iff kept)
  rintro rfl
  exact List.forall_mem_nil _

theorem orNull_counted_kept_iff :
    (∃ o, orNull (·.mapM enc) as = .ok o ∧ fromNull (mapMWithin 0 most e dec) o = .ok as) ↔
      as.length ≤ most ∧ ∀ a ∈ as, Kept a := by
  refine orNull_kept_iff ⟨[], rfl⟩ ?_ ?_
  · rintro rfl
    exact ⟨Nat.zero_le _, List.forall_mem_nil _⟩
  · rw [counted_kept_iff_of_mem fun a _ => kept a]
    exact and_congr_left fun _ => and_iff_right (Nat.zero_le _)

theorem orNull_withins_kept_iff :
    (∃ o, orNull (mapMWithin 0 most e enc) as = .ok o ∧
      fromNull (mapMWithin 0 most' e' dec) o = .ok as) ↔
      as.length ≤ most ∧ as.length ≤ most' ∧ ∀ a ∈ as, Kept a := by
  refine orNull_kept_iff ⟨[], rfl⟩ ?_ ?_
  · rintro rfl
    exact ⟨Nat.zero_le _, Nat.zero_le _, List.forall_mem_nil _⟩
  · rw [withins_kept_iff kept]
    simp only [Nat.zero_le, true_and]

theorem orNull_within_kept_iff :
    (∃ o, orNull (mapMWithin 0 most e enc) as = .ok o ∧
      fromNull (mapMWithin 0 most e' dec) o = .ok as) ↔
      as.length ≤ most ∧ ∀ a ∈ as, Kept a :=
  (orNull_withins_kept_iff kept).trans and_self_left

/-- Where the encoder alone checks the length. -/
theorem orNull_checked_kept_iff :
    (∃ o, orNull (mapMWithin 0 most e enc) as = .ok o ∧ fromNull (·.mapM dec) o = .ok as) ↔
      as.length ≤ most ∧ ∀ a ∈ as, Kept a := by
  refine orNull_kept_iff ⟨[], rfl⟩ ?_ ?_
  · rintro rfl
    exact ⟨Nat.zero_le _, List.forall_mem_nil _⟩
  · simp only [within_eq_ok, Nat.zero_le, true_and, and_assoc, exists_and_left,
      list_kept_iff kept]

end

end

@[simp] theorem mapM_none_ok (f : α → Except ε β) : (none : Option α).mapM f = .ok none := rfl

theorem mapM_some_eq_ok {f : α → Except ε β} {a : α} {o : Option β} :
    (some a).mapM f = .ok o ↔ ∃ b, f a = .ok b ∧ some b = o := by
  change (some <$> f a) = .ok o ↔ _
  cases fa : f a <;> simp [Functor.map, Except.map]

theorem optional_completes {f : α → Except ε β} {o : Option α}
    (each : ∀ a, o = some a → ∃ b, f a = .ok b) : ∃ p, o.mapM f = .ok p := by
  cases o with
  | none => exact ⟨none, rfl⟩
  | some a =>
      obtain ⟨b, here⟩ := each a rfl
      exact ⟨some b, mapM_some_eq_ok.mpr ⟨b, here, rfl⟩⟩

theorem optional_back {o : Option α} {p : Option β} (mapped : o.mapM enc = .ok p)
    (each : ∀ a, o = some a → Returns enc dec a (back a)) : p.mapM dec = .ok (o.map back) := by
  cases o with
  | none =>
      cases mapped
      rfl
  | some a =>
      obtain ⟨b, here, rfl⟩ := mapM_some_eq_ok.mp mapped
      exact mapM_some_eq_ok.mpr ⟨back a, each a rfl b here, rfl⟩

/-- An optional value comes back just when the value does that is there. -/
theorem optional_back_iff {dec : β → Except ε α} {o : Option α} :
    (o.mapM enc >>= fun p => p.mapM dec) = .ok o ↔ ∀ a, o = some a → (enc a >>= dec) = .ok a := by
  cases o with
  | none => exact iff_of_true rfl nofun
  | some a =>
      simp only [bind_eq_ok, mapM_some_eq_ok, Option.some.injEq, forall_eq']
      constructor
      · rintro ⟨_, ⟨b, taken, rfl⟩, back⟩
        obtain ⟨a', read, same⟩ := mapM_some_eq_ok.mp back
        exact ⟨b, taken, Option.some.inj same ▸ read⟩
      · rintro ⟨b, taken, read⟩
        exact ⟨some b, ⟨b, taken, rfl⟩, mapM_some_eq_ok.mpr ⟨a, read, rfl⟩⟩

theorem optional_kept_iff {dec : β → Except ε α} {Kept : α → Prop} {o : Option α}
    (kept : ∀ a, (enc a >>= dec) = .ok a ↔ Kept a) :
    (∃ p, o.mapM enc = .ok p ∧ p.mapM dec = .ok o) ↔ ∀ a ∈ o, Kept a := by
  rw [← bind_eq_ok, optional_back_iff]
  exact forall₂_congr fun a _ => kept a

theorem optional_map_kept_iff {enc : α → β} {dec : β → Except ε α} {Kept : α → Prop} {o : Option α}
    (kept : ∀ a, dec (enc a) = .ok a ↔ Kept a) :
    (o.map enc).mapM dec = .ok o ↔ ∀ a ∈ o, Kept a := by
  cases o with
  | none => exact iff_of_true rfl nofun
  | some a =>
      rw [Option.map_some, mapM_some_eq_ok]
      constructor
      · rintro ⟨_, back, same⟩ b mem
        cases same
        cases mem
        exact (kept a).mp back
      · intro each
        exact ⟨a, (kept a).mpr (each a rfl), rfl⟩

theorem map_map_self_iff {enc : α → β} {dec : β → α} {as : List α} :
    (as.map enc).map dec = as ↔ ∀ a ∈ as, dec (enc a) = a := by
  rw [List.map_map]
  constructor
  · intro same
    exact List.map_inj_left.mp (same.trans (List.map_id as).symm)
  · intro each
    exact (List.map_inj_left.mpr each).trans (List.map_id as)

/-- A value under a constructor comes back just when the value does. -/
theorem map_back_iff {δ η : Type u} (enc : α → Except ε β) (dec : β → Except ε α) (wrap : β → δ)
    (unwrap : δ → Except ε η) (inject : α → η) {a : α}
    (unwraps : ∀ b, unwrap (wrap b) = inject <$> dec b) (injective : Function.Injective inject) :
    (wrap <$> enc a >>= unwrap) = .ok (inject a) ↔ (enc a >>= dec) = .ok a := by
  simp only [bind_eq_ok, map_eq_ok]
  constructor
  · rintro ⟨_, ⟨b, taken, rfl⟩, back⟩
    rw [unwraps, map_eq_ok] at back
    obtain ⟨a', back, same⟩ := back
    exact ⟨b, taken, injective same ▸ back⟩
  · rintro ⟨b, taken, back⟩
    refine ⟨_, ⟨b, taken, rfl⟩, ?_⟩
    rw [unwraps, map_eq_ok]
    exact ⟨a, back, rfl⟩

section
variable {σ ι : Type u} {step : σ → ι → Except ε σ}

theorem foldlM_append_ok {xs ys : List ι} {s t : σ} (first : xs.foldlM step s = .ok t) :
    (xs ++ ys).foldlM step s = ys.foldlM step t := by
  rw [List.foldlM_append, first, ok_bind]

theorem foldlM_cons_ok {x : ι} {xs : List ι} {s t : σ} (first : step s x = .ok t) :
    (x :: xs).foldlM step s = xs.foldlM step t := by
  rw [List.foldlM_cons, first, ok_bind]

/-- What every turn of a loop keeps holds after it. -/
theorem foldlM_keeps {Inv : σ → Prop} (keeps : ∀ s x t, Inv s → step s x = .ok t → Inv t)
    {xs : List ι} {s t : σ} (start : Inv s) (done : xs.foldlM step s = .ok t) : Inv t := by
  induction xs generalizing s with
  | nil =>
      cases done
      exact start
  | cons x xs ih =>
      rw [List.foldlM_cons] at done
      obtain ⟨next, first, rest⟩ := bind_eq_ok.mp done
      exact ih (keeps s x next start first) rest

/-- A loop takes up the element of a value that may be left out. -/
theorem foldlM_optional {element : α → ι} {o : Option α} {s t : σ} (absent : o = none → s = t)
    (present : ∀ a, o = some a → step s (element a) = .ok t) :
    (o.toList.map element).foldlM step s = .ok t := by
  cases o with
  | none =>
      rw [absent rfl]
      rfl
  | some a =>
      rw [Option.toList_some, List.map_singleton, foldlM_cons_ok (present a rfl)]
      rfl

end

end FlexRic
