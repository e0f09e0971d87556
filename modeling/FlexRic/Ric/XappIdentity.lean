import FlexRic.Ric.Routing

/-! # Who an xApp is

A setup hands out the next xApp id and files the id with the address of the
request. Requests carry the id, and `valid_xapp_id` compares it with the counter;
a disconnect comes with the address, and the id is looked up.

Ids start at 7 and only the id's side of the map is checked on insertion, and
nothing is ever taken out of it.
-/

namespace FlexRic

open Assertion

namespace Ric

variable {plugin : List UInt16} {s s' : Ric} {h : History} {e : RicEvent} {out : List Sent}

/-- The xApp ids that were handed out. -/
def handedOut (h : History) : List UInt16 := (registrations h).map Prod.fst

/-- The xApps that are there: the last one set up at each address, until that
    address disconnects. -/
def live : History → List (UInt16 × SctpInfo)
  | [] => []
  | x :: h =>
      match x.event with
      | .e42Setup _ info => x.output.filterMap registration ++
          (live h).filter fun p => ¬eqSctpInfo p.2 info
      | .xappShutdown info => (live h).filter fun p => ¬eqSctpInfo p.2 info
      | _ => live h

/-- The two look-ups are inverse for these xApps. -/
def LookupsInverse (s : Ric) (xapps : List (UInt16 × SctpInfo)) : Prop :=
  ∀ p ∈ xapps, findMapXappsSad s.iapp.xapps p.1 = .ok p.2 ∧
    findMapXappsXid s.iapp.xapps p.2 = .ok p.1

/-- What a disconnect is to do: the mappings of the address go, and no others,
    and the deletes are those of the subscriptions of the xApp that was there. -/
structure Departed (xapps : List (UInt16 × SctpInfo)) (s s' : Ric) (info : SctpInfo) : Prop where
  mappings : ∀ p, p ∈ s'.iapp.xapps.pairs ↔ p ∈ s.iapp.xapps.pairs ∧ ¬eqSctpInfo p.2 info
  subscriptions : ∃ p ∈ xapps, eqSctpInfo p.2 info ∧ ∀ d, d ∈ s'.deletes ↔
    ∃ n x, (n, x) ∈ s.iapp.mapRicId.pairs ∧ x.xappId = p.1 ∧ n.ricReqType = .subscription ∧
      d = ⟨n.e2NodeId, n.ricId⟩

/-- What an event of a run keeps, given the history before it. -/
def KeptAt (h : History) (x : Entry Ric RicEvent (List Sent)) : Prop :=
  (match x.event with
    | .e42Subscription _ req | .e42Control _ req => req.xappId ∈ handedOut h
    | .xappShutdown info => Departed (live h) x.before x.after info
    | _ => True) ∧ LookupsInverse x.after (live (x :: h))

def IdentityKept : History → Prop
  | [] => True
  | x :: h => KeptAt h x ∧ IdentityKept h

/-- The id is none of those below 7, nor the next one to be handed out; or the
    counter has wrapped around and passed it. -/
def SoundId (s : Ric) (id : UInt16) : Prop :=
  7 ≤ id.toNat ∧ id.toNat ≠ s.iapp.xappId.toNat ∨ id.toNat + 2 ^ 16 < s.iapp.xappId.toNat

instance (s : Ric) (id : UInt16) : Decidable (SoundId s id) :=
  inferInstanceAs (Decidable (_ ∨ _))

/-- The condition on the events of a run: no address sets up twice, no request
    carries an unsound id, and no xApp disconnects. -/
def IdentityOrderly (s : Ric) : RicEvent → Prop
  | .e42Setup _ info => ∀ p ∈ s.iapp.xapps.pairs, ¬eqSctpInfo p.2 info
  | .e42Subscription _ req | .e42Control _ req => SoundId s req.xappId
  | .xappShutdown _ => False
  | _ => True

instance (s : Ric) : (e : RicEvent) → Decidable (IdentityOrderly s e)
  | .e42Setup .. => inferInstanceAs (Decidable (∀ p ∈ _, _))
  | .e42Subscription _ req | .e42Control _ req => inferInstanceAs (Decidable (SoundId s req.xappId))
  | .xappShutdown _ => .isFalse id
  | .setupRequest .. | .ricMsg _ | .runTask _ | .nodeShutdown _ | .resumeShutdown | .timerFires _
  | .e42Delete .. | .forwardDelete _ => .isTrue trivial

/-- What a step does to the addresses and the counter: a setup takes the next
    id, and nothing else touches them. -/
theorem Step.identity_cases (step : Step s e s' out) :
    (∃ lenRf info, e = .e42Setup lenRf info ∧
      addMapXappsSad s.iapp.xapps s.iapp.xappId.toUInt16 info = .ok s'.iapp.xapps ∧
      s'.iapp.xappId = s.iapp.xappId + 1 ∧
      out.filterMap registration = [(s.iapp.xappId.toUInt16, info)]) ∨
    ((∀ lenRf info, e ≠ .e42Setup lenRf info) ∧ s'.iapp.xapps = s.iapp.xapps ∧
      s'.iapp.xappId = s.iapp.xappId ∧ out.filterMap registration = []) := by
  cases step with
  | e42Setup pos added => exact .inl ⟨_, _, rfl, added, rfl, rfl⟩
  | e42Subscription done =>
      cases done
      exact .inr ⟨by simp, rfl, rfl, rfl⟩
  | e42Control done =>
      cases done
      exact .inr ⟨by simp, rfl, rfl, rfl⟩
  | forwardDelete next forwarded =>
      rcases fwdRicSubscriptionRequestDelete_ok forwarded with ⟨-, rfl, -⟩ | ⟨-, -, _, -, rfl⟩
      · exact .inr ⟨by simp, rfl, rfl, rfl⟩
      · exact .inr ⟨by simp, rfl, rfl, rfl⟩
  | _ => exact .inr ⟨by simp, rfl, rfl, rfl⟩

theorem registrations_cons {x : Entry Ric RicEvent (List Sent)} :
    registrations (x :: h) = x.output.filterMap registration ++ registrations h := rfl

/-- The ids are `7`, `8` and so on, cut to 16 bits, and no id comes twice. -/
structure Numbered (s : Ric) (h : History) : Prop where
  counter : s.iapp.xappId.toNat = 7 + (registrations h).length
  few : (registrations h).length ≤ 2 ^ 16
  given : ∀ id, id ∈ handedOut h ↔
    ∃ i < (registrations h).length, id = UInt16.ofNat (7 + i)

theorem Numbered.next (inv : Numbered s h) :
    s.iapp.xappId.toUInt16 = UInt16.ofNat (7 + (registrations h).length) := by
  rw [← inv.counter, ← UInt16.toNat_inj]
  simp

theorem Numbered.mem_iff (inv : Numbered s h) (id : UInt16) :
    id ∈ handedOut h ↔ 7 ≤ id.toNat ∧ id.toNat < s.iapp.xappId.toNat ∨
      id.toNat + 2 ^ 16 < s.iapp.xappId.toNat := by
  have few := inv.few
  have bound := id.toNat_lt
  rw [inv.given, inv.counter]
  constructor
  · intro taken
    obtain ⟨i, lt, rfl⟩ := taken
    simp only [UInt16.toNat_ofNat']
    omega
  · rintro (⟨low, high⟩ | wrapped)
    · refine ⟨id.toNat - 7, by omega, ?_⟩
      rw [← UInt16.toNat_inj, UInt16.toNat_ofNat']
      omega
    · refine ⟨id.toNat + 2 ^ 16 - 7, by omega, ?_⟩
      rw [← UInt16.toNat_inj, UInt16.toNat_ofNat']
      omega

theorem Numbered.step (routed : Routed s h) (inv : Numbered s h) (step : Step s e s' out) :
    Numbered s' (⟨s, e, out, s'⟩ :: h) := by
  rcases step.identity_cases with ⟨lenRf, info, -, added, count, recorded⟩ |
    ⟨-, -, count, recorded⟩
  · have fresh : s.iapp.xappId.toUInt16 ∉ handedOut h := by
      intro taken
      obtain ⟨p, mem, same⟩ := List.mem_map.mp taken
      exact (addMapXappsSad_ok added).2 p ((routed.registered p).mp mem) same
    have few : (registrations h).length < 2 ^ 16 := by
      by_contra full
      have most : (registrations h).length = 2 ^ 16 := by have := inv.few; omega
      apply fresh
      rw [inv.given, inv.next, most]
      exact ⟨0, by omega, rfl⟩
    have counter := inv.counter
    constructor
    · rw [registrations_cons, recorded, count, UInt32.toNat_add, counter]
      simp
      omega
    · rw [registrations_cons, recorded]
      simp
      omega
    · intro id
      rw [handedOut, registrations_cons, recorded, List.map_append, List.mem_append,
        show (registrations h).map Prod.fst = handedOut h from rfl, inv.given]
      simp only [List.map_cons, List.map_nil, List.mem_singleton, List.length_append,
        List.length_singleton, inv.next]
      constructor
      · rintro (rfl | ⟨i, lt, rfl⟩)
        · exact ⟨_, by omega, rfl⟩
        · exact ⟨i, by omega, rfl⟩
      · intro taken
        obtain ⟨i, lt, rfl⟩ := taken
        by_cases last : i = (registrations h).length
        · exact .inl (by rw [last])
        · exact .inr ⟨i, by omega, rfl⟩
  · have same : registrations (⟨s, e, out, s'⟩ :: h) = registrations h := by
      rw [registrations_cons, recorded, List.nil_append]
    constructor
    · rw [same, count, inv.counter]
    · rw [same]
      exact inv.few
    · rw [handedOut, same]
      exact inv.given

theorem numbered_run (run : (machine plugin).Run s h) : Numbered s h := by
  induction run with
  | start => exact ⟨rfl, Nat.zero_le _, by simp [handedOut, registrations]⟩
  | next run enabled moved ih => exact ih.step (routed_run run) (step_cases enabled moved)

/-- Of the ids that are accepted, the sound ones are those that were handed out. -/
theorem Numbered.accepted_iff (inv : Numbered s h) (id : UInt16) :
    (validXappId s.iapp id → id ∈ handedOut h) ↔ SoundId s id := by
  have accepted : validXappId s.iapp id ↔ id.toNat ≤ s.iapp.xappId.toNat := by
    simp [validXappId, UInt32.le_iff_toNat_le]
  have low := inv.counter
  rw [accepted, inv.mem_iff, SoundId]
  omega

/-- No address has two ids, and whoever was set up is there. -/
structure Resident (s : Ric) (h : History) : Prop where
  inverse : s.iapp.xapps.Inverse
  apart : s.iapp.xapps.pairs.Pairwise (cmpSctpInfo.Apart Prod.snd)
  live : live h = registrations h

theorem findMapXappsXid_of_mem {m : MapXappsSad} (inverse : m.Inverse)
    (apart : m.pairs.Pairwise (cmpSctpInfo.Apart Prod.snd)) {id : UInt16} {info : SctpInfo}
    (mem : (id, info) ∈ m.pairs) : findMapXappsXid m info = .ok id := by
  unfold findMapXappsXid
  split
  · rename_i missed
    have none := AssocRbTree.findIf_none.mp missed _ (inverse.mem_right.mpr mem)
    exact absurd (eqSctpInfo_iff.mpr (.refl _ info)) none
  · rename_i info' id' found
    obtain ⟨mem', same⟩ := AssocRbTree.findIf_some found
    have ties := (eqSctpInfo_iff.mp same).symm
    cases Comparator.eq_of_ties apart mem (inverse.mem_right.mp mem') ties
    rfl

theorem findMapXappsXid_ok {m : MapXappsSad} {info : SctpInfo} {id : UInt16}
    (found : findMapXappsXid m info = .ok id) :
    ∃ info', (info', id) ∈ m.right.toList ∧ eqSctpInfo info' info := by
  unfold findMapXappsXid at found
  split at found
  · cases found
  · rename_i info' id' hit
    cases found
    exact ⟨info', AssocRbTree.findIf_some hit⟩

/-- After a second setup from one address, the address leads to the older id. -/
theorem findMapXappsXid_insert {m : MapXappsSad} (inverse : m.Inverse) {id : UInt16}
    {info : SctpInfo} {p : UInt16 × SctpInfo} (mem : p ∈ m.pairs) (same : eqSctpInfo p.2 info) :
    findMapXappsXid (m.insert id info) info = findMapXappsXid m info := by
  have older : (m.right.insert info id).findIf (fun s => eqSctpInfo s info) =
      m.right.findIf fun s => eqSctpInfo s info := by
    apply AssocRbTree.findIf_insert_of_ties _ (inverse.mem_right.mpr mem) same
    exact fun s tied => (eqSctpInfo_iff.mp tied).symm
  simp only [findMapXappsXid, BiMap.insert, older]

theorem Resident.lookups (routed : Routed s h) (inv : Resident s h) :
    LookupsInverse s (Ric.live h) := by
  rw [inv.live]
  intro p mem
  have stored := (routed.registered p).mp mem
  exact ⟨findMapXappsSad_of_mem routed.addresses stored,
    findMapXappsXid_of_mem inv.inverse inv.apart stored⟩

theorem Resident.step (routed : Routed s h) (inv : Resident s h) (step : Step s e s' out)
    (orderly : IdentityOrderly s e) : Resident s' (⟨s, e, out, s'⟩ :: h) := by
  rcases step.identity_cases with ⟨lenRf, info, rfl, added, -, recorded⟩ |
    ⟨other, same, -, recorded⟩
  · obtain ⟨xapps, fresh⟩ := addMapXappsSad_ok added
    refine ⟨xapps ▸ inv.inverse.insert _ _, ?_, ?_⟩
    · rw [xapps, (BiMap.pairs_insert _ _ _).pairwise_iff fun {_ _} => Comparator.Apart.symm,
        List.pairwise_cons]
      exact ⟨fun p mem ties => orderly p mem (eqSctpInfo_iff.mpr ties.symm), inv.apart⟩
    · have kept : (Ric.live h).filter (fun p => ¬eqSctpInfo p.2 info) = Ric.live h := by
        rw [List.filter_eq_self, inv.live]
        intro p mem
        simpa using orderly p ((routed.registered p).mp mem)
      rw [registrations_cons, ← inv.live]
      exact congrArg _ kept
  · refine ⟨same ▸ inv.inverse, same ▸ inv.apart, ?_⟩
    rw [registrations_cons, recorded, List.nil_append, ← inv.live]
    cases e with
    | e42Setup lenRf info => exact absurd rfl (other lenRf info)
    | xappShutdown info => exact orderly.elim
    | _ => rfl

theorem resident_run (run : (machine plugin).Run s h)
    (orderly : Machine.Meets IdentityOrderly h) : Resident s h := by
  induction run with
  | start => exact ⟨BiMap.inverse_init, List.Pairwise.nil, rfl⟩
  | next run enabled moved ih =>
      obtain ⟨here, earlier⟩ := Machine.meets_cons.mp orderly
      exact (ih earlier).step (routed_run run) (step_cases enabled moved) here

/-- A setup from a new address keeps the look-ups inverse; one from a known
    address does not, for the xApp that it sets up. -/
theorem setup_kept_iff (routed : Routed s h) (inv : Resident s h) {lenRf : Nat} {info : SctpInfo}
    (step : Step s (.e42Setup lenRf info) s' out) :
    KeptAt h ⟨s, .e42Setup lenRf info, out, s'⟩ ↔ IdentityOrderly s (.e42Setup lenRf info) := by
  constructor
  · intro kept p mem same
    rcases step.identity_cases with ⟨_, _, event, added, -, recorded⟩ | ⟨other, -⟩
    · cases event
      obtain ⟨xapps, fresh⟩ := addMapXappsSad_ok added
      have new : (s.iapp.xappId.toUInt16, info) ∈
          Ric.live (⟨s, .e42Setup lenRf info, out, s'⟩ :: h) := by
        simp [Ric.live, recorded]
      have older := (kept.2 _ new).2
      rw [xapps, findMapXappsXid_insert inv.inverse mem same] at older
      obtain ⟨info', stored, -⟩ := findMapXappsXid_ok older
      exact fresh _ (inv.inverse.mem_right.mp stored) rfl
    · exact other _ _ rfl
  · intro orderly
    exact ⟨trivial, (inv.step routed step orderly).lookups (routed.step step)⟩

/-- Whatever a disconnect does, the mapping of its address stays. -/
theorem shutdown_not_kept (inv : Resident s h) {info : SctpInfo}
    (step : Step s (.xappShutdown info) s' out) : ¬KeptAt h ⟨s, .xappShutdown info, out, s'⟩ := by
  intro kept
  cases step with
  | xappShutdown found =>
      obtain ⟨info', stored, same⟩ := findMapXappsXid_ok found
      have mem := inv.inverse.mem_right.mp stored
      exact ((kept.1.mappings _).mp mem).2 same

theorem requested_valid {type : RicReqType} {fd : Fd} {req : E42Request}
    (done : Requested type s fd req s' out) : validXappId s.iapp req.xappId := by
  cases done
  assumption

theorem kept_at_iff (run : (machine plugin).Run s h) (orderly : Machine.Meets IdentityOrderly h)
    (step : Step s e s' out) : KeptAt h ⟨s, e, out, s'⟩ ↔ IdentityOrderly s e := by
  have routed := routed_run run
  have numbered := numbered_run run
  have resident := resident_run run orderly
  have lookups (here : IdentityOrderly s e) : LookupsInverse s' (live (⟨s, e, out, s'⟩ :: h)) :=
    (resident.step routed step here).lookups (routed.step step)
  cases e with
  | e42Setup lenRf info => exact setup_kept_iff routed resident step
  | xappShutdown info => exact iff_of_false (shutdown_not_kept resident step) id
  | e42Subscription fd req =>
      cases step with
      | e42Subscription done =>
          have sound := numbered.accepted_iff req.xappId
          constructor
          · exact fun kept => sound.mp fun _ => kept.1
          · exact fun here => ⟨sound.mpr here (requested_valid done), lookups here⟩
  | e42Control fd req =>
      cases step with
      | e42Control done =>
          have sound := numbered.accepted_iff req.xappId
          constructor
          · exact fun kept => sound.mp fun _ => kept.1
          · exact fun here => ⟨sound.mpr here (requested_valid done), lookups here⟩
  | _ => exact iff_of_true ⟨trivial, lookups trivial⟩ trivial

/-- In a run, every request carries an id that was handed out, the look-ups stay
    inverse and every disconnect cleans up, if and only if no address sets up
    twice, no request carries an unsound id and no xApp disconnects. And in every
    state reached the unsound ids are those that are accepted without having been
    handed out. -/
theorem identity_kept_iff (run : (machine plugin).Run s h) :
    (IdentityKept h ↔ Machine.Meets IdentityOrderly h) ∧
      ∀ id, (validXappId s.iapp id → id ∈ handedOut h) ↔ SoundId s id := by
  refine ⟨?_, (numbered_run run).accepted_iff⟩
  induction run with
  | start => simp [IdentityKept, Machine.Meets]
  | next run enabled moved ih =>
      rw [IdentityKept, Machine.meets_cons, ih]
      exact and_congr_left fun orderly => kept_at_iff run orderly (step_cases enabled moved)

/-- Two xApps set up, and each sends a request. -/
def bothRequest : List RicEvent :=
  setup gnb gnbAddr ++ [.e42Setup 1 xappAddr, .e42Setup 1 otherXappAddr,
    .e42Subscription 20 ⟨7, gnb, localId⟩, .e42Control 21 ⟨8, gnb, localId⟩]

theorem identity_kept_iff_both :
    IdentityKept ((machine [2]).replay bothRequest).2 ∧
      (validXappId ((machine [2]).replay bothRequest).1.iapp 8 →
        8 ∈ handedOut ((machine [2]).replay bothRequest).2) := by
  have along := identity_kept_iff ((machine [2]).run_replay bothRequest)
  exact ⟨along.1.mpr (by decide +kernel), (along.2 8).mpr (by decide +kernel)⟩

/-- One xApp has set up, as 7, and a request comes as 8. -/
def requestAhead : List RicEvent :=
  setup gnb gnbAddr ++ [.e42Setup 1 xappAddr, .e42Subscription 20 ⟨8, gnb, localId⟩]

theorem identity_not_kept :
    ¬∀ (plugin : List UInt16) (s : Ric) (h : History), (machine plugin).Run s h →
      IdentityKept h := by
  intro kept
  have along := kept [2] _ _ ((machine [2]).run_replay requestAhead)
  have carried : ∀ x ∈ ((machine [2]).replay requestAhead).2.head?,
      x.event = .e42Subscription 20 ⟨8, gnb, localId⟩ := by decide +kernel
  have given : 8 ∉ handedOut ((machine [2]).replay requestAhead).2 := by decide +kernel
  cases played : ((machine [2]).replay requestAhead).2 with
  | nil => exact absurd played (by decide +kernel)
  | cons x h =>
      rw [played] at along carried given
      have here := along.1.1
      rw [carried x rfl] at here
      exact given (List.mem_map.mpr (by
        obtain ⟨p, mem, same⟩ := List.mem_map.mp here
        exact ⟨p, List.mem_append_right _ mem, same⟩))

end Ric

end FlexRic
