import FlexRic.Library.EntryMap
import FlexRic.XApp.Invariants

/-! # The active procedures of the xApp

Indications reach the event loop as answers do, and are recorded and dispatched
for the procedure whose id they carry. The registry hands out ids that only
grow, for subscriptions and controls alike, so an xApp starts no more than
`2 ^ 16 - 1` procedures in its life; and the handler of indications refuses
those of one service model, to whose RAN function a user can subscribe.
-/

namespace FlexRic

open Assertion E42Xapp

inductive ProcEvent where
  | xapp (e : XappEvent)
  /-- An indication reaches the event loop. -/
  | indication (ind : RicIndication)
  deriving DecidableEq

inductive ProcOutput (π : Type) where
  | sent (msg : E42Msg)
  /-- `write_db_xapp` -/
  | recorded (e2Node : GlobalE2NodeId) (rd : SmAgIfRdInd π)
  /-- `send_msg_dispatcher` -/
  | dispatched (smCb : Option Nat) (rd : SmAgIfRdInd π)
  deriving DecidableEq

namespace ActiveProcedures

variable {π : Type}

/-- The types that the handler lets pass, and the database too. -/
def xappIndTypes : List SmAgIfRdIndE :=
  [.macStatsV0, .rlcStatsV0, .pdcpStatsV0, .sliceStatsV0, .kpmStatsV3_0, .gtpStatsV0,
    .ranCtrlStatsV1_03]

def e2apHandleIndicationXapp (onIndication : UInt16 → List UInt8 → SmAgIfRdInd π)
    (xapp : E42Xapp) (src : RicIndication) : Checked (E42Xapp × List (ProcOutput π)) := do
  let ranFuncId := src.ricId.ranFuncId
  xapp.smPluginRic ranFuncId
  let rd := onIndication ranFuncId src.bytes
  check (rd.type ∈ xappIndTypes) indicationType
  match ← findActProc xapp.actProc src.ricId.ricReqId.toUInt16 with
  -- "Spuriosly can happen."
  | (none, _) => pure (xapp, [])
  | (some val, actProc) =>
      pure ({ xapp with actProc := actProc },
        [.recorded val.e2Node rd, .dispatched val.smCb rd])

/-- The event loop handles an indication while it handles no answer; it is for a
    loaded service model and carries an id that was handed out. -/
def Enabled (xapp : E42Xapp) : ProcEvent → Prop
  | .xapp e => xapp.Enabled e
  | .indication ind => xapp.handling = none ∧
      xapp.smPluginRic ind.ricId.ranFuncId = .ok () ∧
      0 < ind.ricId.ricReqId ∧ ind.ricId.ricReqId.toNat < xapp.actProc.keyId.toNat

instance (xapp : E42Xapp) : (e : ProcEvent) → Decidable (Enabled xapp e)
  | .xapp e => inferInstanceAs (Decidable (xapp.Enabled e))
  | .indication _ => inferInstanceAs (Decidable (_ ∧ _))

def step (onIndication : UInt16 → List UInt8 → SmAgIfRdInd π) (xapp : E42Xapp) :
    ProcEvent → Checked (E42Xapp × List (ProcOutput π))
  | .xapp e => do
      let (xapp, sent) ← xapp.step e
      pure (xapp, sent.map .sent)
  | .indication ind => e2apHandleIndicationXapp onIndication xapp ind

def machine (onIndication : UInt16 → List UInt8 → SmAgIfRdInd π) (plugin : List UInt16)
    (id : UInt16) : Machine E42Xapp ProcEvent Assertion (List (ProcOutput π)) where
  init := initE42Xapp plugin id
  enabled := Enabled
  step := step onIndication

instance (onIndication : UInt16 → List UInt8 → SmAgIfRdInd π) (plugin : List UInt16) (id : UInt16)
    (xapp : E42Xapp) (e : ProcEvent) :
    Decidable ((machine onIndication plugin id).enabled xapp e) :=
  inferInstanceAs (Decidable (Enabled xapp e))

abbrev History (π : Type) := List (Entry E42Xapp ProcEvent (List (ProcOutput π)))

/-- A procedure as its user started it. -/
structure Registration where
  type : ActProcValE
  ranFuncId : UInt16
  e2Node : GlobalE2NodeId
  smCb : Option Nat
  deriving DecidableEq

/-- What a search is to return for a procedure: its id filled in. -/
def Registration.val (reg : Registration) (id : UInt32) : ActProcVal where
  type := reg.type
  id := ⟨id, 0, reg.ranFuncId⟩
  smCb := reg.smCb
  e2Node := reg.e2Node

/-- What a call starts. -/
def startedBy : ProcEvent → Option Registration
  | .xapp (.report e2Node rfId cb) =>
      some ⟨.ricSubscriptionProcedureActive, rfId, e2Node, some cb⟩
  | .xapp (.control e2Node rfId) => some ⟨.ricControlProcedureActive, rfId, e2Node, none⟩
  | _ => none

/-- The id of the call that an event finishes. -/
def finishedBy (xapp : E42Xapp) : ProcEvent → Option UInt32
  | .xapp (.runCall i _) =>
      (xapp.calls[i]?.filter (·.stage = .rmActProc)).map fun call => call.msg.ricId.ricReqId
  | _ => none

/-- How many procedures were started, whether or not they are finished. -/
def started (h : History π) : Nat := h.countP fun x => (startedBy x.event).isSome

def nextId (h : History π) : UInt32 := UInt32.ofNat (started h + 1)

/-- The live procedures by their ids. -/
def procedures : History π → UInt32 → Option Registration
  | [] => fun _ => none
  | x :: h =>
      match startedBy x.event, finishedBy x.before x.event with
      | some reg, _ => Function.update (procedures h) (nextId h) (some reg)
      | none, some reqId => Function.update (procedures h) reqId none
      | none, none => procedures h

/-- Ids are distinct and have 16 bits, and a search returns just what is live. -/
structure Exact (xapp : E42Xapp) (h : History π) : Prop where
  distinct : (xapp.actProc.entries.map Prod.fst).Nodup
  narrow : ∀ e ∈ xapp.actProc.entries, 0 < e.1 ∧ e.1.toNat < 2 ^ 16
  live : ∀ reqId, reqId ∈ xapp.actProc.entries.map Prod.fst ↔ procedures h reqId ≠ none
  missing : ∀ reqId : UInt16, 0 < reqId → procedures h reqId.toUInt32 = none →
    findActProc xapp.actProc reqId = .ok (none, xapp.actProc)
  found : ∀ (reqId : UInt16) reg, 0 < reqId → procedures h reqId.toUInt32 = some reg →
    ∃ actProc, findActProc xapp.actProc reqId = .ok (some (reg.val reqId.toUInt32), actProc)

/-- A start does not run out of ids, and gets the free one that is next. -/
def Starts (onIndication : UInt16 → List UInt8 → SmAgIfRdInd π) (xapp : E42Xapp)
    (h : History π) (e : ProcEvent) : Prop :=
  step onIndication xapp e ≠ .error ricReqIdOverflow ∧ procedures h (nextId h) = none ∧
    ∀ xapp' out, step onIndication xapp e = .ok (xapp', out) →
      ∃ call : Call, xapp'.calls = xapp.calls ++ [call] ∧ call.msg.ricId.ricReqId = nextId h

/-- A finish takes out the entry of its id, and nothing else. -/
def Finishes (onIndication : UInt16 → List UInt8 → SmAgIfRdInd π) (xapp : E42Xapp)
    (h : History π) (e : ProcEvent) (reqId : UInt32) : Prop :=
  procedures h reqId ≠ none ∧ ∃ xapp', step onIndication xapp e = .ok (xapp', []) ∧
    xapp'.actProc.entries = xapp.actProc.entries.filter fun entry => entry.1 ≠ reqId

/-- An indication is recorded with the node and dispatched to the callback of the
    procedure of its id, or dropped when that is not live. -/
def Delivers (onIndication : UInt16 → List UInt8 → SmAgIfRdInd π) (xapp : E42Xapp)
    (h : History π) (ind : RicIndication) : Prop :=
  ∃ xapp', step onIndication xapp (.indication ind) = .ok (xapp',
    match procedures h ind.ricId.ricReqId with
    | none => []
    | some reg =>
        let rd := onIndication ind.ricId.ranFuncId ind.bytes
        [.recorded reg.e2Node rd, .dispatched reg.smCb rd])

/-- What is to happen at an event. -/
structure Served (onIndication : UInt16 → List UInt8 → SmAgIfRdInd π) (xapp : E42Xapp)
    (h : History π) (e : ProcEvent) : Prop where
  start : ∀ reg, startedBy e = some reg → Starts onIndication xapp h e
  finish : ∀ reqId, finishedBy xapp e = some reqId → Finishes onIndication xapp h e reqId
  indication : ∀ ind, e = .indication ind → Delivers onIndication xapp h ind

/-- When it does. -/
structure Serves (onIndication : UInt16 → List UInt8 → SmAgIfRdInd π) (xapp : E42Xapp)
    (h : History π) (e : ProcEvent) : Prop where
  start : ∀ reg, startedBy e = some reg → validRanFuncId reg.ranFuncId →
    started h + 1 < 2 ^ 16
  finish : ∀ reqId, finishedBy xapp e = some reqId → procedures h reqId ≠ none
  indication : ∀ ind, e = .indication ind →
    (onIndication ind.ricId.ranFuncId ind.bytes).type ∈ xappIndTypes

variable {onIndication : UInt16 → List UInt8 → SmAgIfRdInd π} {xapp xapp' : E42Xapp}
  {h : History π} {e : ProcEvent} {out : List (ProcOutput π)} {reg : Registration}
  {reqId : UInt32} {actProc : ActProc}

/-- What stays of a procedure when its id is left out. -/
def registration (val : ActProcVal) : Registration :=
  ⟨val.type, val.id.ranFuncId, val.e2Node, val.smCb⟩

/-- The registry holds what was started and not finished. -/
structure Mirror (xapp : E42Xapp) (h : History π) : Prop where
  filed : Filed xapp
  counter : xapp.actProc.keyId.toNat = started h + 1
  holds : Represents (xapp.actProc.entries.map fun entry => (entry.1, registration entry.2))
    (procedures h)
  sound : ∀ entry ∈ xapp.actProc.entries, 0 < entry.1 ∧ entry.2.id.ricInstId = 0

theorem filled_eq {val : ActProcVal} (inst : val.id.ricInstId = 0) (ricReqId : UInt16) :
    val.filled ricReqId = (registration val).val ricReqId.toUInt32 := by
  obtain ⟨type, ⟨reqId, instId, ranFuncId⟩, smCb, e2Node⟩ := val
  cases inst
  rfl

theorem mirror_init {plugin : List UInt16} {id : UInt16} :
    Mirror (initE42Xapp plugin id) ([] : History π) where
  filed := filed_init
  counter := rfl
  holds := .nil
  sound := nofun

theorem Mirror.nextId (mirror : Mirror xapp h) :
    (nextId h).toNat = xapp.actProc.keyId.toNat := by
  have few := mirror.filed.few
  rw [ActiveProcedures.nextId, ← mirror.counter, UInt32.toNat_ofNat', Nat.mod_eq_of_lt (by omega)]

/-- A procedure joins under the next id. -/
theorem Mirror.start (mirror : Mirror xapp h) (filed : Filed xapp')
    (starts : startedBy e = some reg) {val : ActProcVal} (same : registration val = reg)
    (inst : val.id.ricInstId = 0) (fresh : reqId.toNat = xapp.actProc.keyId.toNat)
    (next : xapp'.actProc.keyId.toNat = xapp.actProc.keyId.toNat + 1)
    (entries : xapp'.actProc.entries = xapp.actProc.entries ++ [(reqId, val)]) :
    Mirror xapp' (⟨xapp, e, out, xapp'⟩ :: h) where
  filed := filed
  counter := by
    rw [next, mirror.counter]
    simp [started, starts]
  holds := by
    have id_eq : ActiveProcedures.nextId h = reqId :=
      UInt32.toNat_inj.mp (mirror.nextId.trans fresh.symm)
    have free : procedures h reqId = none := by
      rw [mirror.holds.eq_none_iff]
      intro mem
      obtain ⟨_, listed, named⟩ := List.mem_map.mp mem
      obtain ⟨entry, stored, rfl⟩ := List.mem_map.mp listed
      have below := key_lt_of_mem mirror.filed.ordered stored
      simp only at named
      rw [named, fresh] at below
      exact Nat.lt_irrefl _ below
    have joined := (mirror.holds.cons free reg).perm (List.perm_append_singleton _ _).symm
    rw [entries, List.map_append, List.map_singleton, same]
    simpa only [procedures, starts, id_eq] using joined
  sound entry mem := by
    rw [entries] at mem
    rcases List.mem_append.mp mem with old | new
    · exact mirror.sound entry old
    · rw [List.mem_singleton.mp new, UInt32.lt_iff_toNat_lt, fresh]
      exact ⟨mirror.filed.started, inst⟩

/-- An event that neither starts nor finishes a procedure. -/
theorem Mirror.quiet (mirror : Mirror xapp h) (filed : Filed xapp') (starts : startedBy e = none)
    (finishes : finishedBy xapp e = none) (counter : xapp'.actProc.keyId = xapp.actProc.keyId)
    (entries : (xapp'.actProc.entries.map fun entry => (entry.1, registration entry.2)) =
      xapp.actProc.entries.map fun entry => (entry.1, registration entry.2))
    (sound : ∀ entry ∈ xapp'.actProc.entries, 0 < entry.1 ∧ entry.2.id.ricInstId = 0) :
    Mirror xapp' (⟨xapp, e, out, xapp'⟩ :: h) where
  filed := filed
  counter := by
    rw [counter, mirror.counter]
    simp [started, starts]
  holds := by
    rw [entries]
    simpa only [procedures, starts, finishes] using mirror.holds
  sound := sound

/-- Filling an id in changes nothing that was registered. -/
theorem Mirror.fill (mirror : Mirror xapp h) (filed : Filed xapp') (starts : startedBy e = none)
    (finishes : finishedBy xapp e = none) {ricReqId : UInt16} {val : ActProcVal}
    (found : findActProc xapp.actProc ricReqId = .ok (some val, xapp'.actProc)) :
    Mirror xapp' (⟨xapp, e, out, xapp'⟩ :: h) := by
  obtain ⟨-, it, stored, there, filled, rfl⟩ := findActProc_some found
  obtain ⟨before, after, entries, updated⟩ :=
    AssocReg.update_entries there (·.filled ricReqId)
  rw [← filled] at updated
  have sound := mirror.sound
  rw [entries] at sound
  refine mirror.quiet filed starts finishes (by rw [filled]; rfl) ?_ ?_
  · rw [updated, entries]
    simp [registration, ActProcVal.filled]
  · intro entry mem
    rw [updated] at mem
    rcases List.mem_append.mp mem with inBefore | inRest
    · exact sound entry (List.mem_append_left _ inBefore)
    · rcases List.mem_cons.mp inRest with rfl | inAfter
      · exact sound (_, stored) (List.mem_append_right _ List.mem_cons_self)
      · exact sound entry (List.mem_append_right _ (List.mem_cons_of_mem _ inAfter))

/-- The entry of a finished procedure goes. -/
theorem Mirror.finish (mirror : Mirror xapp h) (filed : Filed xapp') (starts : startedBy e = none)
    (finishes : finishedBy xapp e = some reqId) {it : Nat} {stored : ActProcVal}
    (there : xapp.actProc.arr[it]? = some ⟨reqId, true, stored⟩)
    (erased : xapp'.actProc = xapp.actProc.erase it) :
    Mirror xapp' (⟨xapp, e, out, xapp'⟩ :: h) := by
  obtain ⟨before, after, entries, left⟩ := AssocReg.erase_entries there
  rw [← erased] at left
  refine ⟨filed, ?_, ?_, ?_⟩
  · rw [erased, AssocReg.keyId_erase, mirror.counter]
    simp [started, starts]
  · have holds := mirror.holds
    rw [entries, List.map_append, List.map_cons] at holds
    have gone := (holds.perm List.perm_middle).of_cons.2
    rw [left, List.map_append]
    simpa only [procedures, starts, finishes] using gone
  · intro entry mem
    rw [left] at mem
    apply mirror.sound entry
    rw [entries]
    exact (List.mem_append.mp mem).elim (List.mem_append_left _) fun inAfter =>
      List.mem_append_right _ (List.mem_cons_of_mem _ inAfter)

/-- A step of a call or an answer. -/
theorem Mirror.call (mirror : Mirror xapp h) {e : XappEvent} {sent : List E42Msg}
    (step : Step xapp e xapp' sent) : Mirror xapp' (⟨xapp, .xapp e, out, xapp'⟩ :: h) := by
  have filed := filed_step mirror.filed step
  cases step with
  | report added few | control added few =>
      obtain ⟨fresh, next, entries, -⟩ :=
        addActProc_spec mirror.filed.ordered mirror.filed.few added
      exact mirror.start filed rfl rfl rfl fresh next entries
  | rmReport found | answer found => exact mirror.fill filed rfl rfl found
  | @rmActProc i opened msg actProc here removed =>
      obtain ⟨it, stored, there, erased⟩ := rmActProc_ok removed
      have among : msg ∈ xapp.requests :=
        List.mem_append_left _ (List.mem_map.mpr ⟨_, List.mem_of_getElem? here, rfl⟩)
      rw [mirror.filed.toUInt16_toUInt32 among] at there
      exact mirror.finish filed rfl (by simp [finishedBy, here]) there erased
  | createTimer here | addPending here | send here | condWait here | blocked here | msgAck here =>
      exact mirror.quiet filed rfl (by simp [finishedBy, here]) rfl rfl mirror.sound
  | rmPending | rmFd | signal => exact mirror.quiet filed rfl rfl rfl rfl mirror.sound

theorem handleIndication_ok {ind : RicIndication}
    (h : e2apHandleIndicationXapp onIndication xapp ind = .ok (xapp', out)) :
    xapp' = xapp ∨ ∃ val actProc,
      findActProc xapp.actProc ind.ricId.ricReqId.toUInt16 = .ok (some val, actProc) ∧
        xapp' = { xapp with actProc := actProc } := by
  simp only [e2apHandleIndicationXapp, bind_eq_ok, Prod.exists] at h
  obtain ⟨_, -, _, -, found, actProc, looked, h⟩ := h
  cases found with
  | none =>
      simp only [pure_eq_ok, Prod.mk.injEq] at h
      exact .inl h.1.symm
  | some val =>
      simp only [pure_eq_ok, Prod.mk.injEq] at h
      exact .inr ⟨val, actProc, looked, h.1.symm⟩

theorem mirror_run {plugin : List UInt16} {id : UInt16}
    (run : (machine onIndication plugin id).Run xapp h) : Mirror xapp h := by
  induction run with
  | start => exact mirror_init
  | @next xapp h e xapp' out _ enabled moved mirror =>
      cases e with
      | xapp e =>
          simp only [machine, step, bind_eq_ok, Prod.exists, pure_eq_ok, Prod.mk.injEq] at moved
          obtain ⟨_, sent, goes, rfl, -⟩ := moved
          exact mirror.call (step_cases enabled goes)
      | indication ind =>
          rcases handleIndication_ok moved with rfl | ⟨val, actProc, found, rfl⟩
          · exact mirror.quiet mirror.filed rfl rfl rfl rfl mirror.sound
          · exact mirror.fill (mirror.filed.fill found) rfl rfl found

/-- A live id is one of the registry's, and a short search finds it. -/
theorem Mirror.mem_iff (mirror : Mirror xapp h) :
    (∃ val, (reqId, val) ∈ xapp.actProc.entries ∧ registration val = reg) ↔
      procedures h reqId = some reg := by
  rw [← mirror.holds.mem_iff]
  simp [and_comm, eq_comm]

theorem Mirror.exact (mirror : Mirror xapp h) : Exact xapp h where
  distinct := by simpa [Function.comp_def] using mirror.holds.distinct
  narrow entry mem := by
    have below := key_lt_of_mem mirror.filed.ordered mem
    exact ⟨(mirror.sound entry mem).1, Nat.lt_of_lt_of_le below mirror.filed.few⟩
  live reqId := by
    rw [← not_iff_not, not_not, mirror.holds.eq_none_iff]
    simp [Function.comp_def]
  missing reqId positive none := by
    have positive' : 0 < reqId.toUInt32 := by
      rw [UInt32.lt_iff_toNat_lt]
      simpa using UInt16.lt_iff_toNat_lt.mp positive
    have missed : xapp.actProc.findReg reqId.toUInt32 = .ok Option.none := by
      apply (AssocReg.findReg_none mirror.filed.ordered mirror.filed.short positive').mpr
      intro entry mem same
      rw [← same, mirror.mem_iff.mp ⟨entry.2, mem, rfl⟩] at none
      cases none
    rw [findActProc, missed]
    rfl
  found reqId reg positive some := by
    obtain ⟨val, mem, rfl⟩ := mirror.mem_iff.mpr some
    obtain ⟨val', actProc, found⟩ :=
      (findActProc_ok mirror.filed.ordered mirror.filed.short positive).mpr ⟨_, mem, rfl⟩
    obtain ⟨-, it, stored, there, -, rfl⟩ := findActProc_some found
    have listed := AssocReg.mem_entries.mpr (List.mem_of_getElem? there)
    cases mirror.filed.ordered.eq_of_key mem listed rfl
    rw [← filled_eq (mirror.sound _ mem).2]
    exact ⟨actProc, found⟩

theorem addActProc_total {p : ActProc} (few : p.keyId.toNat ≤ 2 ^ 16) (type : ActProcValE)
    (id : RicGenId) (e2Node : GlobalE2NodeId) (smCb : Option Nat) :
    ∃ p', addActProc p type id e2Node smCb = .ok (p.keyId.toUInt32, p') := by
  have same := AssocReg.keyId_expand p
  rw [← same] at few ⊢
  exact ⟨_, bind_eq_ok.mpr ⟨(), check_pass _ (by omega), rfl⟩⟩

/-- The ids run out when the counter reaches `2 ^ 16`, and only then. -/
theorem generate_overflow (few : xapp.actProc.keyId.toNat ≤ 2 ^ 16) (type : ActProcValE)
    (rfId : UInt16) (e2Node : GlobalE2NodeId) (smCb : Option Nat) :
    xapp.generateRicGenId type rfId e2Node smCb = .error ricReqIdOverflow ↔
      validRanFuncId rfId = true ∧ 2 ^ 16 ≤ xapp.actProc.keyId.toNat := by
  obtain ⟨actProc, added⟩ := addActProc_total few type ⟨0, 0, rfId⟩ e2Node smCb
  have wide : xapp.actProc.keyId.toUInt32.toNat = xapp.actProc.keyId.toNat := by
    rw [UInt64.toNat_toUInt32, Nat.mod_eq_of_lt (by omega)]
  simp only [generateRicGenId, bind_eq_error, check_eq_error, check_eq_ok, added, ok_bind, wide,
    pure_ne_error, Bool.not_eq_true, reduceCtorEq, and_false, and_true, exists_false, exists_const,
    or_false, false_or, Nat.not_lt]

theorem smPluginRic_no_overflow (rfId : UInt16) :
    xapp.smPluginRic rfId ≠ .error ricReqIdOverflow := by
  simp [E42Xapp.smPluginRic, bind_eq_error]

theorem step_overflow (onIndication : UInt16 → List UInt8 → SmAgIfRdInd π)
    (few : xapp.actProc.keyId.toNat ≤ 2 ^ 16) (starts : startedBy e = some reg) :
    step onIndication xapp e = .error ricReqIdOverflow ↔
      validRanFuncId reg.ranFuncId = true ∧ 2 ^ 16 ≤ xapp.actProc.keyId.toNat := by
  cases e with
  | indication ind => cases starts
  | xapp e =>
      cases e with
      | report e2Node rfId cb =>
          cases starts
          simp only [step, E42Xapp.step, reportSmSyncXapp, bind_eq_error, generate_overflow few,
            smPluginRic_no_overflow, pure_ne_error, and_false, exists_false, or_false]
      | control e2Node rfId =>
          cases starts
          simp only [step, E42Xapp.step, controlSmSyncXapp, bind_eq_error, check_eq_error,
            check_eq_ok, generate_overflow few, smPluginRic_no_overflow, pure_ne_error,
            reduceCtorEq, and_false, exists_false, exists_const, or_false, false_or,
            and_self_left]
      | rmReport | runCall | answer | resumeAnswer => cases starts

theorem Mirror.nextId_free (mirror : Mirror xapp h) :
    procedures h (ActiveProcedures.nextId h) = none := by
  rw [mirror.holds.eq_none_iff]
  intro mem
  obtain ⟨_, listed, named⟩ := List.mem_map.mp mem
  obtain ⟨entry, stored, rfl⟩ := List.mem_map.mp listed
  have below := key_lt_of_mem mirror.filed.ordered stored
  rw [show entry.1 = _ from named, mirror.nextId] at below
  exact Nat.lt_irrefl _ below

/-- A start that goes through gets the next id. -/
theorem Mirror.startsWith (mirror : Mirror xapp h) (starts : startedBy e = some reg)
    (moved : step onIndication xapp e = .ok (xapp', out)) :
    ∃ call : Call, xapp'.calls = xapp.calls ++ [call] ∧
      call.msg.ricId.ricReqId = ActiveProcedures.nextId h := by
  have given {type : ActProcValE} {ricId : RicGenId} {e2Node : GlobalE2NodeId}
      {smCb : Option Nat} {reqId : UInt32} {actProc : ActProc}
      (added : addActProc xapp.actProc type ricId e2Node smCb = .ok (reqId, actProc)) :
      reqId = ActiveProcedures.nextId h := by
    have fresh := (addActProc_spec mirror.filed.ordered mirror.filed.few added).1
    exact UInt32.toNat_inj.mp (fresh.trans mirror.nextId.symm)
  cases e with
  | indication ind => cases starts
  | xapp e =>
      simp only [step, bind_eq_ok, Prod.exists, pure_eq_ok, Prod.mk.injEq] at moved
      obtain ⟨_, sent, goes, rfl, -⟩ := moved
      cases e with
      | report e2Node rfId cb =>
          cases step_cases (e := .report e2Node rfId cb) trivial goes with
          | report added few => exact ⟨_, rfl, given added⟩
      | control e2Node rfId =>
          cases step_cases (e := .control e2Node rfId) trivial goes with
          | control added few => exact ⟨_, rfl, given added⟩
      | rmReport | runCall | answer | resumeAnswer => cases starts

theorem Mirror.starts_iff (mirror : Mirror xapp h) (starts : startedBy e = some reg) :
    Starts onIndication xapp h e ↔
      (validRanFuncId reg.ranFuncId → started h + 1 < 2 ^ 16) := by
  have few := mirror.filed.few
  have overflow := step_overflow onIndication few starts
  rw [mirror.counter] at overflow
  constructor
  · intro served valid
    apply Nat.lt_of_not_le
    intro many
    exact served.1 (overflow.mpr ⟨valid, many⟩)
  · intro room
    refine ⟨fun failed => ?_, mirror.nextId_free, fun _ _ => mirror.startsWith starts⟩
    obtain ⟨valid, many⟩ := overflow.mp failed
    exact Nat.lt_irrefl _ (Nat.lt_of_lt_of_le (room valid) many)

/-- The entry of a live id, once the others are kept. -/
theorem filter_erase {before after : List (UInt32 × ActProcVal)} {val : ActProcVal}
    (distinct : ((before ++ (reqId, val) :: after).map Prod.fst).Nodup) :
    (before ++ (reqId, val) :: after).filter (fun entry => entry.1 ≠ reqId) = before ++ after := by
  rw [List.map_append, List.map_cons, List.nodup_middle, List.nodup_cons,
    ← List.map_append] at distinct
  have others : ∀ entry ∈ before ++ after, entry.1 ≠ reqId :=
    fun entry mem same => distinct.1 (List.mem_map.mpr ⟨entry, mem, same⟩)
  have keep : (before ++ after).filter (fun entry => entry.1 ≠ reqId) = before ++ after :=
    List.filter_eq_self.mpr fun entry mem => by simpa using others entry mem
  rw [← keep, List.filter_append, List.filter_append, List.filter_cons_of_neg (by simp)]

theorem step_finish {i : Nat} {opened : Fd} {msg : E42Msg}
    (here : xapp.calls[i]? = some ⟨msg, .rmActProc⟩)
    (removed : rmActProc xapp.actProc msg.ricId.ricReqId.toUInt16 = .ok actProc) :
    step onIndication xapp (.xapp (.runCall i opened)) =
      .ok ({ xapp with actProc := actProc, calls := advance xapp.calls i none }, []) := by
  simp only [step, E42Xapp.step, runCall, here, callSection, removed, ok_bind]
  rfl

/-- A call finishes as long as its procedure is live. -/
theorem Mirror.finishes_iff (mirror : Mirror xapp h)
    (finishes : finishedBy xapp e = some reqId) :
    Finishes onIndication xapp h e reqId ↔ procedures h reqId ≠ none := by
  refine ⟨And.left, fun live => ⟨live, ?_⟩⟩
  obtain ⟨i, opened, rfl⟩ : ∃ i opened, e = .xapp (.runCall i opened) := by
    cases e with
    | indication ind => cases finishes
    | xapp e => cases e <;> first | cases finishes | exact ⟨_, _, rfl⟩
  simp only [finishedBy, Option.map_eq_some_iff, Option.filter_eq_some_iff,
    decide_eq_true_eq] at finishes
  obtain ⟨⟨msg, _⟩, ⟨here, rfl⟩, rfl⟩ := finishes
  obtain ⟨reg, some⟩ := Option.ne_none_iff_exists'.mp live
  obtain ⟨val, mem, rfl⟩ := mirror.mem_iff.mpr some
  obtain ⟨it, there⟩ := List.getElem?_of_mem (AssocReg.mem_entries.mp mem)
  have found := (AssocReg.findReg_some mirror.filed.ordered mirror.filed.short
    (mirror.sound _ mem).1).mpr ⟨val, there⟩
  have among : msg ∈ xapp.requests :=
    List.mem_append_left _ (List.mem_map.mpr ⟨_, List.mem_of_getElem? here, rfl⟩)
  have removed : rmActProc xapp.actProc msg.ricId.ricReqId.toUInt16 =
      .ok (xapp.actProc.erase it) := by
    rw [rmActProc, mirror.filed.toUInt16_toUInt32 among, found]
    rfl
  obtain ⟨before, after, entries, left⟩ := AssocReg.erase_entries there
  refine ⟨_, step_finish here removed, ?_⟩
  have distinct := mirror.exact.distinct
  rw [entries] at distinct
  rw [entries, filter_erase distinct, left]

theorem Mirror.delivers_iff (mirror : Mirror xapp h) {ind : RicIndication}
    (enabled : Enabled xapp (.indication ind)) :
    Delivers onIndication xapp h ind ↔
      (onIndication ind.ricId.ranFuncId ind.bytes).type ∈ xappIndTypes := by
  obtain ⟨-, plugged, positive, issued⟩ := enabled
  have few := mirror.filed.few
  have narrow : ind.ricId.ricReqId.toUInt16.toUInt32 = ind.ricId.ricReqId := by
    rw [← UInt32.toNat_inj]
    simp only [UInt16.toNat_toUInt32, UInt32.toNat_toUInt16]
    omega
  have positive' : 0 < ind.ricId.ricReqId.toUInt16 := by
    have := UInt32.lt_iff_toNat_lt.mp positive
    rw [← narrow] at this
    rw [UInt16.lt_iff_toNat_lt]
    simpa using this
  constructor
  · intro delivers
    obtain ⟨xapp', moved⟩ := delivers
    simp only [step, e2apHandleIndicationXapp, bind_eq_ok, check_eq_ok] at moved
    obtain ⟨_, -, _, passed, -⟩ := moved
    exact passed
  · intro passed
    rw [Delivers, ← narrow]
    simp only [step, e2apHandleIndicationXapp, plugged, check_pass _ passed, ok_bind]
    cases looked : procedures h ind.ricId.ricReqId.toUInt16.toUInt32 with
    | none =>
        rw [mirror.exact.missing _ positive' looked]
        exact ⟨xapp, rfl⟩
    | some reg =>
        obtain ⟨actProc, found⟩ := mirror.exact.found _ reg positive' looked
        rw [found]
        exact ⟨{ xapp with actProc := actProc }, rfl⟩

/-- In every run ids are distinct and narrow and a search returns what is live;
    and the next event does what it is to do just when ids are left, the
    procedure of a finish is live and the type of an indication is let pass. -/
theorem procedures_kept_iff {plugin : List UInt16} {id : UInt16}
    (run : (machine onIndication plugin id).Run xapp h) :
    Exact xapp h ∧ ∀ e, Enabled xapp e →
      (Served onIndication xapp h e ↔ Serves onIndication xapp h e) := by
  have mirror := mirror_run run
  refine ⟨mirror.exact, fun e enabled => ⟨fun served => ?_, fun serves => ?_⟩⟩
  · refine ⟨fun reg starts => ?_, fun reqId finishes => ?_, fun ind same => ?_⟩
    · exact (mirror.starts_iff starts).mp (served.start reg starts)
    · exact (mirror.finishes_iff finishes).mp (served.finish reqId finishes)
    · exact (mirror.delivers_iff (same ▸ enabled)).mp (served.indication ind same)
  · refine ⟨fun reg starts => ?_, fun reqId finishes => ?_, fun ind same => ?_⟩
    · exact (mirror.starts_iff starts).mpr (serves.start reg starts)
    · exact (mirror.finishes_iff finishes).mpr (serves.finish reqId finishes)
    · exact (mirror.delivers_iff (same ▸ enabled)).mpr (serves.indication ind same)

/-- Every service model but one decodes to the same type. -/
def rlcOrTc : UInt16 → List UInt8 → SmAgIfRdInd Unit := fun ranFuncId _ =>
  ⟨if ranFuncId = 146 then .tcStatsV0 else .rlcStatsV0, ()⟩

def twoSubscriptions : List ProcEvent :=
  [.xapp (.report node 143 5), .xapp (.report node 146 6), .indication ⟨⟨1, 0, 143⟩, []⟩]

theorem procedures_kept_iff_twoSubscriptions :
    let reached := (machine rlcOrTc [143, 146] 7).replay twoSubscriptions
    Exact reached.1 reached.2 ∧ ∀ e, Enabled reached.1 e →
      (Served rlcOrTc reached.1 reached.2 e ↔ Serves rlcOrTc reached.1 reached.2 e) :=
  procedures_kept_iff ((machine rlcOrTc [143, 146] 7).run_replay twoSubscriptions)

def noPayload : UInt16 → List UInt8 → SmAgIfRdInd Unit := fun _ _ => ⟨.rlcStatsV0, ()⟩

abbrev oneModel : Machine E42Xapp ProcEvent Assertion (List (ProcOutput Unit)) :=
  machine noPayload [3] 7

def Reached (xapp : E42Xapp) : Prop := ∃ h, oneModel.Run xapp h

/-- Nothing is live or on its way, and `k` is the next id. -/
def idle (sync : SyncUi) (k : UInt64) : E42Xapp :=
  { initE42Xapp [3] 7 with sync := sync, actProc := { AssocReg.init with keyId := k } }

theorem Reached.next {out : List (ProcOutput Unit)} (reached : Reached xapp) (e : ProcEvent)
    (enabled : Enabled xapp e) (moved : step noPayload xapp e = .ok (xapp', out)) :
    Reached xapp' := by
  obtain ⟨h, run⟩ := reached
  have next : oneModel.Run xapp' (⟨xapp, e, out, xapp'⟩ :: h) := run.next enabled moved
  exact ⟨_, next⟩

/-- The registry with the one procedure of a control. -/
def oneControl (k : UInt64) (reqId : UInt32) : ActProc :=
  ⟨[⟨k.toUInt32, true, ⟨.ricControlProcedureActive, ⟨reqId, 0, 3⟩, none, node⟩⟩], 1, 16, k + 1⟩

def control (k : UInt64) : E42Msg := .ricControlRequest ⟨7, node, ⟨k.toUInt32, 0, 3⟩⟩

/-- The control is entered under the next id. -/
theorem Reached.control {sync : SyncUi} {k : UInt64} (reached : Reached (idle sync k))
    (few : k.toNat < 2 ^ 16) :
    Reached { idle sync k with
      actProc := oneControl k 0, calls := [⟨ActiveProcedures.control k, .send⟩] } := by
  have narrow : k.toUInt32.toNat < 2 ^ 16 := by
    rw [UInt64.toNat_toUInt32]
    omega
  have added : addActProc (idle sync k).actProc .ricControlProcedureActive ⟨0, 0, 3⟩ node none =
      .ok (k.toUInt32, oneControl k 0) :=
    bind_eq_ok.mpr ⟨(), check_pass _ (show k.toNat ≠ 2 ^ 64 - 1 by omega), rfl⟩
  have generated : (idle sync k).generateRicGenId .ricControlProcedureActive 3 node none =
      .ok (⟨k.toUInt32, 0, 3⟩, { idle sync k with actProc := oneControl k 0 }) := by
    simp only [generateRicGenId, added, check_pass _ narrow, ok_bind]
    rfl
  have goes : step noPayload (idle sync k) (.xapp (.control node 3)) = .ok ({ idle sync k with
      actProc := oneControl k 0, calls := [⟨ActiveProcedures.control k, .send⟩] }, []) := by
    simp only [step, E42Xapp.step, controlSmSyncXapp, generated, ok_bind]
    rfl
  exact reached.next (.xapp (.control node 3)) trivial goes

/-- The only procedure is found, and can be removed. -/
theorem Reached.found {k : UInt64} (reached : Reached xapp)
    (one : xapp.actProc = oneControl k reqId) :
    findActProc (oneControl k reqId) k.toUInt32.toUInt16 =
        .ok (some ⟨.ricControlProcedureActive, ⟨k.toUInt32, 0, 3⟩, none, node⟩,
          oneControl k k.toUInt32) ∧
      rmActProc (oneControl k reqId) k.toUInt32.toUInt16 =
        .ok { AssocReg.init with keyId := k + 1 } := by
  obtain ⟨h, run⟩ := reached
  have mirror := mirror_run run
  have stored : xapp.actProc.arr[0]? =
      some ⟨k.toUInt32, true, ⟨.ricControlProcedureActive, ⟨reqId, 0, 3⟩, none, node⟩⟩ := by
    rw [one]
    rfl
  have kept := mirror.exact.narrow _ (AssocReg.mem_entries.mpr (List.mem_of_getElem? stored))
  have positive : 0 < k.toUInt32 := kept.1
  have narrow : k.toUInt32.toNat < 2 ^ 16 := kept.2
  have same : k.toUInt32.toUInt16.toUInt32 = k.toUInt32 := by
    rw [← UInt32.toNat_inj]
    simp only [UInt16.toNat_toUInt32, UInt32.toNat_toUInt16]
    omega
  have found := (AssocReg.findReg_some mirror.filed.ordered mirror.filed.short positive).mpr
    ⟨_, stored⟩
  rw [one] at found
  constructor
  · simp only [findActProc, ActProcVal.filled, same, found, ok_bind]
    rfl
  · simp only [rmActProc, same, found, ok_bind]
    rfl

theorem step_answer {msg : E42Msg} {val : ActProcVal}
    (flying : xapp.inFlight = [msg])
    (found : findActProc xapp.actProc msg.ricId.ricReqId.toUInt16 = .ok (some val, actProc)) :
    step noPayload xapp (.xapp (.answer msg)) = .ok ({ xapp with
      actProc := actProc
      handling := some (.rmPending ⟨(pendingEvent msg).ev, val.id, 0⟩)
      inFlight := [] }, []) := by
  simp only [step, E42Xapp.step, e2apMsgHandleXapp_eq, handleAnswer, found, ok_bind, flying,
    pure_bind, List.erase_cons_head]
  rfl

/-- It is answered and finished, and then nothing is live. -/
theorem Reached.cycle {sync : SyncUi} {k : UInt64} (reached : Reached (idle sync k))
    (few : k.toNat < 2 ^ 16) : Reached (idle ⟨true, true⟩ (k + 1)) := by
  have sent := (reached.control few).next (.xapp (.runCall 0 1)) ⟨_, rfl, trivial⟩ rfl
  have timed := sent.next (.xapp (.runCall 0 1)) ⟨_, rfl, Nat.one_pos, List.not_mem_nil⟩ rfl
  have pending := timed.next (.xapp (.runCall 0 1)) ⟨_, rfl, trivial⟩ rfl
  have waits := pending.next (.xapp (.runCall 0 1)) ⟨_, rfl, trivial⟩ rfl
  have answered := waits.next (.xapp (.answer (ActiveProcedures.control k)))
    ⟨rfl, List.mem_singleton_self _⟩ (step_answer rfl (waits.found rfl).1)
  have removed := answered.next (.xapp .resumeAnswer) rfl rfl
  have stopped := removed.next (.xapp .resumeAnswer) rfl rfl
  have signalled := stopped.next (.xapp .resumeAnswer) rfl rfl
  have woken := signalled.next (.xapp (.runCall 0 1)) ⟨_, rfl, rfl⟩ rfl
  have acked := woken.next (.xapp (.runCall 0 1)) ⟨_, rfl, trivial⟩ rfl
  exact acked.next (.xapp (.runCall 0 1)) ⟨_, rfl, trivial⟩
    (step_finish rfl (acked.found rfl).2)

/-- However many controls have finished, the next one may start. -/
theorem reached_idle (n : Nat) (few : n < 2 ^ 16) :
    ∃ sync, Reached (idle sync (UInt64.ofNat (n + 1))) := by
  induction n with
  | zero => exact ⟨initSyncUi, [], .start⟩
  | succ n ih =>
      obtain ⟨sync, reached⟩ := ih (Nat.lt_of_succ_lt few)
      have narrow : (UInt64.ofNat (n + 1)).toNat < 2 ^ 16 := by
        rw [UInt64.toNat_ofNat', Nat.mod_eq_of_lt (by omega)]
        exact few
      have next := reached.cycle narrow
      rw [UInt64.ofNat_add (n + 1)]
      exact ⟨_, next⟩

/-- No procedure is live and still the next control finds no id. -/
theorem ids_run_out : ∃ (xapp : E42Xapp) (h : History Unit), oneModel.Run xapp h ∧
    (∀ reqId, procedures h reqId = none) ∧
    step noPayload xapp (.xapp (.control node 3)) = .error ricReqIdOverflow := by
  obtain ⟨sync, h, run⟩ := reached_idle (2 ^ 16 - 1) (by omega)
  have mirror := mirror_run run
  refine ⟨_, h, run, fun reqId => ?_, ?_⟩
  · rw [mirror.holds.eq_none_iff]
    exact List.not_mem_nil
  · exact (step_overflow _ mirror.filed.few rfl).mpr ⟨rfl, Nat.le_refl _⟩

end ActiveProcedures

end FlexRic
