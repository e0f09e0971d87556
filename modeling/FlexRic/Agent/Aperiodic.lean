import FlexRic.Agent.InStep
import FlexRic.Agent.Indications

/-! # Aperiodic indications

Every event puts the text of its request id into the pipe, and the loop reads
four bytes for it. The queue and the pipe stay in step exactly when the text has
four digits. Shorter texts run together in one read, and of longer ones some
bytes stay behind.
-/

namespace FlexRic

open Assertion

namespace E2Agent

variable {plugin : List UInt16} {ge2nid : GlobalE2NodeId} {compConfAdd : List NodeCompId}
  {ag ag' : E2Agent} {e : AgentEvent} {out : List AgentMsg} {h : History}

/-- The event that a step pushes onto the queue. -/
def pushes (ag : E2Agent) : AgentEvent → Option AindEvent
  | .produce i =>
      match ag.chan.producers[i]? with
      | some (.push e) => some e
      | _ => none
  | _ => none

/-- The event that a step reports. -/
def reports (ag : E2Agent) : AgentEvent → Option AindEvent
  | .report _ =>
      match ag.chan.loop with
      | .report e _ => some e
      | _ => none
  | _ => none

/-- The events pushed so far, the oldest first. -/
def pushed : History → List AindEvent
  | [] => []
  | x :: h => pushed h ++ (x.before.pushes x.event).toList

/-- The events reported so far, the oldest first. -/
def reported : History → List AindEvent
  | [] => []
  | x :: h => reported h ++ (x.before.reports x.event).toList

/-- Producers work for these request ids only. -/
def PushedFrom (S : UInt32 → Prop) (_ : E2Agent) : AgentEvent → Prop
  | .asyncEvent ricReqId _ => S ricReqId
  | _ => True

/-- The steps of the loop on an aperiodic event. -/
def ChannelStep : AgentEvent → Prop
  | .wake | .report _ | .readPipe => True
  | _ => False

/-- What the channel is for. -/
structure ChannelKept (h : History) (ag : E2Agent) : Prop where
  /-- Events are reported once each, in the order they were pushed. -/
  fifo : pushed h = reported h ++ ag.chan.taken ++ ag.chan.aind
  /-- No assertion of the loop fails. -/
  goes : ∀ e, ag.Enabled e → ChannelStep e → ∃ ag' out, ag.step e = .ok (ag', out)
  /-- The loop waits in a read only for a producer that is about to write. -/
  served : ag.Reading → ag.chan.pipe = [] → ∃ ricReqId, .write ricReqId ∈ ag.chan.producers
  /-- Where neither the producers nor the loop can go on, everything is reported. -/
  settled : ag.chan.producers = [] → ag.Waiting → ¬ag.Enabled .wake → reported h = pushed h
  /-- With no event in flight the pipe holds no bytes. -/
  emptied : ag.chan.producers = [] → ag.Waiting → ag.chan.aind = [] → ag.chan.pipe = []

theorem taken_loopOn (events : List AindEvent) (c : Channel) :
    Channel.taken { c with loop := Channel.loopOn events } = events := by
  cases events <;> rfl

/-- A step pushes at the back of the queue and reports at the front of the array. -/
theorem fifo_step (enabled : ag.Enabled e) (step : Step ag e ag' out) :
    ag.chan.taken ++ ag.chan.aind ++ (ag.pushes e).toList =
      (ag.reports e).toList ++ ag'.chan.taken ++ ag'.chan.aind := by
  cases step with
  | produce i =>
      simp only [pushes, reports, Channel.produce, Option.toList_none, List.nil_append]
      split
      · rename_i e here
        simp [here, Channel.taken]
      · rename_i other
        split <;> simp_all [Channel.taken]
  | wake some =>
      have idle : ag.chan.loop = .idle := enabled.1.2
      have array := taken_loopOn ag.chan.aind { ag.chan with aind := [], edge := false }
      simp only at array
      simp only [pushes, reports, Option.toList_none, array]
      simp [Channel.taken, idle]
  | report at_ => simp [pushes, reports, Channel.taken, at_]
  | @readPipe rest at_ rc =>
      have array := taken_loopOn rest { ag.chan with pipe := ag.chan.pipe.drop 4 }
      simp only at array
      simp only [pushes, reports, Option.toList_none, array]
      simp [Channel.taken, at_]
  | _ => simp [pushes, reports, Channel.taken]

theorem fifo_run (run : (machine plugin ge2nid compConfAdd).Run ag h) :
    pushed h = reported h ++ ag.chan.taken ++ ag.chan.aind := by
  induction run with
  | start => rfl
  | @next ag h e ag' out run enabled moved ih =>
      have order := fifo_step enabled (step_cases enabled moved)
      simp only [pushed, reported, ih]
      simp only [List.append_assoc] at order ⊢
      rw [order]

theorem inStep_step (inv : ag.chan.InStep) (enabled : ag.Enabled e)
    (four : PushedFrom Channel.FourDigits ag e) (step : Step ag e ag' out) : ag'.chan.InStep := by
  cases step with
  | asyncEvent found =>
      have same : _ = _ := of_decide_eq_true (AssocRbTree.findIf_some found).2
      exact inv.async (same ▸ four)
  | produce i => exact inv.produce i
  | wake some => exact inv.wake enabled.1.2
  | report at_ => exact inv.report at_
  | readPipe at_ rc => exact inv.read at_ enabled.2
  | _ => exact inv

theorem inStep_run (run : (machine plugin ge2nid compConfAdd).Run ag h)
    (four : Machine.Meets (PushedFrom Channel.FourDigits) h) : ag.chan.InStep :=
  run.invariant_of_meets (I := fun ag => ag.chan.InStep) (C := PushedFrom Channel.FourDigits)
    .init (fun inv enabled four moved => inStep_step inv enabled four (step_cases enabled moved))
    four

theorem goes_of_inStep (inv : ag.chan.InStep) (enabled : ag.Enabled e) (step : ChannelStep e) :
    ∃ ag' out, ag.step e = .ok (ag', out) := by
  cases e with
  | wake =>
      obtain ⟨⟨-, idle⟩, -, some⟩ := enabled
      have balanced := inv.balanced
      have four := inv.four_bytes some
      simp only [Channel.unread, idle] at balanced
      have queued : 0 < ag.chan.aind.length := by omega
      simp only [E2Agent.step, Channel.aindEvent]
      rw [check_pass _ queued]
      exact ⟨_, _, rfl⟩
  | report hasValue => exact ⟨_, _, rfl⟩
  | readPipe =>
      obtain ⟨⟨rest, at_⟩, some⟩ := enabled
      have four := inv.four_bytes some
      have rc : (ag.chan.pipe.take 4).length ≠ 1 := by
        rw [List.length_take]
        omega
      simp only [E2Agent.step, Channel.readPipe, at_, Channel.consumeFdAsync]
      rw [check_pass _ rc]
      exact ⟨_, _, rfl⟩
  | _ => exact step.elim

theorem kept_of_inStep (inv : ag.chan.InStep)
    (fifo : pushed h = reported h ++ ag.chan.taken ++ ag.chan.aind) : ChannelKept h ag where
  fifo := fifo
  goes e enabled step := goes_of_inStep inv enabled step
  served := by
    intro reading empty
    obtain ⟨rest, at_⟩ := reading
    have balanced := inv.balanced
    simp only [Channel.unread, at_, empty, List.length_nil] at balanced
    have some : 0 < ag.chan.producers.countP Channel.writes := by omega
    obtain ⟨p, mem, writing⟩ := List.countP_pos_iff.mp some
    cases p with
    | push e => cases writing
    | write ricReqId => exact ⟨ricReqId, mem⟩
  settled := by
    intro none waiting asleep
    obtain ⟨started, idle⟩ := waiting
    have balanced := inv.balanced
    simp only [Channel.unread, idle, none, List.countP_nil] at balanced
    have drained : ag.chan.pipe.length = 0 := by
      cases noticed : ag.chan.edge with
      | false =>
          have bound := inv.noticed noticed
          simp only [Channel.unread, idle] at bound
          omega
      | true =>
          by_contra bytes
          exact asleep ⟨⟨started, idle⟩, noticed, fun empty => bytes (by rw [empty]; rfl)⟩
    have nothing : ag.chan.aind = [] := List.eq_nil_of_length_eq_zero (by omega)
    rw [fifo, nothing, Channel.taken, idle]
    simp
  emptied := by
    rintro none ⟨-, idle⟩ nothing
    have balanced := inv.balanced
    simp only [Channel.unread, idle, none, nothing, List.countP_nil, List.length_nil] at balanced
    exact List.eq_nil_of_length_eq_zero (by omega)

section Counterexamples

variable {S : UInt32 → Prop} {c : Channel} {indEv : IndEvent} {fd : Fd} {ricReqId : UInt32}

/-- Some run in which the producers work for `S` only leads here. -/
def Reaches (S : UInt32 → Prop) (ag : E2Agent) : Prop :=
  ∃ h, (machine [3] node [.f1 5]).Run ag h ∧ Machine.Meets (PushedFrom S) h

theorem Reaches.next (reached : Reaches S ag) (enabled : ag.Enabled e) (mine : PushedFrom S ag e)
    (moved : ag.step e = .ok (ag', out)) : Reaches S ag' := by
  obtain ⟨h, run, meets⟩ := reached
  exact ⟨_, .next run enabled moved, Machine.meets_cons.mpr ⟨mine, meets⟩⟩

/-- The agent with another channel. -/
def withChan (ag : E2Agent) (c : Channel) : E2Agent := { ag with chan := c }

/-- The event that a producer pushes for this subscription. -/
def aindEventOf (indEv : IndEvent) (indData : UInt64) : AindEvent :=
  ⟨indEv.ricId, indEv.sm, indEv.actionId, indData⟩

/-- The agent after its start. -/
def startedAgent (ag : E2Agent) (fd : Fd) : E2Agent :=
  { ag with
    transIdSetupReq := ag.transIdSetupReq + 1
    timers := fd :: ag.timers
    pending := ag.pending.insert fd .setupRequest
    started := true }

theorem start_ok {fd : Fd} (loaded : 0 < ag.plugin.length) :
    ag.step (.start fd) = .ok (startedAgent ag fd, [.setupRequest ag.setupRequest]) := by
  simp only [step, e2StartAgent, genSetupRequest, pendSetupRequest, createTimerMsAsioAgent,
    bind_eq_ok, check_eq_ok, pure_eq_ok, Prod.exists, Prod.mk.injEq]
  exact ⟨_, _, ⟨(), loaded, rfl, rfl⟩, _, ⟨_, ⟨(), by decide, rfl⟩, rfl⟩, rfl, rfl⟩

/-- The agent has one aperiodic subscription, and nothing has happened on it. -/
theorem reaches_subscribed (S : UInt32 → Prop) (ricReqId : UInt32) :
    ∃ ag indEv fd, Reaches S ag ∧ ag.chan = .init ∧ ag.started = true ∧
      ag.indEvent.right.findIf (eqIndEventRicReqId ricReqId) = some (indEv, fd) := by
  have start : Reaches S (e2InitAgent [3] node [.f1 5]) := ⟨[], .start, List.forall_mem_nil _⟩
  have started : Reaches S (startedAgent (e2InitAgent [3] node [.f1 5]) 5) :=
    start.next (e := .start 5) (by decide) trivial (start_ok (by decide))
  have enabled : (startedAgent (e2InitAgent [3] node [.f1 5]) 5).Enabled
      (.subscriptionRequest 6 (reportRequest ricReqId 3) .aperiodic) :=
    ⟨⟨rfl, rfl⟩, by decide, by decide⟩
  have acceptable : Acceptable (startedAgent (e2InitAgent [3] node [.f1 5]) 5)
      (reportRequest ricReqId 3) .aperiodic :=
    ⟨rfl, show (0 : UInt16) < 3 by decide, List.mem_singleton_self 3, trivial⟩
  obtain ⟨ag, out, moved⟩ := subscriptionRequest_ok acceptable
  have subscribed := started.next enabled trivial moved
  cases step_cases enabled moved with
  | @aperiodic _ _ action supported =>
      let ev := E2Agent.subscribed (reportRequest ricReqId 3) action .aperiodic
      have only := List.perm_singleton.mp
        (AssocRbTree.insert_perm (.init : AssocRbTree cmpIndEvent Fd) ev 0)
      have found : ((.init : AssocRbTree cmpIndEvent Fd).insert ev 0).findIf
          (eqIndEventRicReqId ricReqId) = some (ev, 0) := by
        rw [AssocRbTree.findIf, only]
        simp [eqIndEventRicReqId, ev, E2Agent.subscribed, reportRequest]
      exact ⟨_, ev, 0, subscribed, rfl, rfl, found⟩

theorem Reaches.produced (reached : Reaches S (withChan ag c))
    (found : ag.indEvent.right.findIf (eqIndEventRicReqId ricReqId) = some (indEv, fd))
    (mine : S ricReqId) (none : c.producers = []) (indData : UInt64) :
    Reaches S (withChan ag { c with
      aind := c.aind ++ [aindEventOf indEv indData]
      pipe := c.pipe ++ Channel.decimal ricReqId
      edge := true }) := by
  have same : ricReqId = indEv.ricId.ricReqId :=
    of_decide_eq_true (AssocRbTree.findIf_some found).2
  obtain ⟨aind, pipe, edge, producers, loop⟩ := c
  obtain rfl : producers = [] := none
  have asked : (withChan ag ⟨aind, pipe, edge, [], loop⟩).step (.asyncEvent ricReqId indData) =
      .ok (withChan ag ⟨aind, pipe, edge, [.push (aindEventOf indEv indData)], loop⟩, []) := by
    simp only [step, e2AsyncEventAgent, withChan, found]
    rfl
  have pushed := (reached.next (e := .asyncEvent ricReqId indData) trivial mine asked).next
    (e := .produce 0) (Nat.zero_lt_one) trivial rfl
  have written := pushed.next (e := .produce 0) (Nat.zero_lt_one) trivial rfl
  rw [same]
  exact written

theorem Reaches.wake (reached : Reaches S (withChan ag c)) (started : ag.started = true)
    (idle : c.loop = .idle) (edge : c.edge = true) (bytes : c.pipe ≠ [])
    (some : 0 < c.aind.length) :
    Reaches S (withChan ag { c with
      aind := [], edge := false, loop := Channel.loopOn c.aind }) := by
  have moved : (withChan ag c).step .wake = .ok (withChan ag { c with
      aind := [], edge := false, loop := Channel.loopOn c.aind }, []) := by
    simp only [step, Channel.aindEvent]
    rw [check_pass _ (show 0 < (withChan ag c).chan.aind.length from some)]
    rfl
  exact reached.next (e := .wake) ⟨⟨started, idle⟩, edge, bytes⟩ trivial moved

theorem Reaches.report {ev : AindEvent} {rest : List AindEvent}
    (reached : Reaches S (withChan ag c)) (at_ : c.loop = .report ev rest) :
    Reaches S (withChan ag { c with loop := .read rest }) := by
  have moved : (withChan ag c).step (.report false) =
      .ok (withChan ag { c with loop := .read rest }, []) := by
    simp only [step, reportAindEvent, withChan, at_]
    rfl
  exact reached.next (e := .report false) ⟨ev, rest, at_⟩ trivial moved

theorem Reaches.read {rest : List AindEvent} (reached : Reaches S (withChan ag c))
    (at_ : c.loop = .read rest) (bytes : 1 < c.pipe.length) :
    Reaches S (withChan ag { c with pipe := c.pipe.drop 4, loop := Channel.loopOn rest }) := by
  have rc : (c.pipe.take 4).length ≠ 1 := by
    rw [List.length_take]
    omega
  have some : c.pipe ≠ [] := fun none => by simp [none] at bytes
  have moved : (withChan ag c).step .readPipe = .ok (withChan ag { c with
      pipe := c.pipe.drop 4, loop := Channel.loopOn rest }, []) := by
    simp only [step, Channel.readPipe, withChan, at_, Channel.consumeFdAsync]
    rw [check_pass _ rc]
    rfl
  exact reached.next (e := .readPipe) ⟨⟨rest, at_⟩, some⟩ trivial moved

/-- Several events for one request, all of them pushed and written. -/
def loadedChan (ev : AindEvent) (ricReqId : UInt32) (n : Nat) : Channel where
  aind := List.replicate n ev
  pipe := (List.replicate n (Channel.decimal ricReqId)).flatten
  edge := decide (0 < n)
  producers := []
  loop := .idle

theorem length_loadedChan (ev : AindEvent) (ricReqId : UInt32) (n : Nat) :
    (loadedChan ev ricReqId n).pipe.length = n * (Channel.decimal ricReqId).length := by
  simp [loadedChan]

theorem reaches_loaded (mine : S ricReqId) (n : Nat) :
    ∃ ag ev, ag.started = true ∧ Reaches S (withChan ag (loadedChan ev ricReqId n)) := by
  obtain ⟨ag, indEv, fd, reached, chan, started, found⟩ := reaches_subscribed S ricReqId
  refine ⟨ag, aindEventOf indEv 0, started, ?_⟩
  induction n with
  | zero =>
      have same : withChan ag (loadedChan (aindEventOf indEv 0) ricReqId 0) = ag := by
        rw [show loadedChan (aindEventOf indEv 0) ricReqId 0 = .init from rfl, ← chan]
        rfl
      rw [same]
      exact reached
  | succ n ih =>
      have more := ih.produced found mine rfl 0
      have aind : List.replicate n (aindEventOf indEv 0) ++ [aindEventOf indEv 0] =
          List.replicate (n + 1) (aindEventOf indEv 0) := List.replicate_succ'.symm
      have pipe : (List.replicate n (Channel.decimal ricReqId)).flatten ++
          Channel.decimal ricReqId =
            (List.replicate (n + 1) (Channel.decimal ricReqId)).flatten := by
        rw [List.replicate_succ', List.flatten_concat]
      simp only [loadedChan, aind, pipe] at more ⊢
      simpa using more

/-- The loop has taken all the events and reported the first one. -/
theorem reaches_reported (mine : S ricReqId) (n : Nat) :
    ∃ ag ev, ag.started = true ∧ Reaches S (withChan ag
      { loadedChan ev ricReqId (n + 1) with
        aind := [], edge := false, loop := .read (List.replicate n ev) }) := by
  obtain ⟨ag, ev, started, reached⟩ := reaches_loaded mine (n + 1)
  have bytes : (loadedChan ev ricReqId (n + 1)).pipe ≠ [] := by
    intro empty
    have length := length_loadedChan ev ricReqId (n + 1)
    have pos := Channel.length_decimal_pos ricReqId
    rw [empty, List.length_nil] at length
    exact absurd length (Nat.ne_of_lt (Nat.mul_pos (Nat.succ_pos n) pos))
  have woken := reached.wake started rfl (decide_eq_true (Nat.succ_pos n)) bytes
    (by simp [loadedChan])
  exact ⟨ag, ev, started, woken.report rfl⟩

/-- Where the loop owes a read and finds one byte, its assertion fails. -/
theorem not_goes_of_one_byte {rest : List AindEvent} (at_ : c.loop = .read rest)
    (one : c.pipe.length = 1) : ¬ChannelKept h (withChan ag c) := by
  intro kept
  have some : c.pipe ≠ [] := fun none => by simp [none] at one
  have enabled : (withChan ag c).Enabled .readPipe := ⟨⟨rest, at_⟩, some⟩
  obtain ⟨ag', out, moved⟩ := kept.goes .readPipe enabled trivial
  cases step_cases enabled moved with
  | readPipe _ rc =>
      have read : (c.pipe.take 4).length = 1 := by
        rw [List.length_take, one]
        rfl
      exact rc read

/-- An id whose text has another length gives a run that goes wrong. -/
theorem goes_wrong (mine : S ricReqId) (other : ¬Channel.FourDigits ricReqId) :
    ∃ ag, Reaches S ag ∧ ∀ h, ¬ChannelKept h ag := by
  have pos := Channel.length_decimal_pos ricReqId
  have length (ev : AindEvent) (n : Nat) := length_loadedChan ev ricReqId n
  rw [← Channel.length_decimal_eq_four] at other
  generalize (Channel.decimal ricReqId).length = digits at pos other length
  obtain rfl | rfl | rfl | long : digits = 1 ∨ digits = 2 ∨ digits = 3 ∨ 5 ≤ digits := by omega
  · -- one event, one byte
    obtain ⟨ag, ev, started, reached⟩ := reaches_reported mine 0
    exact ⟨_, reached, fun h => not_goes_of_one_byte rfl (length ev 1)⟩
  · -- the first read takes the bytes of both events, and the second one never returns
    obtain ⟨ag, ev, started, reached⟩ := reaches_reported mine 1
    have four := length ev 2
    have stuck := (reached.read rfl (four ▸ by decide)).report rfl
    refine ⟨_, stuck, ?_⟩
    intro h kept
    have empty : (loadedChan ev ricReqId 2).pipe.drop 4 = [] :=
      List.drop_eq_nil_of_le (Nat.le_of_eq four)
    obtain ⟨_, waiting⟩ := kept.served ⟨_, rfl⟩ empty
    cases waiting
  · -- two reads of three take the bytes of the third but one
    obtain ⟨ag, ev, started, reached⟩ := reaches_reported mine 2
    have nine := length ev 3
    have five : ((loadedChan ev ricReqId 3).pipe.drop 4).length = 5 := by
      rw [List.length_drop, nine]
    have one : (((loadedChan ev ricReqId 3).pipe.drop 4).drop 4).length = 1 := by
      rw [List.length_drop, five]
    have first := (reached.read rfl (nine ▸ by decide)).report rfl
    have second := (first.read rfl (five ▸ by decide)).report rfl
    exact ⟨_, second, fun h => not_goes_of_one_byte rfl one⟩
  · -- some bytes stay behind
    obtain ⟨ag, ev, started, reached⟩ := reaches_reported mine 0
    have bytes := length ev 1
    have done := reached.read rfl (show 1 < (loadedChan ev ricReqId 1).pipe.length by omega)
    refine ⟨_, done, ?_⟩
    intro h kept
    have empty : (loadedChan ev ricReqId 1).pipe.drop 4 = [] :=
      kept.emptied rfl ⟨started, rfl⟩ rfl
    have none := congrArg List.length empty
    rw [List.length_drop, bytes, List.length_nil] at none
    omega

/-- For the ids of a set: whatever the threads do, the queue and the pipe stay in
    step in every run in which producers work for these ids only, if and only if
    each of them has four decimal digits. -/
theorem channel_in_step_iff (S : UInt32 → Prop) :
    (∀ plugin ge2nid compConfAdd ag h, (machine plugin ge2nid compConfAdd).Run ag h →
      Machine.Meets (PushedFrom S) h → ChannelKept h ag) ↔
    ∀ ricReqId, S ricReqId → Channel.FourDigits ricReqId := by
  constructor
  · intro kept ricReqId mine
    by_contra other
    obtain ⟨ag, ⟨h, run, meets⟩, wrong⟩ := goes_wrong mine other
    exact wrong h (kept [3] node [.f1 5] ag h run meets)
  · intro four plugin ge2nid compConfAdd ag h run meets
    have digits : Machine.Meets (PushedFrom Channel.FourDigits) h := by
      intro x mem
      have here := meets x mem
      cases event : x.event with
      | asyncEvent ricReqId indData =>
          rw [event] at here
          exact four ricReqId here
      | _ => trivial
    exact kept_of_inStep (inStep_run run digits) (fifo_run run)

/-- Two events under an id of five digits. Both are pushed before the loop wakes
    up, and the second one's text is written after it. -/
def fiveDigits : List AgentEvent :=
  [.start 5, .subscriptionRequest 6 (reportRequest 10000 3) .aperiodic,
    .asyncEvent 10000 1, .produce 0, .produce 0, .asyncEvent 10000 2, .produce 0, .wake,
    .produce 0, .report true, .readPipe, .report true, .readPipe]

/-- The loop is told of the bytes that stayed behind and finds the queue empty. -/
theorem channel_not_in_step :
    ¬∀ (plugin : List UInt16) (ge2nid : GlobalE2NodeId) (compConfAdd : List NodeCompId)
        (ag : E2Agent) (h : History),
      (machine plugin ge2nid compConfAdd).Run ag h → ChannelKept h ag := by
  intro kept
  have fails : (machine [3] node [.f1 5]).failure
      ((machine [3] node [.f1 5]).replay fiveDigits).1 .wake = some aindQueueEmpty := by
    decide +kernel
  have run := (machine [3] node [.f1 5]).run_replay fiveDigits
  obtain ⟨_, _, goes⟩ := (kept [3] node [.f1 5] _ _ run).goes .wake (by decide +kernel) trivial
  cases goes.symm.trans (Machine.failure_eq_some.mp fails)

end Counterexamples

end E2Agent

end FlexRic
