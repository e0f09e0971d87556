import FlexRic.XApp.Steps

/-! # What holds in every run of the xApp

Whatever the threads and the answers do, the registry stays in order and knows
every request that is on its way under the id that it gave out; and the watched
timers are those of the pending events, of the calls that are about to add one
and of the answer that is about to stop one.
-/

namespace FlexRic

/-- The call is about to add the pending event of this timer. -/
def Call.holds (call : Call) (fd : Fd) : Bool := call.stage = .addPending fd

theorem Call.holds_addPending (msg : E42Msg) (fd fd' : Fd) :
    Call.holds ⟨msg, .addPending fd⟩ fd' = (fd == fd') := by
  simp [holds, Bool.beq_eq_decide_eq]

namespace E42Xapp

variable {plugin : List UInt16} {id : UInt16} {xapp xapp' : E42Xapp} {e : XappEvent}
  {out : List E42Msg} {h : History}

/-- The request carries an id that was given out, and as long as its procedure is
    registered the registry has its other fields. -/
structure Known (p : ActProc) (msg : E42Msg) : Prop where
  given : 0 < msg.ricId.ricReqId.toNat ∧ msg.ricId.ricReqId.toNat < p.keyId.toNat
  same : ∀ e ∈ p.entries, e.1 = msg.ricId.ricReqId → { e.2.id with ricReqId := e.1 } = msg.ricId

/-- The requests of the calls and those that are out. -/
def requests (xapp : E42Xapp) : List E42Msg := xapp.calls.map Call.msg ++ xapp.inFlight

structure Filed (xapp : E42Xapp) : Prop where
  ordered : xapp.actProc.Ordered
  started : 0 < xapp.actProc.keyId.toNat
  few : xapp.actProc.keyId.toNat ≤ 2 ^ 16
  known : ∀ msg ∈ xapp.requests, Known xapp.actProc msg

theorem Filed.short (filed : Filed xapp) : xapp.actProc.Short :=
  filed.ordered.short (Nat.lt_of_le_of_lt filed.few (by decide))

section Registry

variable {p p' : ActProc} {msg : E42Msg}

/-- A new procedure gets an id above all others. -/
theorem addActProc_spec {type : ActProcValE} {ricId : RicGenId} {e2Node : GlobalE2NodeId}
    {smCb : Option Nat} {reqId : UInt32} (ordered : p.Ordered) (few : p.keyId.toNat ≤ 2 ^ 16)
    (added : addActProc p type ricId e2Node smCb = .ok (reqId, p')) :
    reqId.toNat = p.keyId.toNat ∧ p'.keyId.toNat = p.keyId.toNat + 1 ∧
      p'.entries = p.entries ++ [(reqId, ⟨type, ricId, smCb, e2Node⟩)] ∧ p'.Ordered :=
  AssocReg.pushBack_ok ordered (by omega) added

theorem key_lt_of_mem {entry : UInt32 × ActProcVal} (ordered : p.Ordered)
    (mem : entry ∈ p.entries) : entry.1.toNat < p.keyId.toNat :=
  ordered.below _ (AssocReg.mem_entries.mp mem)

theorem Known.add {reqId : UInt32} {val : ActProcVal} (known : Known p msg)
    (fresh : reqId.toNat = p.keyId.toNat) (next : p'.keyId.toNat = p.keyId.toNat + 1)
    (entries : p'.entries = p.entries ++ [(reqId, val)]) : Known p' msg where
  given := ⟨known.given.1, next ▸ Nat.lt_succ_of_lt known.given.2⟩
  same entry mem key := by
    rw [entries] at mem
    rcases List.mem_append.mp mem with old | new
    · exact known.same entry old key
    · rw [List.mem_singleton.mp new] at key
      have given := known.given.2
      rw [← key, fresh] at given
      exact absurd given (Nat.lt_irrefl _)

/-- The request of the new procedure itself. -/
theorem known_added {reqId : UInt32} {val : ActProcVal} (ordered : p.Ordered)
    (started : 0 < p.keyId.toNat) (fresh : reqId.toNat = p.keyId.toNat)
    (next : p'.keyId.toNat = p.keyId.toNat + 1) (entries : p'.entries = p.entries ++ [(reqId, val)])
    (named : msg.ricId = { val.id with ricReqId := reqId }) : Known p' msg where
  given := by
    rw [named, next]
    simp only [fresh]
    omega
  same entry mem key := by
    rw [entries] at mem
    rw [named] at key ⊢
    rcases List.mem_append.mp mem with old | new
    · have below := key_lt_of_mem ordered old
      rw [key, fresh] at below
      exact absurd below (Nat.lt_irrefl _)
    · rw [List.mem_singleton.mp new]

theorem Known.fill {it : Nat} {ricReqId : UInt16} {stored : ActProcVal} (known : Known p msg)
    (there : p.arr[it]? = some ⟨ricReqId.toUInt32, true, stored⟩) :
    Known (p.update it (·.filled ricReqId)) msg where
  given := known.given
  same entry mem key := by
    obtain ⟨before, after, entries, updated⟩ :=
      AssocReg.update_entries there (·.filled ricReqId)
    rw [updated] at mem
    rcases List.mem_append.mp mem with inBefore | inRest
    · exact known.same entry (entries ▸ List.mem_append_left _ inBefore) key
    · rcases List.mem_cons.mp inRest with rfl | inAfter
      · exact known.same (ricReqId.toUInt32, stored) (by simp [entries]) key
      · exact known.same entry (by simp [entries, inAfter]) key

theorem Known.erase {it : Nat} {key : UInt32} {stored : ActProcVal} (known : Known p msg)
    (there : p.arr[it]? = some ⟨key, true, stored⟩) : Known (p.erase it) msg where
  given := by simpa using known.given
  same entry mem same := by
    obtain ⟨before, after, entries, erased⟩ := AssocReg.erase_entries there
    rw [erased] at mem
    refine known.same entry ?_ same
    rw [entries]
    exact (List.mem_append.mp mem).elim (List.mem_append_left _) fun inAfter =>
      List.mem_append_right _ (List.mem_cons_of_mem _ inAfter)

/-- A request for the procedure that was found. -/
theorem known_filled {it : Nat} {ricReqId : UInt16} {stored : ActProcVal} (ordered : p.Ordered)
    (positive : 0 < ricReqId.toUInt32)
    (there : p.arr[it]? = some ⟨ricReqId.toUInt32, true, stored⟩)
    (named : msg.ricId = (stored.filled ricReqId).id) :
    Known (p.update it (·.filled ricReqId)) msg where
  given := by
    have mem := AssocReg.mem_entries.mpr (List.mem_of_getElem? there)
    rw [named]
    exact ⟨UInt32.lt_iff_toNat_lt.mp positive, key_lt_of_mem ordered mem⟩
  same entry mem key := by
    obtain ⟨before, after, -, updated⟩ := AssocReg.update_entries there (·.filled ricReqId)
    rw [named] at key ⊢
    have stored' : (ricReqId.toUInt32, stored.filled ricReqId) ∈
        (p.update it (·.filled ricReqId)).entries := by simp [updated]
    rw [(ordered.update _).eq_of_key mem stored' key]
    rfl

/-- The stored id of a procedure that is found is the id of the request. -/
theorem Known.filled_id {it : Nat} {stored : ActProcVal} {ricReqId : UInt16} (known : Known p msg)
    (there : p.arr[it]? = some ⟨ricReqId.toUInt32, true, stored⟩)
    (same : ricReqId.toUInt32 = msg.ricId.ricReqId) : (stored.filled ricReqId).id = msg.ricId :=
  known.same _ (AssocReg.mem_entries.mpr (List.mem_of_getElem? there)) same

end Registry

theorem Filed.toUInt16_toUInt32 (filed : Filed xapp) {msg : E42Msg} (mem : msg ∈ xapp.requests) :
    msg.ricId.ricReqId.toUInt16.toUInt32 = msg.ricId.ricReqId := by
  have given := (filed.known msg mem).given.2
  have few := filed.few
  rw [← UInt32.toNat_inj]
  simp only [UInt16.toNat_toUInt32, UInt32.toNat_toUInt16]
  omega

theorem Filed.enter {type : ActProcValE} {rfId : UInt16} {node : GlobalE2NodeId}
    {smCb : Option Nat} {reqId : UInt32} {actProc : ActProc} {call : Call} (filed : Filed xapp)
    (added : addActProc xapp.actProc type ⟨0, 0, rfId⟩ node smCb = .ok (reqId, actProc))
    (few : reqId.toNat < 2 ^ 16) (named : call.msg.ricId = ⟨reqId, 0, rfId⟩) :
    Filed { xapp with actProc := actProc, calls := xapp.calls ++ [call] } := by
  obtain ⟨fresh, next, entries, ordered⟩ := addActProc_spec filed.ordered filed.few added
  refine ⟨ordered, by simp only [next]; omega, by simp only [next]; omega, ?_⟩
  intro msg mem
  simp only [requests, List.map_append, List.map_cons, List.map_nil, List.mem_append,
    List.mem_singleton] at mem
  rcases mem with (old | rfl) | old
  · exact (filed.known msg (List.mem_append_left _ old)).add fresh next entries
  · exact known_added filed.ordered filed.started fresh next entries named
  · exact (filed.known msg (List.mem_append_right _ old)).add fresh next entries

/-- A call that goes on with its request brings in no other one. -/
theorem requests_advance {i : Nat} {call : Call} {rest : Option Call} {msg : E42Msg}
    (here : xapp.calls[i]? = some call) (same : ∀ c ∈ rest, c.msg = call.msg)
    (mem : msg ∈ (advance xapp.calls i rest).map Call.msg) : msg ∈ xapp.requests := by
  obtain ⟨c, among, rfl⟩ := List.mem_map.mp mem
  refine List.mem_append_left _ (List.mem_map.mpr ?_)
  rcases mem_advance among with old | next
  · exact ⟨c, old, rfl⟩
  · exact ⟨call, List.mem_of_getElem? here, (same c next).symm⟩

theorem Filed.advance {i : Nat} {call : Call} {rest : Option Call} (filed : Filed xapp)
    (here : xapp.calls[i]? = some call) (same : ∀ c ∈ rest, c.msg = call.msg)
    (actProc : xapp'.actProc = xapp.actProc) (calls : xapp'.calls = advance xapp.calls i rest)
    (inFlight : ∀ msg ∈ xapp'.inFlight, msg ∈ xapp.requests) : Filed xapp' := by
  refine ⟨actProc ▸ filed.ordered, actProc ▸ filed.started, actProc ▸ filed.few, ?_⟩
  intro msg mem
  rw [actProc]
  rw [requests, calls] at mem
  exact filed.known msg ((List.mem_append.mp mem).elim (requests_advance here same) (inFlight msg))

theorem filed_init : Filed (initE42Xapp plugin id) where
  ordered := AssocReg.ordered_init
  started := Nat.one_pos
  few := Nat.one_le_two_pow
  known := nofun

/-- A search that finds a procedure leaves the requests as they are. -/
theorem Filed.fill {ricReqId : UInt16} {val : ActProcVal} {actProc : ActProc} (filed : Filed xapp)
    (found : findActProc xapp.actProc ricReqId = .ok (some val, actProc)) :
    Filed { xapp with actProc := actProc } := by
  obtain ⟨-, it, stored, there, rfl, rfl⟩ := findActProc_some found
  exact ⟨filed.ordered.update (·.filled _), filed.started, filed.few,
    fun msg mem => (filed.known msg mem).fill there⟩

theorem filed_step (filed : Filed xapp) (step : Step xapp e xapp' out) : Filed xapp' := by
  have flying : ∀ msg ∈ xapp.inFlight, msg ∈ xapp.requests :=
    fun msg mem => List.mem_append_right _ mem
  cases step with
  | report added few => exact filed.enter added few rfl
  | control added few => exact filed.enter added few rfl
  | rmReport found =>
      obtain ⟨positive, it, stored, there, rfl, rfl⟩ := findActProc_some found
      refine ⟨filed.ordered.update (·.filled _), filed.started, filed.few, ?_⟩
      intro msg mem
      simp only [requests, List.map_append, List.map_cons, List.map_nil, List.mem_append,
        List.mem_singleton] at mem
      rcases mem with (old | rfl) | old
      · exact (filed.known msg (List.mem_append_left _ old)).fill there
      · exact known_filled filed.ordered positive there rfl
      · exact (filed.known msg (flying msg old)).fill there
  | @send i opened msg here =>
      refine filed.advance here ?_ rfl rfl ?_
      · intro c next
        cases next
        rfl
      · intro msg' mem
        rcases List.mem_append.mp mem with old | new
        · exact flying msg' old
        · rw [List.mem_singleton.mp new]
          exact List.mem_append_left _ (List.mem_map.mpr ⟨_, List.mem_of_getElem? here, rfl⟩)
  | rmActProc here removed =>
      obtain ⟨it, stored, there, rfl⟩ := rmActProc_ok removed
      refine ⟨filed.ordered.erase there, by simpa using filed.started, by simpa using filed.few,
        fun msg mem => ?_⟩
      refine (filed.known msg ?_).erase there
      exact (List.mem_append.mp mem).elim
        (requests_advance here fun c none => nomatch none) (flying msg)
  | answer found =>
      have filled := filed.fill found
      refine ⟨filled.ordered, filled.started, filled.few, fun msg mem => filled.known msg ?_⟩
      exact (List.mem_append.mp mem).elim (List.mem_append_left _) fun flown =>
        flying msg (List.mem_of_mem_erase flown)
  | createTimer here | addPending here | condWait here | blocked here =>
      exact filed.advance here (fun c next => by cases next; rfl) rfl rfl flying
  | msgAck here =>
      refine filed.advance here (fun c next => ?_) rfl rfl flying
      split at next
      · cases next
      · cases next
        rfl
  | rmPending | rmFd | signal => exact ⟨filed.ordered, filed.started, filed.few, filed.known⟩

theorem filed_run (run : (machine plugin id).Run xapp h) : Filed xapp :=
  run.invariant (I := Filed) filed_init
    fun filed enabled moved => filed_step filed (step_cases enabled moved)

/-- The answer is about to stop this timer. -/
def stops (handling : Option AnswerStage) (fd : Fd) : Bool := handling = some (.rmFd fd)

theorem stops_rmFd (fd fd' : Fd) : stops (some (.rmFd fd)) fd' = (fd == fd') := by
  simp [stops, Bool.beq_eq_decide_eq]

structure Watched (xapp : E42Xapp) : Prop where
  once : xapp.timers.Nodup
  positive : 0 ∉ xapp.timers
  accounted : ∀ fd, xapp.timers.count fd =
    xapp.pending.firsts.count fd + xapp.calls.countP (·.holds fd) + (stops xapp.handling fd).toNat
  inverse : xapp.pending.Inverse

theorem Watched.firsts_nodup (watched : Watched xapp) : xapp.pending.firsts.Nodup := by
  apply List.nodup_iff_count_le_one.mpr
  intro fd
  have once := List.nodup_iff_count_le_one.mp watched.once fd
  have accounted := watched.accounted fd
  omega

theorem Watched.distinct (watched : Watched xapp) : xapp.pending.left.Distinct := by
  have apart : (xapp.pending.pairs.map Prod.fst).Nodup := watched.firsts_nodup
  refine (List.pairwise_map.mp apart).imp fun {a b} different ties => different ?_
  exact cmpFd_ties.mp ties

theorem Watched.mem_timers (watched : Watched xapp) {p : Fd × PendingEventXapp}
    (mem : p ∈ xapp.pending.pairs) : p.1 ∈ xapp.timers := by
  have stored : p.1 ∈ xapp.pending.firsts := List.mem_map.mpr ⟨p, mem, rfl⟩
  have accounted := watched.accounted p.1
  have positive := List.count_pos_iff.mpr stored
  exact List.count_pos_iff.mp (by omega)

theorem watched_init : Watched (initE42Xapp plugin id) where
  once := List.nodup_nil
  positive := nofun
  accounted _ := rfl
  inverse := BiMap.inverse_init

/-- A call that begins holds no timer. -/
theorem Watched.enter {call : Call} (watched : Watched xapp) (stage : ∀ fd, call.holds fd = false)
    (timers : xapp'.timers = xapp.timers) (pending : xapp'.pending = xapp.pending)
    (handling : xapp'.handling = xapp.handling) (calls : xapp'.calls = xapp.calls ++ [call]) :
    Watched xapp' where
  once := timers ▸ watched.once
  positive := timers ▸ watched.positive
  accounted fd := by
    rw [timers, pending, calls, handling, List.countP_append, List.countP_singleton, stage fd]
    exact watched.accounted fd
  inverse := pending ▸ watched.inverse

/-- A call that goes on without a timer. -/
theorem Watched.advance {i : Nat} {call : Call} {rest : Option Call} (watched : Watched xapp)
    (here : xapp.calls[i]? = some call) (before : ∀ fd, call.holds fd = false)
    (after : ∀ fd, ∀ c ∈ rest, c.holds fd = false) (timers : xapp'.timers = xapp.timers)
    (pending : xapp'.pending = xapp.pending) (handling : xapp'.handling = xapp.handling)
    (calls : xapp'.calls = advance xapp.calls i rest) : Watched xapp' where
  once := timers ▸ watched.once
  positive := timers ▸ watched.positive
  accounted fd := by
    have moved := countP_advance here rest (·.holds fd)
    rw [timers, pending, calls, handling]
    have same : rest.elim 0 (fun c => (c.holds fd).toNat) = 0 := by
      cases rest with
      | none => rfl
      | some c => simp [after fd c rfl]
    rw [before fd, same] at moved
    exact (watched.accounted fd).trans (by rw [Nat.add_zero] at moved; rw [← moved]; rfl)
  inverse := pending ▸ watched.inverse

variable {i : Nat} {fd opened : Fd} {msg : E42Msg}

/-- A fresh timer is held by the call that opened it. -/
theorem Watched.createTimer (watched : Watched xapp) (fresh : xapp.FreshFd opened)
    (here : xapp.calls[i]? = some ⟨msg, .createTimer⟩) :
    Watched { xapp with
      timers := opened :: xapp.timers
      calls := FlexRic.advance xapp.calls i (some ⟨msg, .addPending opened⟩) } where
  once := List.nodup_cons.mpr ⟨fresh.2, watched.once⟩
  positive := by
    rw [List.mem_cons, not_or]
    exact ⟨Nat.ne_of_lt fresh.1, watched.positive⟩
  accounted fd := by
    have accounted := watched.accounted fd
    have moved := countP_advance here (some ⟨msg, .addPending opened⟩) (·.holds fd)
    have begins : Call.holds ⟨msg, .createTimer⟩ fd = false := rfl
    have opens := count_of_perm (.refl (opened :: xapp.timers)) fd
    simp only [Option.elim, Call.holds_addPending, begins, Bool.toNat_false] at moved
    simp only
    omega
  inverse := watched.inverse

/-- The call hands its timer to the pending requests. -/
theorem Watched.addPending (watched : Watched xapp)
    (here : xapp.calls[i]? = some ⟨msg, .addPending fd⟩) :
    Watched { xapp with
      pending := xapp.pending.insert fd (pendingEvent msg)
      calls := FlexRic.advance xapp.calls i
        (some ⟨msg, if sendsLast msg then .send else .condWait⟩) } where
  once := watched.once
  positive := watched.positive
  accounted fd' := by
    have accounted := watched.accounted fd'
    have moved := countP_advance here
      (some ⟨msg, if sendsLast msg then .send else .condWait⟩) (·.holds fd')
    have ends : Call.holds ⟨msg, if sendsLast msg then .send else .condWait⟩ fd' = false := by
      cases msg <;> rfl
    have entered := count_of_perm (BiMap.firsts_insert xapp.pending fd (pendingEvent msg)) fd'
    simp only [Option.elim, Call.holds_addPending, ends, Bool.toNat_false] at moved
    simp only
    omega
  inverse := watched.inverse.insert _ _

/-- An answer takes the timer over. -/
theorem Watched.rmPending {ev : PendingEventXapp} {pending : PendingEventXappDs}
    (watched : Watched xapp) (here : xapp.handling = some (.rmPending ev))
    (removed : xapp.pending.extractRight ev = .ok (fd, pending)) :
    Watched { xapp with pending := pending, handling := some (.rmFd fd) } := by
  obtain ⟨b, -, perm, inverse⟩ := BiMap.extractRight_ok watched.inverse watched.distinct removed
  refine ⟨watched.once, watched.positive, fun fd' => ?_, inverse⟩
  have accounted := watched.accounted fd'
  have taken : xapp.pending.firsts.count fd' = pending.firsts.count fd' + (fd == fd').toNat :=
    count_of_perm (perm.map Prod.fst) fd'
  have before : stops (some (.rmPending ev)) fd' = false := rfl
  rw [here, before, Bool.toNat_false] at accounted
  simp only [stops_rmFd]
  omega

/-- And stops it. -/
theorem Watched.rmFd (watched : Watched xapp) (here : xapp.handling = some (.rmFd fd))
    (timer : fd ∈ xapp.timers) :
    Watched { xapp with timers := xapp.timers.erase fd, handling := some .signal } where
  once := watched.once.erase fd
  positive mem := watched.positive (List.mem_of_mem_erase mem)
  accounted fd' := by
    have accounted := watched.accounted fd'
    have closed := count_of_perm (List.perm_cons_erase timer) fd'
    have after : stops (some .signal) fd' = false := rfl
    rw [here, stops_rmFd] at accounted
    simp only [after, Bool.toNat_false]
    omega
  inverse := watched.inverse

theorem watched_step (watched : Watched xapp) (enabled : xapp.Enabled e)
    (step : Step xapp e xapp' out) : Watched xapp' := by
  cases step with
  | report | rmReport | control => exact watched.enter (fun _ => rfl) rfl rfl rfl rfl
  | condWait here | blocked here =>
      exact watched.advance here (fun _ => rfl) (fun fd c next => by cases next; rfl) rfl rfl rfl
        rfl
  | send here =>
      refine watched.advance here (fun _ => rfl) (fun fd c next => ?_) rfl rfl rfl rfl
      cases next
      simp only [Call.holds]
      split <;> rfl
  | msgAck here =>
      refine watched.advance here (fun _ => rfl) (fun fd c next => ?_) rfl rfl rfl rfl
      split at next
      · cases next
      · cases next
        rfl
  | rmActProc here =>
      exact watched.advance here (fun _ => rfl) (fun fd c next => by cases next) rfl rfl rfl rfl
  | createTimer here =>
      obtain ⟨call, at_, fresh⟩ := enabled
      cases at_.symm.trans here
      exact watched.createTimer fresh here
  | addPending here => exact watched.addPending here
  | answer =>
      refine ⟨watched.once, watched.positive, fun fd => ?_, watched.inverse⟩
      have accounted := watched.accounted fd
      rw [enabled.1] at accounted
      exact accounted
  | rmPending here removed => exact watched.rmPending here removed
  | rmFd here timer => exact watched.rmFd here timer
  | signal here =>
      refine ⟨watched.once, watched.positive, fun fd => ?_, watched.inverse⟩
      have accounted := watched.accounted fd
      rw [here] at accounted
      exact accounted

theorem watched_run (run : (machine plugin id).Run xapp h) : Watched xapp :=
  run.invariant (I := Watched) watched_init
    fun watched enabled moved => watched_step watched enabled (step_cases enabled moved)

end E42Xapp

end FlexRic
