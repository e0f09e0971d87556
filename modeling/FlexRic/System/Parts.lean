import FlexRic.Library.Composition
import FlexRic.System.Deployment

/-! # The components of a deployment

A run of the deployment is a run of the RIC, of every agent, and of every xApp from its start on.
What any of them hears was sent before by another.
-/

namespace FlexRic

namespace Deployment

variable {π : Type} {inst : Installation π} {d d' : Deployment} {h later earlier : History π}
  {e : DeploymentEvent} {out : DeploymentOutput π} {x : Event π} {a : SctpInfo} {p : Packet}

/-- What an event can do. -/
inductive Step (inst : Installation π) (d : Deployment) :
    DeploymentEvent → Deployment → DeploymentOutput π → Prop where
  | ric {e : RicEvent} {ric : Ric} {sent : List Sent} (enabled : d.ric.Enabled e)
      (hears : RicHears d.wire e) (moved : d.ric.step e = .ok (ric, sent)) :
      Step inst d (.ric e) { d with ric := ric, wire := sent.map .ric ++ d.wire } (.ric sent)
  | agent {a : SctpInfo} {e : AgentEvent} {ag : E2Agent} {sent : List AgentMsg}
      (enabled : (d.agents a).Enabled e) (hears : AgentHears d.wire a e)
      (moved : (d.agents a).step e = .ok (ag, sent)) :
      Step inst d (.agent a e)
        { d with agents := Function.update d.agents a ag, wire := sent.map (.agent a) ++ d.wire }
        (.agent sent)
  | agentControl {a : SctpInfo} {ricId : RicGenId}
      (hears : ∃ p ∈ d.wire, p.toNode = some (a, .control ricId)) :
      Step inst d (.agentControl a ricId) { d with wire := .controlAck a ricId :: d.wire }
        (.controlAck ricId)
  | xappStarts {a : SctpInfo} {xappId : UInt16} {nodes : List GlobalE2NodeId}
      (absent : d.xapps a = none)
      (hears : ∃ p ∈ d.wire, p.toXapp = some (a, .e42SetupResponse xappId nodes)) :
      Step inst d (.xappStarts a xappId nodes)
        { d with xapps := Function.update d.xapps a (some (initE42Xapp inst.xappPlugin xappId)) }
        .started
  | xapp {a : SctpInfo} {e : ProcEvent} {xapp xapp' : E42Xapp} {sent : List (ProcOutput π)}
      (here : d.xapps a = some xapp) (enabled : ActiveProcedures.OpenTo xapp e)
      (hears : XappHears d.wire a e)
      (moved : ActiveProcedures.step inst.onIndication xapp e = .ok (xapp', sent)) :
      Step inst d (.xapp a e)
        { d with xapps := Function.update d.xapps a (some xapp'),
                 wire := sent.filterMap (requested a) ++ d.wire } (.xapp sent)

theorem step_cases (enabled : d.Enabled e) (moved : step inst d e = .ok (d', out)) :
    Step inst d e d' out := by
  cases e with
  | ric e =>
      simp only [step, bind_eq_ok, Prod.exists, pure_eq_ok, Prod.mk.injEq] at moved
      obtain ⟨_, _, goes, rfl, rfl⟩ := moved
      exact .ric enabled.1 enabled.2 goes
  | agent a e =>
      simp only [step, bind_eq_ok, Prod.exists, pure_eq_ok, Prod.mk.injEq] at moved
      obtain ⟨_, _, goes, rfl, rfl⟩ := moved
      exact .agent enabled.1 enabled.2 goes
  | agentControl a ricId =>
      simp only [step, e2apHandleControlRequestAgent, bind_eq_ok, pure_eq_ok, Prod.mk.injEq]
        at moved
      obtain ⟨_, ⟨_, -, rfl⟩, rfl, rfl⟩ := moved
      exact .agentControl enabled.2
  | xappStarts a xappId nodes =>
      simp only [step, pure_eq_ok, Prod.mk.injEq] at moved
      obtain ⟨rfl, rfl⟩ := moved
      exact .xappStarts enabled.1 enabled.2
  | xapp a e =>
      obtain ⟨xapp, here, opened, hears⟩ := enabled
      simp only [step, Option.mem_def.mp here, bind_eq_ok, Prod.exists, pure_eq_ok,
        Prod.mk.injEq] at moved
      obtain ⟨_, _, goes, rfl, rfl⟩ := moved
      exact .xapp here opened hears goes

def ricView (x : Event π) : Option (Entry Ric RicEvent (List Sent)) :=
  match x.event, x.output with
  | .ric e, .ric sent => some ⟨x.before.ric, e, sent, x.after.ric⟩
  | _, _ => none

def ricPart (inst : Installation π) : (machine inst).Part (Ric.machine inst.ricPlugin) where
  state d := some d.ric
  view := ricView
  Initial s := s = initRic inst.ricPlugin

def agentView (a : SctpInfo) (x : Event π) : Option (Entry E2Agent AgentEvent (List AgentMsg)) :=
  match x.event, x.output with
  | .agent b e, .agent sent =>
      if b = a then some ⟨x.before.agents a, e, sent, x.after.agents a⟩ else none
  | _, _ => none

def agentPart (inst : Installation π) (a : SctpInfo) :
    (machine inst).Part (E2Agent.machine (inst.agentPlugin a) (inst.node a) inst.compConfAdd) where
  state d := some (d.agents a)
  view := agentView a
  Initial ag := ag = e2InitAgent (inst.agentPlugin a) (inst.node a) inst.compConfAdd

def xappView (a : SctpInfo) (x : Event π) :
    Option (Entry E42Xapp ProcEvent (List (ProcOutput π))) :=
  match x.event, x.output, x.before.xapps a, x.after.xapps a with
  | .xapp b e, .xapp sent, some xapp, some xapp' =>
      if b = a then some ⟨xapp, e, sent, xapp'⟩ else none
  | _, _, _, _ => none

/-- The id of an xApp is not known before it starts. -/
def xappPart (inst : Installation π) (a : SctpInfo) :
    (machine inst).Part (ActiveProcedures.openMachine inst.onIndication inst.xappPlugin 0) where
  state d := d.xapps a
  view := xappView a
  Initial xapp := ∃ xappId, xapp = initE42Xapp inst.xappPlugin xappId

theorem Step.ric_moves (step : Step inst d e d' out) : (ricPart inst).Moves ⟨d, e, out, d'⟩ := by
  cases step with
  | ric enabled hears moved => exact .own rfl rfl rfl enabled moved
  | _ => exact .rests rfl rfl

theorem Step.agent_moves (a : SctpInfo) (step : Step inst d e d' out) :
    (agentPart inst a).Moves ⟨d, e, out, d'⟩ := by
  cases step with
  | @agent b e ag sent enabled hears moved =>
      by_cases same : b = a
      · subst same
        refine .own (y := ⟨d.agents b, e, sent, ag⟩) ?_ rfl ?_ enabled moved
        · simp [agentPart, agentView]
        · simp [agentPart]
      · refine .rests ?_ ?_
        · simp [agentPart, agentView, same]
        · simp [agentPart, Function.update_of_ne (Ne.symm same)]
  | _ => exact .rests rfl rfl

theorem Step.xapp_moves (a : SctpInfo) (step : Step inst d e d' out) :
    (xappPart inst a).Moves ⟨d, e, out, d'⟩ := by
  cases step with
  | @xappStarts b xappId nodes absent hears =>
      by_cases same : b = a
      · subst same
        refine .begins rfl absent ?_ ⟨xappId, rfl⟩
        simp [xappPart]
      · refine .rests rfl ?_
        simp [xappPart, Function.update_of_ne (Ne.symm same)]
  | @xapp b e xapp xapp' sent here enabled hears moved =>
      by_cases same : b = a
      · subst same
        refine .own (y := ⟨xapp, e, sent, xapp'⟩) ?_ here ?_ enabled moved
        · simp [xappPart, xappView, here]
        · simp [xappPart]
      · refine .rests ?_ ?_
        · simp only [xappPart, xappView, Function.update_of_ne (Ne.symm same)]
          split <;> simp_all
        · simp [xappPart, Function.update_of_ne (Ne.symm same)]
  | _ => exact .rests rfl rfl

/-- The RIC runs as it would alone. -/
theorem ric_run (run : (machine inst).Run d h) :
    (Ric.machine inst.ricPlugin).Run d.ric ((ricPart inst).history h) := by
  have follows := Machine.Part.follows_run (p := ricPart inst) (.present rfl rfl .start)
    (fun enabled moved => (step_cases enabled moved).ric_moves) run
  obtain ⟨_, rfl, alone⟩ := follows.run rfl
  exact alone

/-- So does every agent. -/
theorem agent_run (run : (machine inst).Run d h) (a : SctpInfo) :
    (E2Agent.machine (inst.agentPlugin a) (inst.node a) inst.compConfAdd).Run (d.agents a)
      ((agentPart inst a).history h) := by
  have follows := Machine.Part.follows_run (p := agentPart inst a) (.present rfl rfl .start)
    (fun enabled moved => (step_cases enabled moved).agent_moves a) run
  obtain ⟨_, rfl, alone⟩ := follows.run rfl
  exact alone

theorem xapp_follows (run : (machine inst).Run d h) (a : SctpInfo) :
    (xappPart inst a).Follows d h :=
  Machine.Part.follows_run (.absent rfl rfl)
    (fun enabled moved => (step_cases enabled moved).xapp_moves a) run

/-- So does every xApp, once it is there. -/
theorem xapp_run (run : (machine inst).Run d h) {xapp : E42Xapp} (here : d.xapps a = some xapp) :
    ∃ xappId, (ActiveProcedures.openMachine inst.onIndication inst.xappPlugin xappId).Run xapp
      ((xappPart inst a).history h) := by
  obtain ⟨_, ⟨xappId, rfl⟩, alone⟩ := (xapp_follows run a).run here
  exact ⟨xappId, alone⟩

/-- What an event puts on the wire. -/
def packets (x : Event π) : List Packet :=
  match x.event, x.output with
  | .ric _, .ric sent => sent.map .ric
  | .agent a _, .agent sent => sent.map (.agent a)
  | .agentControl a _, .controlAck ricId => [.controlAck a ricId]
  | .xapp a _, .xapp sent => sent.filterMap (requested a)
  | _, _ => []

theorem Step.wire_eq (step : Step inst d e d' out) :
    d'.wire = packets ⟨d, e, out, d'⟩ ++ d.wire := by
  cases step <;> rfl

/-- The wire holds what was sent. -/
theorem mem_wire_iff (run : (machine inst).Run d h) : p ∈ d.wire ↔ ∃ x ∈ h, p ∈ packets x :=
  run.mem_gathered rfl fun enabled moved => (step_cases enabled moved).wire_eq

theorem wire_subset (run : (machine inst).Run d (later ++ x :: earlier)) (mem : p ∈ x.before.wire) :
    p ∈ d.wire := by
  obtain ⟨before, -, -⟩ := run.cut
  obtain ⟨y, past, sent⟩ := (mem_wire_iff before).mp mem
  exact (mem_wire_iff run).mpr ⟨y, by simp [past], sent⟩

/-- What is on the wire was put there by a step. -/
theorem sent_step (run : (machine inst).Run d h) (mem : p ∈ d.wire) :
    ∃ later before e out after earlier, h = later ++ ⟨before, e, out, after⟩ :: earlier ∧
      Step inst before e after out ∧ p ∈ packets ⟨before, e, out, after⟩ := by
  obtain ⟨⟨before, e, out, after⟩, here, brought⟩ := (mem_wire_iff run).mp mem
  obtain ⟨later, earlier, rfl⟩ := List.append_of_mem here
  obtain ⟨-, enabled, moved⟩ := run.cut
  exact ⟨later, before, e, out, after, earlier, rfl, step_cases enabled moved, brought⟩

/-- What is on the wire from the RIC is in its history. -/
theorem ric_sent (run : (machine inst).Run d h) {sent : Sent} (mem : .ric sent ∈ d.wire) :
    ∃ y ∈ (ricPart inst).history h, sent ∈ y.output := by
  obtain ⟨later, before, e, out, after, earlier, rfl, step, brought⟩ := sent_step run mem
  cases step with
  | @ric e ric out enabled hears moved =>
      obtain ⟨_, among, same⟩ := List.mem_map.mp brought
      cases same
      exact ⟨_, Machine.Part.mem_history rfl, among⟩
  | agent =>
      obtain ⟨_, _, same⟩ := List.mem_map.mp brought
      cases same
  | agentControl => cases List.mem_singleton.mp brought
  | xappStarts => cases brought
  | xapp =>
      obtain ⟨msg, _, same⟩ := List.mem_filterMap.mp brought
      cases msg <;> cases same

/-- So it is for an agent. -/
theorem agent_sent (run : (machine inst).Run d h) {msg : AgentMsg} (mem : .agent a msg ∈ d.wire) :
    ∃ y ∈ (agentPart inst a).history h, msg ∈ y.output := by
  obtain ⟨later, before, e, out, after, earlier, rfl, step, brought⟩ := sent_step run mem
  cases step with
  | @agent b e ag sent enabled hears moved =>
      obtain ⟨_, among, same⟩ := List.mem_map.mp brought
      cases same
      refine ⟨⟨before.agents a, e, sent, ag⟩, Machine.Part.mem_history ?_, among⟩
      simp [agentPart, agentView]
  | ric =>
      obtain ⟨_, _, same⟩ := List.mem_map.mp brought
      cases same
  | agentControl => cases List.mem_singleton.mp brought
  | xappStarts => cases brought
  | xapp =>
      obtain ⟨msg, _, same⟩ := List.mem_filterMap.mp brought
      cases msg <;> cases same

/-- And for an xApp. -/
theorem xapp_sent (run : (machine inst).Run d h) {msg : E42Msg} (mem : .xapp a msg ∈ d.wire) :
    ∃ y ∈ (xappPart inst a).history h, ProcOutput.sent msg ∈ y.output := by
  obtain ⟨later, before, e, out, after, earlier, rfl, step, brought⟩ := sent_step run mem
  cases step with
  | @xapp b e xapp xapp' sent there enabled hears moved =>
      obtain ⟨brings, among, same⟩ := List.mem_filterMap.mp brought
      cases brings with
      | sent =>
          cases same
          refine ⟨⟨xapp, e, sent, xapp'⟩, Machine.Part.mem_history ?_, among⟩
          simp [xappPart, xappView, there]
      | recorded | dispatched => cases same
  | ric | agent =>
      obtain ⟨_, _, same⟩ := List.mem_map.mp brought
      cases same
  | agentControl => cases List.mem_singleton.mp brought
  | xappStarts => cases brought

/-- A control acknowledgement answers a control request that reached the agent. -/
theorem controlAck_sent (run : (machine inst).Run d h) {ricId : RicGenId}
    (mem : .controlAck a ricId ∈ d.wire) : ∃ x ∈ h, x.event = .agentControl a ricId := by
  obtain ⟨later, before, e, out, after, earlier, rfl, step, brought⟩ := sent_step run mem
  cases step with
  | agentControl hears =>
      cases List.mem_singleton.mp brought
      exact ⟨_, List.mem_append_right _ List.mem_cons_self, rfl⟩
  | ric | agent =>
      obtain ⟨_, _, same⟩ := List.mem_map.mp brought
      cases same
  | xappStarts => cases brought
  | xapp =>
      obtain ⟨msg, _, same⟩ := List.mem_filterMap.mp brought
      cases msg <;> cases same

theorem RicHears.mono {wire wire' : List Packet} {e : RicEvent} (hears : RicHears wire e)
    (more : ∀ p ∈ wire, p ∈ wire') : RicHears wire' e := by
  cases e with
  | setupRequest => exact more _ hears
  | ricMsg | e42Subscription | e42Control | e42Delete =>
      obtain ⟨p, mem, told⟩ := hears
      exact ⟨p, more p mem, told⟩
  | _ => trivial

theorem AgentHears.mono {wire wire' : List Packet} {e : AgentEvent} (hears : AgentHears wire a e)
    (more : ∀ p ∈ wire, p ∈ wire') : AgentHears wire' a e := by
  cases e with
  | subscriptionRequest | subscriptionDelete | setupResponse =>
      obtain ⟨p, mem, told⟩ := hears
      exact ⟨p, more p mem, told⟩
  | _ => trivial

/-- An event of a part was a step. -/
theorem seen_step {σ ε φ ω : Type} {m : Machine σ ε φ ω} {part : (machine inst).Part m}
    {y : Entry σ ε ω} (run : (machine inst).Run d h) (mem : y ∈ part.history h) :
    ∃ later before e out after earlier, h = later ++ ⟨before, e, out, after⟩ :: earlier ∧
      Step inst before e after out ∧ part.view ⟨before, e, out, after⟩ = some y := by
  obtain ⟨later, ⟨before, e, out, after⟩, earlier, rfl, seen⟩ := Machine.Part.history_cut mem
  obtain ⟨-, enabled, moved⟩ := run.cut
  exact ⟨later, before, e, out, after, earlier, rfl, step_cases enabled moved, seen⟩

/-- What the RIC has heard was sent. -/
theorem ric_heard (run : (machine inst).Run d h) {y : Entry Ric RicEvent (List Sent)}
    (mem : y ∈ (ricPart inst).history h) : RicHears d.wire y.event := by
  obtain ⟨later, before, e, out, after, earlier, rfl, step, seen⟩ := seen_step run mem
  cases step with
  | ric enabled hears moved =>
      cases seen
      exact hears.mono fun p => wire_subset run
  | _ => cases seen

/-- So it is for an agent. -/
theorem agent_heard (run : (machine inst).Run d h) {y : Entry E2Agent AgentEvent (List AgentMsg)}
    (mem : y ∈ (agentPart inst a).history h) : AgentHears d.wire a y.event := by
  obtain ⟨later, before, e, out, after, earlier, rfl, step, seen⟩ := seen_step run mem
  cases step with
  | @agent b e ag sent enabled hears moved =>
      simp only [agentPart, agentView, Option.ite_none_right_eq_some, Option.some.injEq] at seen
      obtain ⟨rfl, rfl⟩ := seen
      exact hears.mono fun p => wire_subset run
  | _ => cases seen

theorem Step.xapp_entry {e : ProcEvent} (step : Step inst d (.xapp a e) d' out) :
    ∃ y, (xappPart inst a).view ⟨d, .xapp a e, out, d'⟩ = some y ∧ d.xapps a = some y.before ∧
      y.event = e ∧ out = .xapp y.output ∧ XappHears d.wire a e := by
  cases step with
  | @xapp _ _ xapp xapp' sent here opened hears moved =>
      refine ⟨⟨xapp, e, sent, xapp'⟩, ?_, here, rfl, rfl, hears⟩
      simp only [xappPart, xappView, here, Function.update_self, if_true]

/-- An event of an xApp is one of its own, and what it heard was sent. -/
theorem xapp_entry (run : (machine inst).Run d (later ++ x :: earlier)) {e : ProcEvent}
    (event : x.event = .xapp a e) :
    ∃ y, (xappPart inst a).view x = some y ∧ x.before.xapps a = some y.before ∧ y.event = e ∧
      x.output = .xapp y.output ∧ XappHears x.before.wire a e := by
  obtain ⟨-, enabled, moved⟩ := run.cut
  have step := step_cases enabled moved
  obtain ⟨before, event', out, after⟩ := x
  subst event
  exact step.xapp_entry

end Deployment

end FlexRic
