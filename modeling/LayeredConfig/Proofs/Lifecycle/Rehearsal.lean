import LayeredConfig.Proofs.Lifecycle.FirstFailure

namespace LayeredConfig.Lifecycle

def Event.isNew (e : Event) : Bool := e.built?.isSome

theorem filter_isNew_stops (live : List Member) : (stops live).filter Event.isNew = [] := by
  refine List.filter_eq_nil_iff.2 fun e he => ?_
  obtain ⟨c, -, -, rfl⟩ := mem_stops_iff.1 he
  simp [Event.isNew, Event.built?]

theorem Member.filter_isNew_birth (c : Member) (dependencies : List Handle) :
    (c.birth dependencies).filter Event.isNew = [.new c.handle dependencies] := by
  cases hstart : c.script.canStart <;>
    simp [birth, hstart, List.filter_cons, Event.isNew, Event.built?]

def Script.starting (failure : Script → Option Failure) (script : Script) : Script :=
  { script with failStart := failure script }

namespace Step

def starting (failure : Script → Option Failure) : Step → Step
  | .add script => .add (script.starting failure)
  | s => s

def startingWell : Step → Step := starting fun _ => none

theorem starting_failStart (s : Step) : s.starting Script.failStart = s := by
  cases s <;> rfl

end Step

namespace Scenario

/-! ### What is compared -/

/-- A call of a constructor: the component that was asked for, what the constructor wrote down with
the dependencies it received, and how it ended. -/
structure Invocation where
  component : String
  written : List Event
  failure : Option Failure

def constructorEnd? : StepResult → Option (Option Failure)
  | .ok => some none
  | .addFailed (.construction _ f) => some (some f)
  | .addFailed (.start _ _) => some none
  | .addFailed (.refused _ _) | .stopErrors _ | .gone => none

def invocation? : Step × Report → Option Invocation
  | (.add script, ⟨result, events, _⟩) =>
    (constructorEnd? result).map fun failure => ⟨script.name, events.filter Event.isNew, failure⟩
  | _ => none

def invocations (history : List (Step × Report)) : List Invocation := history.filterMap invocation?

def error? (r : Step × Report) : Option (AddError Failure) :=
  match r.2.result with
  | .addFailed e => some e
  | _ => none

def firstError? (history : List (Step × Report)) : Option (AddError Failure) :=
  history.findSome? error?

def constructed? (scenario : Scenario) : Option (List String) :=
  scenario.orchestrator.map Orchestrator.constructed

/-- The same step reported the same error, if any, and after it the same components were
constructed; if it was an addition, it ended the same way. -/
structure Agrees (check run : Step × Report) : Prop where
  result : check.1 ≠ .shutdown → check.2.result = run.2.result
  error : error? check = error? run
  constructed : check.2.scenario.constructed? = run.2.scenario.constructed?

theorem invocations_cons (r : Step × Report) (history : List (Step × Report)) :
    invocations (r :: history) = (invocation? r).toList ++ invocations history := by
  unfold invocations
  rw [List.filterMap_cons]
  cases invocation? r <;> rfl

/-- A step in which no call of a constructor is seen has written none down. -/
theorem Outcome.written {scenario : Scenario} {live : List Member} {s : Step} {r : Report}
    (h : scenario.Outcome live s r) :
    (invocation? (s, r)).toList.flatMap Invocation.written = r.events.filter Event.isNew := by
  cases h with
  | gone => cases s <;> rfl
  | refused => rfl
  | unbuilt => simp [invocation?, constructorEnd?]
  | checked => simp [invocation?, constructorEnd?]
  | unstarted => simp [invocation?, constructorEnd?]
  | added => simp [invocation?, constructorEnd?]
  | shutdown => exact (filter_isNew_stops live).symm
  | ended s o hs =>
    obtain rfl | rfl := hs
    · exact (filter_isNew_stops live).symm
    · exact (filter_isNew_stops live).symm

/-- The calls of constructors are all that the constructors have written down, in this order. -/
theorem Runs.written_invocations {scenario : Scenario} {live : List Member}
    (h : scenario.Runs live) (steps : List Step) :
    (invocations (scenario.history steps)).flatMap Invocation.written =
      (scenario.history steps).flatMap fun r => r.2.events.filter Event.isNew := by
  induction steps generalizing scenario live with
  | nil => rfl
  | cons s steps ih =>
    obtain ⟨live', hnext⟩ := h.next s
    rw [history_cons, invocations_cons, List.flatMap_append, List.flatMap_cons, ih hnext]
    exact congrArg (· ++ _) (h.outcome s).written

/-! ### One step -/

structure Progress where
  constructed : List String
  failed : Option String
  handles : List Handle
  serial : ℕ

namespace Progress

def checking (p : Progress) : Scenario :=
  ⟨some ⟨.check, silent, [], p.constructed, p.failed⟩, p.handles, p.serial⟩

def running (p : Progress) (live : List Member) : Scenario :=
  ⟨some ⟨.run, silent, live.map Member.entry, p.constructed, p.failed⟩, p.handles, p.serial⟩

theorem checking_runs (p : Progress) : p.checking.Runs [] := runs_some ⟨rfl, rfl⟩ _ _

theorem running_runs (p : Progress) (live : List Member) : (p.running live).Runs live :=
  runs_some ⟨rfl, rfl⟩ _ _

def fails (p : Progress) (name : String) : Progress :=
  { p with failed := some name, serial := p.serial + 1 }

def builds (p : Progress) (name : String) : Progress :=
  { p with
    constructed := p.constructed ++ [name]
    handles := ⟨p.serial, name⟩ :: p.handles
    serial := p.serial + 1 }

end Progress

/-- Everything a step can do in check mode and in run mode, where what is added may end its start
in another way. -/
inductive Rehearsed (failure : Script → Option Failure) (p : Progress) (live : List Member) :
    Step → Report → Report → Prop
  | refused (script : Script) (name : String) (hfailed : p.failed = some name) :
    Rehearsed failure p live (.add script)
      ⟨.addFailed (.refused script.name name), [], { p with serial := p.serial + 1 }.checking⟩
      ⟨.addFailed (.refused script.name name), [], { p with serial := p.serial + 1 }.running live⟩
  | unbuilt (script : Script) (f : Failure) (own : List Event) (hfailed : p.failed = none)
      (hnew : ∀ e ∈ own, e.isNew) :
    Rehearsed failure p live (.add script)
      ⟨.addFailed (.construction script.name f), own, (p.fails script.name).checking⟩
      ⟨.addFailed (.construction script.name f), own ++ stops live,
        (p.fails script.name).running []⟩
  | unstarted (script : Script) (dependencies : List Handle) (f : Failure)
      (next : Scenario) (hfailed : p.failed = none) (hnext : next.Failed script.name) :
    Rehearsed failure p live (.add script)
      ⟨.ok, [.new ⟨p.serial, script.name⟩ dependencies], (p.builds script.name).checking⟩
      ⟨.addFailed (.start script.name f),
        Member.birth ⟨⟨p.serial, script.name⟩, script.starting failure⟩ dependencies ++ stops live,
        next⟩
  | added (script : Script) (dependencies : List Handle) (hfailed : p.failed = none) :
    Rehearsed failure p live (.add script)
      ⟨.ok, [.new ⟨p.serial, script.name⟩ dependencies], (p.builds script.name).checking⟩
      ⟨.ok, Member.birth ⟨⟨p.serial, script.name⟩, script.starting failure⟩ dependencies,
        (p.builds script.name).running (⟨⟨p.serial, script.name⟩, script.starting failure⟩ :: live)⟩
  | shutdown :
    Rehearsed failure p live .shutdown ⟨.stopErrors [], [], p.checking⟩
      ⟨.stopErrors (stopErrors live), stops live, p.running []⟩

variable {failure : Script → Option Failure} {p : Progress} {live : List Member}

/-- A constructor that fails in one mode fails in the other one. -/
theorem Progress.rehearsed_unbuilt (failure : Script → Option Failure) (live : List Member)
    (hfailed : p.failed = none) {script : Script} {f : Failure} {own : List Event}
    (hown : (script.construct p.serial p.handles).run [] = (.error f, own))
    (hnew : ∀ e ∈ own, e.isNew) :
    Rehearsed failure p live (.add script) (p.checking.report (.add script))
      ((p.running live).report (.add (script.starting failure))) := by
  have hown' : ((script.starting failure).construct p.serial p.handles).run [] =
      (.error f, own) := hown
  have hstops : own ++ stops [] = own := List.append_nil own
  rw [p.checking_runs.report_unbuilt rfl hfailed hown, hstops,
    (p.running_runs live).report_unbuilt rfl hfailed hown']
  exact .unbuilt script f own hfailed hnew

theorem Progress.rehearsed (failure : Script → Option Failure) (p : Progress) (live : List Member)
    {s : Step} (hs : s.ends = false) :
    Rehearsed failure p live s (p.checking.report s)
      ((p.running live).report (s.starting failure)) := by
  have hcheck := p.checking_runs
  have hrun := p.running_runs live
  cases s with
  | add script =>
    cases hfailed : p.failed with
    | some name =>
      have hother := (p.running live).report_refused rfl hfailed (script.starting failure)
      rw [report_refused rfl hfailed script, Step.starting, hother]
      exact .refused script name hfailed
    | none =>
      obtain ⟨f, hown⟩ | ⟨dependencies, ⟨f, hown⟩ | hbuilt⟩ :=
        script.construct_cases p.serial p.handles []
      · exact p.rehearsed_unbuilt failure live hfailed hown (by simp)
      · exact p.rehearsed_unbuilt failure live hfailed hown (by simp [Event.isNew, Event.built?])
      · have hbuilt' : ((script.starting failure).construct p.serial p.handles).run [] =
            (.ok ⟨p.serial, script.name⟩, [.new ⟨p.serial, script.name⟩ dependencies]) := hbuilt
        rw [hcheck.report_checked rfl hfailed rfl hbuilt, Step.starting]
        cases hstart : (script.starting failure).startOutcome with
        | error f =>
          rw [hrun.report_unstarted rfl hfailed rfl hstart hbuilt']
          exact .unstarted script dependencies f _ hfailed (failed_some ⟨rfl, rfl⟩ rfl _ _)
        | ok =>
          rw [hrun.report_added rfl hfailed rfl hstart hbuilt']
          exact .added script dependencies hfailed
  | shutdown =>
    have hother := hrun.report_shutdown rfl
    rw [hcheck.report_shutdown rfl]
    show Rehearsed failure p live .shutdown _ ((p.running live).report .shutdown)
    rw [hother]
    exact .shutdown
  | drop => cases hs
  | run => cases hs

namespace Rehearsed

variable {s : Step} {check run : Report}

/-- Both modes call the same constructor, and it ends the same way. -/
theorem invocation_eq (h : Rehearsed failure p live s check run) :
    invocation? (s.starting failure, run) = invocation? (s, check) := by
  cases h with
  | refused script name hfailed => rfl
  | unbuilt script f own hfailed hnew =>
    simp [Step.starting, Script.starting, invocation?, filter_isNew_stops]
  | unstarted script dependencies f next hfailed hnext =>
    simp [Step.starting, Script.starting, invocation?, constructorEnd?, filter_isNew_stops,
      Member.filter_isNew_birth, Event.isNew, Event.built?, List.filter_cons]
  | added script dependencies hfailed =>
    simp [Step.starting, Script.starting, invocation?, constructorEnd?,
      Member.filter_isNew_birth, Event.isNew, Event.built?, List.filter_cons]
  | shutdown => rfl

/-- In check mode a step only constructs, and leaves nothing running. -/
theorem quiet (h : Rehearsed failure p live s check run) :
    (∀ e ∈ check.events, e.isNew) ∧ check.scenario.running = [] ∧
      (s = .shutdown → check.result = .stopErrors []) := by
  cases h with
  | refused script name hfailed => exact ⟨by simp, rfl, fun hs => by cases hs⟩
  | unbuilt script f own hfailed hnew => exact ⟨hnew, rfl, fun hs => by cases hs⟩
  | unstarted script dependencies f next hfailed hnext =>
    exact ⟨by simp [Event.isNew, Event.built?], rfl, fun hs => by cases hs⟩
  | added script dependencies hfailed =>
    exact ⟨by simp [Event.isNew, Event.built?], rfl, fun hs => by cases hs⟩
  | shutdown => exact ⟨by simp, rfl, fun _ => rfl⟩

/-- Check mode goes on. Run mode comes as far, or has failed to start a component. -/
theorem next (h : Rehearsed failure p live s check run) :
    ∃ p' : Progress, check.scenario = p'.checking ∧
      ((∃ live', run.scenario = p'.running live' ∧ Agrees (s, check) (s.starting failure, run)) ∨
        ((∃ component f, run.result = .addFailed (.start component f)) ∧
          ∃ name, run.scenario.Failed name)) := by
  cases h with
  | refused script name hfailed => exact ⟨_, rfl, .inl ⟨live, rfl, fun _ => rfl, rfl, rfl⟩⟩
  | unbuilt script f own hfailed hnew => exact ⟨_, rfl, .inl ⟨[], rfl, fun _ => rfl, rfl, rfl⟩⟩
  | unstarted script dependencies f next hfailed hnext =>
    exact ⟨_, rfl, .inr ⟨⟨_, f, rfl⟩, _, hnext⟩⟩
  | added script dependencies hfailed => exact ⟨_, rfl, .inl ⟨_, rfl, fun _ => rfl, rfl, rfl⟩⟩
  | shutdown => exact ⟨p, rfl, .inl ⟨[], rfl, fun hs => absurd rfl hs, rfl, rfl⟩⟩

/-- Check mode reports an error first when a constructor fails. -/
theorem failure_of_error (h : Rehearsed failure p live s check run) (hnone : p.failed = none) :
    (∃ i ∈ invocation? (s, check), i.failure.isSome) ∨
      (∀ e, check.result ≠ .addFailed e) ∧
        ∃ p' : Progress, check.scenario = p'.checking ∧ p'.failed = none := by
  cases h with
  | refused script name hfailed => exact absurd (hfailed.symm.trans hnone) (by simp)
  | unbuilt script f own hfailed hnew => exact .inl ⟨_, rfl, rfl⟩
  | unstarted script dependencies f next hfailed hnext => exact .inr ⟨by simp, _, rfl, hnone⟩
  | added script dependencies hfailed => exact .inr ⟨by simp, _, rfl, hnone⟩
  | shutdown => exact .inr ⟨by simp, p, rfl, hnone⟩

end Rehearsed

/-! ### Whole runs -/

/-- After a failure no constructor is called. -/
theorem Failed.invocations_history {scenario : Scenario} {name : String}
    (h : scenario.Failed name) (steps : List Step) :
    invocations (scenario.history steps) = [] := by
  induction steps generalizing scenario with
  | nil => rfl
  | cons s steps ih =>
    have hcall : invocation? (s, scenario.report s) = none := by
      cases s with
      | add script =>
        cases hsome : scenario.orchestrator with
        | none =>
          rw [report_gone hsome]
          rfl
        | some o =>
          rw [report_refused hsome (h.failed o hsome)]
          rfl
      | shutdown => rfl
      | drop => rfl
      | run => rfl
    rw [history_cons, invocations_cons, hcall]
    exact ih (h.report s).2.1

variable {steps : List Step}

/-- In check mode nothing is started or stopped, and nothing runs. -/
theorem Progress.checking_quiet (p : Progress) (hends : ∀ s ∈ steps, s.ends = false) :
    (∀ e ∈ p.checking.journal steps, e.isNew) ∧
      ∀ r ∈ p.checking.history steps,
        r.2.scenario.running = [] ∧ (r.1 = .shutdown → r.2.result = .stopErrors []) := by
  induction steps generalizing p with
  | nil =>
    rw [p.checking_runs.journal_nil fun _ => rfl]
    exact ⟨by simp [stops], by simp [history, play]⟩
  | cons s steps ih =>
    have hstep := p.rehearsed Script.failStart [] (hends s (by simp))
    obtain ⟨hevents, hquiet⟩ := hstep.quiet
    obtain ⟨p', hnext, -⟩ := hstep.next
    obtain ⟨hjournal, hhistory⟩ := ih p' fun t ht => hends t (by simp [ht])
    rw [journal_cons, history_cons, hnext, List.forall_mem_append, List.forall_mem_cons]
    exact ⟨⟨hevents, hjournal⟩, hquiet, hhistory⟩

/-- The calls of constructors in run mode are the first ones of those in check mode. -/
theorem Progress.invocations_prefix (failure : Script → Option Failure) (p : Progress)
    (live : List Member) (hends : ∀ s ∈ steps, s.ends = false) :
    invocations ((p.running live).history (steps.map (Step.starting failure))) <+:
      invocations (p.checking.history steps) := by
  induction steps generalizing p live with
  | nil => exact List.prefix_refl _
  | cons s steps ih =>
    have hstep := p.rehearsed failure live (hends s (by simp))
    obtain ⟨p', hnext, hrun⟩ := hstep.next
    rw [List.map_cons, history_cons, history_cons, invocations_cons, invocations_cons,
      hstep.invocation_eq, hnext, List.prefix_append_right_inj]
    obtain ⟨live', hsame, -⟩ | ⟨-, name, hfailed⟩ := hrun
    · rw [hsame]
      exact ih p' live' fun t ht => hends t (by simp [ht])
    · rw [hfailed.invocations_history]
      exact List.nil_prefix

/-- As long as every component starts, both modes agree. -/
theorem Progress.agrees_history (failure : Script → Option Failure) (p : Progress)
    (live : List Member) (hends : ∀ s ∈ steps, s.ends = false)
    (hstarts : ∀ r ∈ (p.running live).history (steps.map (Step.starting failure)),
      ∀ component f, r.2.result ≠ .addFailed (.start component f)) :
    List.Forall₂ (fun check run => run.1 = check.1.starting failure ∧ Agrees check run)
      (p.checking.history steps)
      ((p.running live).history (steps.map (Step.starting failure))) := by
  induction steps generalizing p live with
  | nil => exact .nil
  | cons s steps ih =>
    have hstep := p.rehearsed failure live (hends s (by simp))
    obtain ⟨p', hnext, hrun⟩ := hstep.next
    rw [List.map_cons, history_cons, List.forall_mem_cons] at hstarts
    rw [List.map_cons, history_cons, history_cons, hnext]
    obtain ⟨live', hsame, hagrees⟩ | ⟨⟨component, f, hfailed⟩, -⟩ := hrun
    · rw [hsame] at hstarts ⊢
      have hrest := ih p' live' (fun t ht => hends t (by simp [ht])) hstarts.2
      exact .cons ⟨rfl, hagrees⟩ hrest
    · exact absurd hfailed (hstarts.1 component f)

/-- Check mode reports an error only if a constructor fails. -/
theorem Progress.exists_failure (p : Progress) (hnone : p.failed = none)
    (hends : ∀ s ∈ steps, s.ends = false)
    (herror : ∃ r ∈ p.checking.history steps, ∃ e, r.2.result = .addFailed e) :
    ∃ i ∈ invocations (p.checking.history steps), i.failure.isSome := by
  induction steps generalizing p with
  | nil => simp [history, play] at herror
  | cons s steps ih =>
    have hstep := p.rehearsed Script.failStart [] (hends s (by simp))
    rw [history_cons, List.exists_mem_cons_iff] at herror
    rw [history_cons, invocations_cons]
    obtain ⟨i, hi, hfailure⟩ | ⟨hresult, p', hnext, hnone'⟩ := hstep.failure_of_error hnone
    · exact ⟨i, by simp [Option.mem_def.1 hi], hfailure⟩
    · rw [hnext] at herror ⊢
      obtain ⟨i, hi, hfailure⟩ := ih p' hnone' (fun t ht => hends t (by simp [ht]))
        (herror.resolve_left (not_exists.2 hresult))
      exact ⟨i, List.mem_append_right _ hi, hfailure⟩

/-- A constructor that failed was reported. -/
theorem error_of_failure {history : List (Step × Report)}
    (h : ∃ i ∈ invocations history, i.failure.isSome) :
    ∃ r ∈ history, ∃ e, r.2.result = .addFailed e := by
  obtain ⟨i, hi, hfailure⟩ := h
  obtain ⟨⟨s, result, events, scenario⟩, hr, hcall⟩ := List.mem_filterMap.1 hi
  refine ⟨_, hr, ?_⟩
  cases s with
  | add script =>
    cases result with
    | addFailed e => exact ⟨e, rfl⟩
    | ok =>
      cases hcall
      cases hfailure
    | stopErrors errors => cases hcall
    | gone => cases hcall
  | shutdown => cases hcall
  | drop => cases hcall
  | run => cases hcall

/-- A component whose start fails was told to fail. -/
theorem Runs.startOutcome_of_history {scenario : Scenario} {live : List Member}
    (h : scenario.Runs live) {steps : List Step} {r : Step × Report}
    (hr : r ∈ scenario.history steps) {component : String} {f : Failure}
    (hresult : r.2.result = .addFailed (.start component f)) :
    ∃ script, r.1 = .add script ∧ script.startOutcome = .error f := by
  induction steps generalizing scenario live with
  | nil => simp [history, play] at hr
  | cons s steps ih =>
    rw [history_cons, List.mem_cons] at hr
    rcases hr with rfl | hr
    · have houtcome := h.outcome s
      generalize scenario.report s = report at houtcome hresult
      cases houtcome with
      | unstarted o script dependencies f hsome hfailed hmode hstart =>
        cases hresult
        exact ⟨script, rfl, hstart⟩
      | gone s hnone => cases hresult
      | refused o script failed hsome hfailed => cases hresult
      | unbuilt o script f own hsome hfailed hown => cases hresult
      | checked o script dependencies hsome hfailed hmode => cases hresult
      | added o script dependencies hsome hfailed hmode hstart => cases hresult
      | shutdown o hsome => cases hresult
      | ended s o hs hsome => cases hresult
    · obtain ⟨live', hnext⟩ := h.next s
      exact ih hnext hr

theorem firstError?_eq {failure : Script → Option Failure} {check run : List (Step × Report)}
    (h : List.Forall₂ (fun c r => r.1 = c.1.starting failure ∧ Agrees c r) check run) :
    firstError? check = firstError? run := by
  induction h with
  | nil => rfl
  | cons hhead _ ih =>
    unfold firstError? at ih ⊢
    rw [List.findSome?_cons, List.findSome?_cons, hhead.2.error, ih]

/-- Nothing fails to start that is told to start without failure. -/
theorem starts_of_startingWell {r : Step × Report}
    (hr : r ∈ (begin .run).history (steps.map Step.startingWell)) (component : String)
    (f : Failure) : r.2.result ≠ .addFailed (.start component f) := by
  intro hresult
  obtain ⟨script, hadd, hstart⟩ := (runs_begin .run).startOutcome_of_history hr hresult
  obtain ⟨s, -, hs⟩ := List.mem_map.1 (List.of_mem_zip hr).1
  rw [hadd] at hs
  cases s with
  | add script' =>
    obtain rfl : script'.starting (fun _ => none) = script := Step.add.inj hs
    unfold Script.startOutcome at hstart
    split at hstart <;> cases hstart
  | shutdown => cases hs
  | drop => cases hs
  | run => cases hs

/-- Whatever is added and shut down, check mode only constructs. It calls the constructors that
run mode calls, and more only after a start that failed; as long as every component starts, the
additions end the same way and the same components are constructed. Its first error is that of run
mode with components that start. -/
theorem check_rehearses_run (hends : ∀ s ∈ steps, s.ends = false) :
    let check := (begin .check).history steps
    let run := (begin .run).history steps
    (∀ e ∈ (begin .check).journal steps, e.isNew) ∧
    (∀ r ∈ check,
      r.2.scenario.running = [] ∧ (r.1 = .shutdown → r.2.result = .stopErrors [])) ∧
    invocations run <+: invocations check ∧
    ((∀ r ∈ run, ∀ component f, r.2.result ≠ .addFailed (.start component f)) →
      List.Forall₂ (fun c r => r.1 = c.1 ∧ Agrees c r) check run) ∧
    ((∃ r ∈ check, ∃ e, r.2.result = .addFailed e) ↔
      ∃ i ∈ invocations check, i.failure.isSome) ∧
    firstError? check = firstError? ((begin .run).history (steps.map Step.startingWell)) := by
  intro check run
  let start : Progress := ⟨[], none, [], 0⟩
  have hsteps : steps.map (Step.starting Script.failStart) = steps :=
    (List.map_congr_left fun s _ => s.starting_failStart).trans (List.map_id steps)
  obtain ⟨hevents, hquiet⟩ := start.checking_quiet hends
  have hprefix := start.invocations_prefix Script.failStart [] hends
  have hagrees := start.agrees_history Script.failStart [] hends
  have hfirst := start.agrees_history (fun _ => none) [] hends
  rw [hsteps] at hprefix hagrees
  simp only [Step.starting_failStart] at hagrees
  refine ⟨hevents, hquiet, hprefix, hagrees, ⟨?_, error_of_failure⟩, ?_⟩
  · exact start.exists_failure rfl hends
  · exact firstError?_eq (hfirst fun r hr => starts_of_startingWell hr)

/-- The second component does not start, and the constructor of the third one fails. -/
theorem check_rehearses_run_unstarted :
    let a : Script := ⟨"a", [], true, true, none, none, some (.plain "busy")⟩
    let b : Script := ⟨"b", ["a"], true, true, none, some (.plain "no port"), none⟩
    let c : Script := ⟨"c", ["b", "a"], false, true, some (.plain "no disk"), none, none⟩
    let steps : List Step := [.add a, .shutdown, .add b, .add c]
    let first : List Invocation :=
      [⟨"a", [.new ⟨0, "a"⟩ []], none⟩, ⟨"b", [.new ⟨1, "b"⟩ [⟨0, "a"⟩]], none⟩]
    (∀ s ∈ steps, s.ends = false) ∧
      invocations ((begin .run).history steps) = first ∧
      first <+: invocations ((begin .check).history steps) ∧
      firstError? ((begin .run).history (steps.map Step.startingWell)) =
        some (.construction "c" (.plain "no disk")) := by
  intro a b c steps first
  have hends : ∀ s ∈ steps, s.ends = false := by simp [steps, Step.ends]
  have hrun : invocations ((begin .run).history steps) = first := rfl
  have herror : firstError? ((begin .check).history steps) =
      some (.construction "c" (.plain "no disk")) := rfl
  obtain ⟨-, -, hprefix, -, -, hfirst⟩ := check_rehearses_run hends
  exact ⟨hends, hrun, hrun ▸ hprefix, hfirst.symm.trans herror⟩

end Scenario

end LayeredConfig.Lifecycle
