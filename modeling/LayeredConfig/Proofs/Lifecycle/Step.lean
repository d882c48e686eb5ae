import LayeredConfig.Lifecycle.Scenario
import LayeredConfig.Proofs.Lifecycle.State

namespace LayeredConfig.Lifecycle

theorem happen_none_run (event : Event) (journal : List Event) :
    (happen event none).run journal = (.ok (), journal ++ [event]) := rfl

theorem happen_some_run (event : Event) (f : Failure) (journal : List Event) :
    (happen event (some f)).run journal = (.error f, journal ++ [event]) := rfl

def Script.startOutcome (script : Script) : Except Failure Unit :=
  if script.canStart then
    match script.failStart with
    | none => .ok ()
    | some f => .error f
  else .ok ()

/-- A component that was added: its handle, and what it was told to do. -/
structure Member where
  handle : Handle
  script : Script

namespace Member

def entry (c : Member) : Running Journaled Failure :=
  ⟨c.script.name, c.script.descriptor.stop.map fun stop => stop c.handle⟩

/-- What a component writes down until it runs. -/
def birth (c : Member) (dependencies : List Handle) : List Event :=
  .new c.handle dependencies :: if c.script.canStart then [.start c.handle] else []

theorem append_birth (journal : List Event) (c : Member) (dependencies : List Handle) :
    (journal ++ [.new c.handle dependencies] ++
      if c.script.canStart then [.start c.handle] else []) = journal ++ c.birth dependencies := by
  simp [birth]

end Member

def stops (live : List Member) : List Event :=
  (live.filter (·.script.canStop)).map (.stop ·.handle)

def stopErrors (live : List Member) : List (StopError Failure) :=
  live.filterMap fun c =>
    if c.script.canStop then c.script.failStop.map (StopError.mk c.script.name) else none

theorem mem_stops_iff {live : List Member} {event : Event} :
    event ∈ stops live ↔ ∃ c ∈ live, c.script.canStop ∧ event = .stop c.handle := by
  simp only [stops, List.mem_map, List.mem_filter]
  constructor
  · rintro ⟨c, ⟨hmem, hstop⟩, rfl⟩
    exact ⟨c, hmem, hstop, rfl⟩
  · rintro ⟨c, hmem, hstop, rfl⟩
    exact ⟨c, ⟨hmem, hstop⟩, rfl⟩

def silent : Notice Failure → Journaled Unit := fun _ => pure ()

theorem silent_run (notice : Notice Failure) (journal : List Event) :
    (silent notice).run journal = ((), journal) := rfl

theorem stopEach_run (live : List Member) (journal : List Event) :
    (stopEach silent (live.map Member.entry)).run journal =
      (stopErrors live, journal ++ stops live) := by
  induction live generalizing journal with
  | nil =>
    simp only [stops, stopErrors, List.filter_nil, List.map_nil, List.append_nil]
    rfl
  | cons c live ih =>
    cases hstop : c.script.canStop with
    | false =>
      have hentry : c.entry = ⟨c.script.name, none⟩ := by
        simp [Member.entry, Script.descriptor, hstop]
      rw [List.map_cons, hentry]
      simpa [stopEach, stopErrors, stops, hstop] using ih journal
    | true =>
      have hentry : c.entry =
          ⟨c.script.name, some (happen (.stop c.handle) c.script.failStop)⟩ := by
        simp [Member.entry, Script.descriptor, hstop]
      have hstops : journal ++ stops (c :: live) =
          journal ++ [.stop c.handle] ++ stops live := by
        simp [stops, hstop]
      have hrest := ih (journal ++ [.stop c.handle])
      rw [List.map_cons, hentry, hstops]
      cases hfail : c.script.failStop with
      | none =>
        have herrors : stopErrors (c :: live) = stopErrors live := by
          simp [stopErrors, hfail]
        rw [stopEach, run_bind_of_run (happen_none_run _ _), herrors]
        exact hrest
      | some f =>
        have herrors : stopErrors (c :: live) = ⟨c.script.name, f⟩ :: stopErrors live := by
          simp [stopErrors, hstop, hfail]
        rw [stopEach, run_bind_of_run (happen_some_run _ _ _), herrors]
        exact (run_bind_of_run (silent_run _ _)).trans (run_bind_of_run hrest)

namespace Orchestrator

/-- The components that run are these, the latest first, and nobody listens. -/
structure Runs (o : Orchestrator Journaled Failure) (live : List Member) : Prop where
  tell : o.tell = silent
  started : o.started = live.map Member.entry

variable {o : Orchestrator Journaled Failure} {live : List Member} {journal : List Event}

theorem Runs.shutdown (h : o.Runs live) (journal : List Event) :
    o.shutdown.run journal =
      ((stopErrors live, { o with started := [] }), journal ++ stops live) := by
  rw [Orchestrator.shutdown, h.tell, h.started, run_bind_of_run (stopEach_run live journal)]
  rfl

theorem Runs.drop (h : o.Runs live) (journal : List Event) :
    o.drop.run journal = ((), journal ++ stops live) := by
  rw [Orchestrator.drop, run_bind_of_run (h.shutdown journal)]
  rfl

theorem Runs.fail (h : o.Runs live) (name : String) (journal : List Event) :
    (o.fail name).run journal =
      ({ o with started := [], failed := some name }, journal ++ stops live) := by
  have hfailed : Runs { o with failed := some name } live := ⟨h.tell, h.started⟩
  rw [Orchestrator.fail, run_bind_of_run (hfailed.shutdown journal)]
  simp only [h.tell]
  cases (stopErrors live).isEmpty <;> rfl

theorem Runs.run (h : o.Runs live) (journal : List Event) :
    (o.run (pure ())).run journal = ((), journal ++ stops live) := by
  have hnone : Runs { o with started := [] } [] := ⟨h.tell, rfl⟩
  unfold Orchestrator.run
  cases o.mode with
  | check => exact h.drop journal
  | run =>
    simp only [h.tell]
    rw [run_bind_of_run (rfl : (pure () : Journaled Unit).run journal = ((), journal)),
      run_bind_of_run (silent_run _ _), run_bind_of_run (h.shutdown journal)]
    refine (hnone.drop _).trans ?_
    simp [stops]

theorem Runs.startHook (h : o.Runs live) (c : Member) (journal : List Event) :
    (o.startHook c.script.descriptor c.handle).run journal =
      (c.script.startOutcome,
        journal ++ if c.script.canStart then [.start c.handle] else []) := by
  cases hstart : c.script.canStart with
  | false =>
    have hhook : c.script.descriptor.start = none := by simp [Script.descriptor, hstart]
    simp only [Orchestrator.startHook, hhook, Script.startOutcome, hstart]
    simp
    rfl
  | true =>
    have hhook : c.script.descriptor.start =
        some fun h => happen (.start h) c.script.failStart := by simp [Script.descriptor, hstart]
    simp only [Orchestrator.startHook, hhook, h.tell, Script.startOutcome, hstart]
    cases c.script.failStart <;> rfl

variable {construct : Journaled (Except Failure Handle)} {dependencies : List Handle}

/-- After a failure an addition only answers. Neither the constructor nor a hook is called. -/
theorem add_of_failed {m : Type → Type} [Monad m] {ε α : Type} {o : Orchestrator m ε}
    {failed : String} (hfailed : o.failed = some failed) (d : Descriptor m ε α)
    (construct : m (Except ε α)) :
    o.add d construct = pure (.error (.refused d.name failed), o) := by
  simp only [Orchestrator.add, hfailed]

theorem add_refused (script : Script) {failed : String} (hfailed : o.failed = some failed)
    (journal : List Event) :
    (o.add script.descriptor construct).run journal =
      ((.error (.refused script.name failed), o), journal) := by
  rw [add_of_failed hfailed]
  rfl

theorem Runs.add_construction (h : o.Runs live) (script : Script) (hfailed : o.failed = none)
    {f : Failure} {before : List Event} (hconstruct : construct.run before = (.error f, journal)) :
    (o.add script.descriptor construct).run before =
      ((.error (.construction script.name f),
        { o with started := [], failed := some script.name }), journal ++ stops live) :=
  add_unbuilt hfailed hconstruct (h.fail _ _)

theorem Runs.tell_run (h : o.Runs live) (notice : Notice Failure) (journal : List Event) :
    (o.tell notice).run journal = ((), journal) := by
  rw [h.tell]
  rfl

theorem Runs.tells (h : o.Runs live) : o.Tells fun _ journal => journal := h.tell_run

theorem Runs.initialized (h : o.Runs live) (name : String) :
    Runs { o with constructed := o.constructed ++ [name] } live := ⟨h.tell, h.started⟩

theorem Runs.add_check (h : o.Runs live) (c : Member) (hfailed : o.failed = none)
    (hmode : o.mode = .check) {before : List Event}
    (hconstruct : construct.run before = (.ok c.handle, journal)) :
    (o.add c.script.descriptor construct).run before =
      ((.ok c.handle, { o with constructed := o.constructed ++ [c.script.name] }), journal) :=
  h.tells.add_check hfailed hmode hconstruct

theorem Runs.add_start (h : o.Runs live) (c : Member) (hfailed : o.failed = none)
    (hmode : o.mode = .run) {f : Failure} (hstart : c.script.startOutcome = .error f)
    {before : List Event}
    (hconstruct : construct.run before = (.ok c.handle, before ++ [.new c.handle dependencies])) :
    (o.add c.script.descriptor construct).run before =
      ((.error (.start c.script.name f),
        { o with
          started := []
          constructed := o.constructed ++ [c.script.name]
          failed := some c.script.name }), before ++ c.birth dependencies ++ stops live) := by
  have hhook := h.startHook c (before ++ [.new c.handle dependencies])
  rw [hstart, Member.append_birth] at hhook
  exact h.tells.add_unstarted hfailed hmode hconstruct hhook
    ((h.initialized c.script.name).fail _ _)

theorem Runs.add_ok (h : o.Runs live) (c : Member) (hfailed : o.failed = none)
    (hmode : o.mode = .run) (hstart : c.script.startOutcome = .ok ()) {before : List Event}
    (hconstruct : construct.run before = (.ok c.handle, before ++ [.new c.handle dependencies])) :
    (o.add c.script.descriptor construct).run before =
      ((.ok c.handle,
        { o with
          started := (c :: live).map Member.entry
          constructed := o.constructed ++ [c.script.name] }), before ++ c.birth dependencies) := by
  have hhook := h.startHook c (before ++ [.new c.handle dependencies])
  rw [hstart, Member.append_birth] at hhook
  refine (h.tells.add_ok hfailed hmode hconstruct hhook).trans ?_
  rw [h.started]
  rfl

end Orchestrator

/-- A construction fails before it is written down, or fails afterwards, or gives the handle. -/
theorem Script.construct_cases (script : Script) (serial : ℕ) (handles : List Handle)
    (journal : List Event) :
    (∃ f, (script.construct serial handles).run journal = (.error f, journal)) ∨
    ∃ dependencies,
      (∃ f, (script.construct serial handles).run journal =
        (.error f, journal ++ [.new ⟨serial, script.name⟩ dependencies])) ∨
      (script.construct serial handles).run journal =
        (.ok ⟨serial, script.name⟩, journal ++ [.new ⟨serial, script.name⟩ dependencies]) := by
  cases hfind : findAll handles script.dependencies with
  | error name =>
    refine .inl ⟨.plain ("missing dependency " ++ Text.quoted name), ?_⟩
    simp only [Script.construct, hfind]
    rfl
  | ok dependencies =>
    refine .inr ⟨dependencies, ?_⟩
    simp only [Script.construct, hfind]
    cases script.failNew with
    | none => exact .inr (run_bind_of_run (happen_none_run _ _))
    | some f => exact .inl ⟨f, run_bind_of_run (happen_some_run _ _ _)⟩

namespace Scenario

def report (scenario : Scenario) (s : Step) : Report :=
  let ((result, next), events) := (scenario.step s).run []
  ⟨result, events, next⟩

theorem report_eq {scenario next : Scenario} {s : Step} {result : StepResult} {events : List Event}
    (h : (scenario.step s).run [] = ((result, next), events)) :
    scenario.report s = ⟨result, events, next⟩ := by
  simp only [report, h]

theorem play_cons (scenario : Scenario) (s : Step) (steps : List Step) :
    scenario.play (s :: steps) =
      (scenario.report s :: ((scenario.report s).scenario.play steps).1,
        ((scenario.report s).scenario.play steps).2) := rfl

def Runs (scenario : Scenario) (live : List Member) : Prop :=
  ∀ o, scenario.orchestrator = some o → o.Runs live

def candidate (scenario : Scenario) (script : Script) : Member :=
  ⟨⟨scenario.serial, script.name⟩, script⟩

/-- Everything a step can do while these components run. -/
inductive Outcome (scenario : Scenario) (live : List Member) : Step → Report → Prop
  | gone (s : Step) (hnone : scenario.orchestrator = none) :
    Outcome scenario live s ⟨.gone, [], scenario⟩
  | refused (o : Orchestrator Journaled Failure) (script : Script) (failed : String)
      (hsome : scenario.orchestrator = some o) (hfailed : o.failed = some failed) :
    Outcome scenario live (.add script)
      ⟨.addFailed (.refused script.name failed), [],
        ⟨some o, scenario.handles, scenario.serial + 1⟩⟩
  | unbuilt (o : Orchestrator Journaled Failure) (script : Script) (f : Failure)
      (own : List Event) (hsome : scenario.orchestrator = some o) (hfailed : o.failed = none)
      (hown : own = [] ∨ ∃ dependencies,
        own = [.new (scenario.candidate script).handle dependencies]) :
    Outcome scenario live (.add script)
      ⟨.addFailed (.construction script.name f), own ++ stops live,
        ⟨some { o with started := [], failed := some script.name }, scenario.handles,
          scenario.serial + 1⟩⟩
  | checked (o : Orchestrator Journaled Failure) (script : Script) (dependencies : List Handle)
      (hsome : scenario.orchestrator = some o) (hfailed : o.failed = none)
      (hmode : o.mode = .check) :
    Outcome scenario live (.add script)
      ⟨.ok, [.new (scenario.candidate script).handle dependencies],
        ⟨some { o with constructed := o.constructed ++ [script.name] },
          (scenario.candidate script).handle :: scenario.handles, scenario.serial + 1⟩⟩
  | unstarted (o : Orchestrator Journaled Failure) (script : Script) (dependencies : List Handle)
      (f : Failure) (hsome : scenario.orchestrator = some o) (hfailed : o.failed = none)
      (hmode : o.mode = .run) (hstart : script.startOutcome = .error f) :
    Outcome scenario live (.add script)
      ⟨.addFailed (.start script.name f),
        (scenario.candidate script).birth dependencies ++ stops live,
        ⟨some { o with
          started := []
          constructed := o.constructed ++ [script.name]
          failed := some script.name }, scenario.handles, scenario.serial + 1⟩⟩
  | added (o : Orchestrator Journaled Failure) (script : Script) (dependencies : List Handle)
      (hsome : scenario.orchestrator = some o) (hfailed : o.failed = none)
      (hmode : o.mode = .run) (hstart : script.startOutcome = .ok ()) :
    Outcome scenario live (.add script)
      ⟨.ok, (scenario.candidate script).birth dependencies,
        ⟨some { o with
          started := (scenario.candidate script :: live).map Member.entry
          constructed := o.constructed ++ [script.name] },
          (scenario.candidate script).handle :: scenario.handles, scenario.serial + 1⟩⟩
  | shutdown (o : Orchestrator Journaled Failure) (hsome : scenario.orchestrator = some o) :
    Outcome scenario live .shutdown
      ⟨.stopErrors (stopErrors live), stops live,
        { scenario with orchestrator := some { o with started := [] } }⟩
  | ended (s : Step) (o : Orchestrator Journaled Failure) (hs : s = .drop ∨ s = .run)
      (hsome : scenario.orchestrator = some o) :
    Outcome scenario live s ⟨.ok, stops live, { scenario with orchestrator := none }⟩

variable {scenario : Scenario} {live : List Member} {o : Orchestrator Journaled Failure}

theorem step_of_none (hnone : scenario.orchestrator = none) (s : Step) (journal : List Event) :
    (scenario.step s).run journal = ((.gone, scenario), journal) := by
  simp only [step, hnone]
  rfl

/-- An addition goes as the orchestrator says. -/
theorem step_add_ok (hsome : scenario.orchestrator = some o) (script : Script)
    {next : Orchestrator Journaled Failure} {handle : Handle} {before journal : List Event}
    (h : (o.add script.descriptor (script.construct scenario.serial scenario.handles)).run before =
      ((.ok handle, next), journal)) :
    (scenario.step (.add script)).run before =
      ((.ok, ⟨some next, handle :: scenario.handles, scenario.serial + 1⟩), journal) := by
  simp only [step, hsome]
  exact run_bind_of_run h

theorem step_add_error (hsome : scenario.orchestrator = some o) (script : Script)
    {next : Orchestrator Journaled Failure} {e : AddError Failure} {before journal : List Event}
    (h : (o.add script.descriptor (script.construct scenario.serial scenario.handles)).run before =
      ((.error e, next), journal)) :
    (scenario.step (.add script)).run before =
      ((.addFailed e, ⟨some next, scenario.handles, scenario.serial + 1⟩), journal) := by
  simp only [step, hsome]
  exact run_bind_of_run h

/-! ### Reports -/

theorem report_gone (hnone : scenario.orchestrator = none) (s : Step) :
    scenario.report s = ⟨.gone, [], scenario⟩ := report_eq (step_of_none hnone s [])

theorem report_refused (hsome : scenario.orchestrator = some o) {failed : String}
    (hfailed : o.failed = some failed) (script : Script) : scenario.report (.add script) =
      ⟨.addFailed (.refused script.name failed), [],
        ⟨some o, scenario.handles, scenario.serial + 1⟩⟩ :=
  report_eq (step_add_error hsome script (Orchestrator.add_refused script hfailed []))

section

variable {script : Script} {f : Failure} {own : List Event} {dependencies : List Handle}
  (h : scenario.Runs live) (hsome : scenario.orchestrator = some o) (hfailed : o.failed = none)
include h hsome hfailed

theorem Runs.report_unbuilt
    (hown : (script.construct scenario.serial scenario.handles).run [] = (.error f, own)) :
    scenario.report (.add script) =
      ⟨.addFailed (.construction script.name f), own ++ stops live,
        ⟨some { o with started := [], failed := some script.name }, scenario.handles,
          scenario.serial + 1⟩⟩ :=
  report_eq (step_add_error hsome script ((h o hsome).add_construction script hfailed hown))

theorem Runs.report_checked (hmode : o.mode = .check)
    (hbuilt : (script.construct scenario.serial scenario.handles).run [] =
      (.ok (scenario.candidate script).handle,
        [.new (scenario.candidate script).handle dependencies])) :
    scenario.report (.add script) =
      ⟨.ok, [.new (scenario.candidate script).handle dependencies],
        ⟨some { o with constructed := o.constructed ++ [script.name] },
          (scenario.candidate script).handle :: scenario.handles, scenario.serial + 1⟩⟩ :=
  report_eq (step_add_ok hsome script
    ((h o hsome).add_check (scenario.candidate script) hfailed hmode hbuilt))

theorem Runs.report_unstarted (hmode : o.mode = .run) (hstart : script.startOutcome = .error f)
    (hbuilt : (script.construct scenario.serial scenario.handles).run [] =
      (.ok (scenario.candidate script).handle,
        [.new (scenario.candidate script).handle dependencies])) :
    scenario.report (.add script) =
      ⟨.addFailed (.start script.name f),
        (scenario.candidate script).birth dependencies ++ stops live,
        ⟨some { o with
          started := []
          constructed := o.constructed ++ [script.name]
          failed := some script.name }, scenario.handles, scenario.serial + 1⟩⟩ :=
  report_eq (step_add_error hsome script
    ((h o hsome).add_start (scenario.candidate script) hfailed hmode hstart hbuilt))

theorem Runs.report_added (hmode : o.mode = .run) (hstart : script.startOutcome = .ok ())
    (hbuilt : (script.construct scenario.serial scenario.handles).run [] =
      (.ok (scenario.candidate script).handle,
        [.new (scenario.candidate script).handle dependencies])) :
    scenario.report (.add script) =
      ⟨.ok, (scenario.candidate script).birth dependencies,
        ⟨some { o with
          started := (scenario.candidate script :: live).map Member.entry
          constructed := o.constructed ++ [script.name] },
          (scenario.candidate script).handle :: scenario.handles, scenario.serial + 1⟩⟩ :=
  report_eq (step_add_ok hsome script
    ((h o hsome).add_ok (scenario.candidate script) hfailed hmode hstart hbuilt))

end

theorem Runs.report_shutdown (h : scenario.Runs live) (hsome : scenario.orchestrator = some o) :
    scenario.report .shutdown =
      ⟨.stopErrors (stopErrors live), stops live,
        { scenario with orchestrator := some { o with started := [] } }⟩ := by
  apply report_eq
  simp only [step, hsome]
  exact run_bind_of_run ((h o hsome).shutdown [])

theorem Runs.report_ended (h : scenario.Runs live) (hsome : scenario.orchestrator = some o)
    {s : Step} (hs : s = .drop ∨ s = .run) :
    scenario.report s = ⟨.ok, stops live, { scenario with orchestrator := none }⟩ := by
  apply report_eq
  rcases hs with rfl | rfl
  · simp only [step, hsome]
    exact run_bind_of_run ((h o hsome).drop [])
  · simp only [step, hsome]
    exact run_bind_of_run ((h o hsome).run [])

theorem Runs.outcome_add (h : scenario.Runs live) (hsome : scenario.orchestrator = some o)
    (script : Script) : scenario.Outcome live (.add script) (scenario.report (.add script)) := by
  cases hfailed : o.failed with
  | some failed =>
    rw [report_refused hsome hfailed script]
    exact .refused o script failed hsome hfailed
  | none =>
    obtain ⟨f, hown⟩ | ⟨dependencies, ⟨f, hown⟩ | hbuilt⟩ :=
      script.construct_cases scenario.serial scenario.handles []
    · rw [h.report_unbuilt hsome hfailed hown]
      exact .unbuilt o script f [] hsome hfailed (.inl rfl)
    · rw [h.report_unbuilt hsome hfailed hown]
      exact .unbuilt o script f _ hsome hfailed (.inr ⟨dependencies, rfl⟩)
    · cases hmode : o.mode with
      | check =>
        rw [h.report_checked hsome hfailed hmode hbuilt]
        exact .checked o script dependencies hsome hfailed hmode
      | run =>
        cases hstart : script.startOutcome with
        | error f =>
          rw [h.report_unstarted hsome hfailed hmode hstart hbuilt]
          exact .unstarted o script dependencies f hsome hfailed hmode hstart
        | ok =>
          rw [h.report_added hsome hfailed hmode hstart hbuilt]
          exact .added o script dependencies hsome hfailed hmode hstart

theorem Runs.outcome (h : scenario.Runs live) (s : Step) :
    scenario.Outcome live s (scenario.report s) := by
  cases hsome : scenario.orchestrator with
  | none =>
    rw [report_gone hsome s]
    exact .gone s hsome
  | some o =>
    cases s with
    | add script => exact h.outcome_add hsome script
    | shutdown =>
      rw [h.report_shutdown hsome]
      exact .shutdown o hsome
    | drop =>
      rw [h.report_ended hsome (.inl rfl)]
      exact .ended .drop o (.inl rfl) hsome
    | run =>
      rw [h.report_ended hsome (.inr rfl)]
      exact .ended .run o (.inr rfl) hsome

theorem Runs.finish (h : scenario.Runs live) (hsome : scenario.orchestrator = some o)
    (journal : List Event) : scenario.finish.run journal = ((), journal ++ stops live) := by
  simp only [Scenario.finish, hsome]
  exact (h o hsome).drop journal

end Scenario

end LayeredConfig.Lifecycle
