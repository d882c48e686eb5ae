import LayeredConfig.Proofs.Lifecycle.Rehearsal

namespace LayeredConfig.Lifecycle

def Script.stopping (failure : Option Failure) (script : Script) : Script :=
  { script with failStop := failure }

/-- The same step, but what it adds may end its stop in another way. -/
inductive Step.SameButStop : Step → Step → Prop
  | add (script : Script) (failure : Option Failure) :
    SameButStop (.add script) (.add (script.stopping failure))
  | shutdown : SameButStop .shutdown .shutdown
  | drop : SameButStop .drop .drop
  | run : SameButStop .run .run

inductive Member.SameButStop : Member → Member → Prop
  | mk (handle : Handle) (script : Script) (failure : Option Failure) :
    SameButStop ⟨handle, script⟩ ⟨handle, script.stopping failure⟩

section

variable {live live' : List Member} (h : List.Forall₂ Member.SameButStop live live')
include h

/-- The hooks that are called do not depend on how they end. -/
theorem stops_of_sameButStop : stops live' = stops live := by
  induction h with
  | nil => rfl
  | cons hc _ ih =>
    obtain ⟨handle, script, failure⟩ := hc
    unfold stops at ih ⊢
    cases hstop : script.canStop <;> simp [Script.stopping, hstop, ih]

theorem names_of_sameButStop :
    (live'.map Member.entry).map Running.name = (live.map Member.entry).map Running.name := by
  induction h with
  | nil => rfl
  | cons hc _ ih =>
    obtain ⟨handle, script, failure⟩ := hc
    rw [List.map_cons, List.map_cons, List.map_cons, List.map_cons, ih]
    rfl

end

namespace Scenario

/-! ### What is compared -/

/-- The same was called during the step, it ended the same way unless it was a shutdown, and the
same can be seen after it. -/
structure SeenAlike (r r' : Step × Report) : Prop where
  events : r'.2.events = r.2.events
  called : invocation? r' = invocation? r
  result : r.1 ≠ .shutdown → r'.2.result = r.2.result
  handles : r'.2.scenario.handles = r.2.scenario.handles
  constructed : r'.2.scenario.constructed? = r.2.scenario.constructed?
  running : r'.2.scenario.running = r.2.scenario.running

/-! ### One step -/

def Progress.within (p : Progress) (mode : Mode) (live : List Member) : Scenario :=
  ⟨some ⟨mode, silent, live.map Member.entry, p.constructed, p.failed⟩, p.handles, p.serial⟩

theorem Progress.within_runs (p : Progress) (mode : Mode) (live : List Member) :
    (p.within mode live).Runs live := runs_some ⟨rfl, rfl⟩ _ _

/-- Two scenarios that came equally far, in which the same components run. -/
inductive Twins : Scenario → Scenario → Prop
  | gone (handles : List Handle) (n : ℕ) : Twins ⟨none, handles, n⟩ ⟨none, handles, n⟩
  | within (p : Progress) (mode : Mode) {live live' : List Member}
      (h : List.Forall₂ Member.SameButStop live live') :
    Twins (p.within mode live) (p.within mode live')

theorem twins_begin (mode : Mode) : Twins (begin mode) (begin mode) :=
  .within ⟨[], none, [], 0⟩ mode .nil

variable {live live' : List Member} {mode : Mode} {s s' : Step}

/-- What has to be compared of two twins that wrote the same and were called alike. -/
theorem SeenAlike.of_within {p : Progress} (h : List.Forall₂ Member.SameButStop live live')
    {result result' : StepResult} {events : List Event}
    (hcalled : invocation? (s', ⟨result', events, p.within mode live'⟩) =
      invocation? (s, ⟨result, events, p.within mode live⟩))
    (hresult : s ≠ .shutdown → result' = result) :
    SeenAlike (s, ⟨result, events, p.within mode live⟩)
      (s', ⟨result', events, p.within mode live'⟩) where
  events := rfl
  called := hcalled
  result := hresult
  handles := rfl
  constructed := rfl
  running := names_of_sameButStop h

theorem SeenAlike.of_gone (h : s.SameButStop s') (result : StepResult) (events : List Event)
    (handles : List Handle) (n : ℕ) :
    SeenAlike (s, ⟨result, events, ⟨none, handles, n⟩⟩)
      (s', ⟨result, events, ⟨none, handles, n⟩⟩) := by
  refine ⟨rfl, ?_, fun _ => rfl, rfl, rfl, rfl⟩
  cases h <;> rfl

/-- An addition does the same in both. -/
theorem Progress.twins_add (p : Progress) (mode : Mode)
    (h : List.Forall₂ Member.SameButStop live live') (script : Script)
    (failure : Option Failure) :
    let r := (p.within mode live).report (.add script)
    let r' := (p.within mode live').report (.add (script.stopping failure))
    SeenAlike (.add script, r) (.add (script.stopping failure), r') ∧
      Twins r.scenario r'.scenario := by
  intro r r'
  have hruns := p.within_runs mode live
  have hruns' := p.within_runs mode live'
  have hstops := stops_of_sameButStop h
  let other := script.stopping failure
  cases hfailed : p.failed with
  | some name =>
    have hr : r = ⟨.addFailed (.refused script.name name), [],
        { p with serial := p.serial + 1 }.within mode live⟩ := report_refused rfl hfailed script
    have hr' : r' = ⟨.addFailed (.refused script.name name), [],
        { p with serial := p.serial + 1 }.within mode live'⟩ := report_refused rfl hfailed other
    rw [hr, hr']
    exact ⟨.of_within h rfl fun _ => rfl, .within _ mode h⟩
  | none =>
    -- A constructor that fails does so in both, and what runs is stopped.
    have hunbuilt {f : Failure} {own : List Event}
        (hown : (script.construct p.serial p.handles).run [] = (.error f, own)) :
        SeenAlike (.add script, r) (.add other, r') ∧ Twins r.scenario r'.scenario := by
      have hown' : (other.construct p.serial p.handles).run [] = (.error f, own) := hown
      have hr : r = ⟨.addFailed (.construction script.name f), own ++ stops live,
          (p.fails script.name).within mode []⟩ := hruns.report_unbuilt rfl hfailed hown
      have hr' : r' = ⟨.addFailed (.construction script.name f), own ++ stops live',
          (p.fails script.name).within mode []⟩ := hruns'.report_unbuilt rfl hfailed hown'
      rw [hr, hr', hstops]
      exact ⟨.of_within .nil rfl fun _ => rfl, .within _ mode .nil⟩
    obtain ⟨f, hown⟩ | ⟨dependencies, ⟨f, hown⟩ | hbuilt⟩ :=
      script.construct_cases p.serial p.handles []
    · exact hunbuilt hown
    · exact hunbuilt hown
    · have hsame : Member.SameButStop ⟨⟨p.serial, script.name⟩, script⟩
          ⟨⟨p.serial, script.name⟩, other⟩ := .mk _ script failure
      have hbuilt' : (other.construct p.serial p.handles).run [] =
          (.ok ⟨p.serial, other.name⟩, [.new ⟨p.serial, other.name⟩ dependencies]) := hbuilt
      cases mode with
      | check =>
        have hr : r = ⟨.ok, [.new ⟨p.serial, script.name⟩ dependencies],
            (p.builds script.name).within .check live⟩ :=
          hruns.report_checked rfl hfailed rfl hbuilt
        have hr' : r' = ⟨.ok, [.new ⟨p.serial, script.name⟩ dependencies],
            (p.builds script.name).within .check live'⟩ :=
          hruns'.report_checked rfl hfailed rfl hbuilt'
        rw [hr, hr']
        exact ⟨.of_within h rfl fun _ => rfl, .within _ .check h⟩
      | run =>
        cases hstart : script.startOutcome with
        | error f =>
          let next : Progress := ⟨p.constructed ++ [script.name], some script.name, p.handles,
            p.serial + 1⟩
          have hr : r = ⟨.addFailed (.start script.name f),
              Member.birth ⟨⟨p.serial, script.name⟩, script⟩ dependencies ++ stops live,
              next.within .run []⟩ := hruns.report_unstarted rfl hfailed rfl hstart hbuilt
          have hr' : r' = ⟨.addFailed (.start script.name f),
              Member.birth ⟨⟨p.serial, script.name⟩, other⟩ dependencies ++ stops live',
              next.within .run []⟩ :=
            hruns'.report_unstarted rfl hfailed rfl hstart hbuilt'
          rw [hr, hr', hstops]
          exact ⟨.of_within .nil rfl fun _ => rfl, .within _ .run .nil⟩
        | ok =>
          have hr : r = ⟨.ok, Member.birth ⟨⟨p.serial, script.name⟩, script⟩ dependencies,
              (p.builds script.name).within .run (⟨⟨p.serial, script.name⟩, script⟩ :: live)⟩ :=
            hruns.report_added rfl hfailed rfl hstart hbuilt
          have hr' : r' = ⟨.ok, Member.birth ⟨⟨p.serial, script.name⟩, other⟩ dependencies,
              (p.builds script.name).within .run (⟨⟨p.serial, script.name⟩, other⟩ :: live')⟩ :=
            hruns'.report_added rfl hfailed rfl hstart hbuilt'
          rw [hr, hr']
          exact ⟨.of_within (.cons hsame h) rfl fun _ => rfl, .within _ .run (.cons hsame h)⟩

/-- Both do the same in a step, and come equally far. -/
theorem Twins.report {a b : Scenario} (h : Twins a b) (hs : s.SameButStop s') :
    SeenAlike (s, a.report s) (s', b.report s') ∧
      Twins (a.report s).scenario (b.report s').scenario := by
  cases h with
  | gone handles n =>
    rw [report_gone rfl s, report_gone rfl s']
    exact ⟨.of_gone hs _ _ _ _, .gone handles n⟩
  | within p mode h =>
    rename_i live live'
    have hruns := p.within_runs mode live
    have hruns' := p.within_runs mode live'
    have hstops := stops_of_sameButStop h
    cases hs with
    | add script failure => exact p.twins_add mode h script failure
    | shutdown =>
      rw [hruns.report_shutdown rfl, hruns'.report_shutdown rfl, hstops]
      exact ⟨.of_within (p := p) .nil rfl fun hs => absurd rfl hs, .within p mode .nil⟩
    | drop =>
      rw [hruns.report_ended rfl (.inl rfl), hruns'.report_ended rfl (.inl rfl), hstops]
      exact ⟨.of_gone .drop _ _ _ _, .gone _ _⟩
    | run =>
      rw [hruns.report_ended rfl (.inr rfl), hruns'.report_ended rfl (.inr rfl), hstops]
      exact ⟨.of_gone .run _ _ _ _, .gone _ _⟩

/-! ### Whole runs -/

theorem Twins.journal_nil {a b : Scenario} (h : Twins a b) : b.journal [] = a.journal [] := by
  cases h with
  | gone handles n => rfl
  | within p mode h =>
    rename_i live live'
    have hlast := (p.within_runs mode live).journal_nil fun hnone => by cases hnone
    have hlast' := (p.within_runs mode live').journal_nil fun hnone => by cases hnone
    rw [hlast, hlast', stops_of_sameButStop h]

theorem Twins.history {a b : Scenario} (h : Twins a b) {steps steps' : List Step}
    (hsteps : List.Forall₂ Step.SameButStop steps steps') :
    List.Forall₂ SeenAlike (a.history steps) (b.history steps') := by
  induction hsteps generalizing a b with
  | nil => exact .nil
  | cons hs _ ih =>
    obtain ⟨halike, hnext⟩ := h.report hs
    rw [history_cons, history_cons]
    exact .cons halike (ih hnext)

theorem Twins.journal {a b : Scenario} (h : Twins a b) {steps steps' : List Step}
    (hsteps : List.Forall₂ Step.SameButStop steps steps') :
    b.journal steps' = a.journal steps := by
  induction hsteps generalizing a b with
  | nil => exact h.journal_nil
  | cons hs _ ih =>
    obtain ⟨halike, hnext⟩ := h.report hs
    rw [journal_cons, journal_cons, halike.events, ih hnext]

/-! ### What a shutdown returns -/

structure Rests (scenario : Scenario) : Prop where
  runs : scenario.Runs []
  mode : ∀ o, scenario.orchestrator = some o → o.mode = .check

theorem rests_some {o : Orchestrator Journaled Failure} (hruns : o.Runs [])
    (hmode : o.mode = .check) (handles : List Handle) (n : ℕ) : Rests ⟨some o, handles, n⟩ where
  runs := runs_some hruns handles n
  mode o' ho := by
    cases ho
    exact hmode

theorem rests_none (handles : List Handle) (n : ℕ) : Rests ⟨none, handles, n⟩ where
  runs o ho := by cases ho
  mode o ho := by cases ho

theorem Rests.report {scenario : Scenario} (h : scenario.Rests) (s : Step) :
    (scenario.report s).scenario.Rests := by
  have houtcome := h.runs.outcome s
  generalize scenario.report s = r at houtcome ⊢
  cases houtcome with
  | gone s hnone => exact h
  | refused o script failed hsome hfailed =>
    exact rests_some (h.runs o hsome) (h.mode o hsome) _ _
  | unbuilt o script f own hsome hfailed hown =>
    refine rests_some ⟨?_, rfl⟩ ?_ _ _
    · exact (h.runs o hsome).tell
    · exact h.mode o hsome
  | checked o script dependencies hsome hfailed hmode =>
    exact rests_some ((h.runs o hsome).initialized script.name) hmode _ _
  | unstarted o script dependencies f hsome hfailed hmode hstart =>
    exact absurd ((h.mode o hsome).symm.trans hmode) (by decide)
  | added o script dependencies hsome hfailed hmode hstart =>
    exact absurd ((h.mode o hsome).symm.trans hmode) (by decide)
  | shutdown o hsome =>
    refine rests_some ⟨?_, rfl⟩ ?_ _ _
    · exact (h.runs o hsome).tell
    · exact h.mode o hsome
  | ended s o hs hsome => exact rests_none _ _

theorem Rests.after {scenario : Scenario} (h : scenario.Rests) (steps : List Step) :
    (scenario.after steps).Rests := by
  induction steps generalizing scenario with
  | nil => exact h
  | cons s steps ih => exact ih (h.report s)

def atWork (mode : Mode) (history : List (Step × Report)) : List Member :=
  match mode with
  | .check => []
  | .run => roster history

theorem runs_after (mode : Mode) (steps : List Step) :
    ((begin mode).after steps).Runs (atWork mode ((begin mode).history steps)) := by
  cases mode with
  | check =>
    have hrests : (begin .check).Rests := rests_some ⟨rfl, rfl⟩ rfl [] 0
    exact (hrests.after steps).runs
  | run => exact (tracks_begin.after steps).runs

/-- Steps that differ in nothing but the ends of stops call the same constructors and hooks in the
same order, end alike unless they are shutdowns, and leave the same components constructed and
running. A shutdown stops what runs and can be stopped, the latest first, and returns the failures
of these stops in this order. -/
theorem stop_failures_only_returned {mode : Mode} {steps steps' : List Step}
    (hsame : List.Forall₂ Step.SameButStop steps steps') :
    (begin mode).journal steps' = (begin mode).journal steps ∧
    List.Forall₂ SeenAlike ((begin mode).history steps) ((begin mode).history steps') ∧
    ∀ front o, ((begin mode).after front).orchestrator = some o →
      let live := atWork mode ((begin mode).history front)
      let stopped := live.filter (·.script.canStop)
      let report := ((begin mode).after front).report .shutdown
      o.running = live.map (·.script.name) ∧
      report.events = stopped.map (.stop ·.handle) ∧
      report.result = .stopErrors (stopped.filterMap fun c =>
        c.script.failStop.map fun f => ⟨c.script.name, f⟩) := by
  refine ⟨(twins_begin mode).journal hsame, (twins_begin mode).history hsame, ?_⟩
  intro front o hsome live stopped report
  have hruns := runs_after mode front
  have hreport : report = _ := hruns.report_shutdown hsome
  rw [hreport]
  refine ⟨?_, rfl, ?_⟩
  · simp [live, Orchestrator.running, (hruns o hsome).started, Member.entry]
  · rw [List.filterMap_filter]
    rfl

/-- One of two stops fails in one run and the other one in the other run, first when both are
stopped together, then when a component does not start. -/
theorem stop_failures_only_returned_unwind :
    let a : Script := ⟨"a", [], true, true, none, none, some (.plain "busy")⟩
    let b : Script := ⟨"b", ["a"], false, true, none, none, none⟩
    let c : Script := ⟨"c", ["b"], true, true, none, some (.plain "no port"), none⟩
    let lost : Option Failure := some (.plain "lost")
    let front : List Step := [.add a, .add b]
    let front' : List Step := [.add (a.stopping none), .add (b.stopping lost)]
    let back : List Step := [.shutdown, .add a, .add b, .add c, .run]
    let back' : List Step := [.shutdown, .add a, .add (b.stopping lost), .add (c.stopping none),
      .run]
    List.Forall₂ Step.SameButStop (front ++ back) (front' ++ back') ∧
      (begin .run).journal (front' ++ back') = (begin .run).journal (front ++ back) ∧
      (((begin .run).after front).report .shutdown).result = .stopErrors [⟨"a", .plain "busy"⟩] ∧
      (((begin .run).after front').report .shutdown).result =
        .stopErrors [⟨"b", .plain "lost"⟩] := by
  intro a b c lost front front' back back'
  have hsame : List.Forall₂ Step.SameButStop (front ++ back) (front' ++ back') :=
    .cons (.add a none) <| .cons (.add b lost) <| .cons .shutdown <|
      .cons (.add a (some (.plain "busy"))) <| .cons (.add b lost) <| .cons (.add c none) <|
      .cons .run .nil
  obtain ⟨hjournal, -, hshutdown⟩ := @stop_failures_only_returned .run _ _ hsame
  exact ⟨hsame, hjournal, (hshutdown front _ rfl).2.2, (hshutdown front' _ rfl).2.2⟩

end Scenario

end LayeredConfig.Lifecycle
