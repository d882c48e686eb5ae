import LayeredConfig.Lifecycle.Error
import LayeredConfig.Proofs.Lifecycle.History

namespace LayeredConfig.Lifecycle

def Step.ends : Step → Bool
  | .add _ | .shutdown => false
  | .drop | .run => true

namespace Scenario

/-- The component with this name has failed, and nothing runs. -/
structure Failed (scenario : Scenario) (name : String) : Prop where
  runs : scenario.Runs []
  failed : ∀ o, scenario.orchestrator = some o → o.failed = some name

variable {scenario : Scenario} {live : List Member} {o : Orchestrator Journaled Failure}
  {name : String}

theorem failed_none (handles : List Handle) (n : ℕ) (name : String) :
    Failed ⟨none, handles, n⟩ name where
  runs o ho := by cases ho
  failed o ho := by cases ho

theorem failed_some (hruns : o.Runs []) (hfailed : o.failed = some name) (handles : List Handle)
    (n : ℕ) : Failed ⟨some o, handles, n⟩ name where
  runs := runs_some hruns handles n
  failed o' ho := by
    cases ho
    exact hfailed

/-- A step after a failure writes nothing down, and leaves the orchestrator as it is or takes it
away. -/
theorem Failed.report (h : scenario.Failed name) (s : Step) :
    (scenario.report s).events = [] ∧ (scenario.report s).scenario.Failed name ∧
      (s.ends = false →
        (scenario.report s).scenario.orchestrator = scenario.orchestrator) := by
  cases hsome : scenario.orchestrator with
  | none =>
    rw [report_gone hsome]
    exact ⟨rfl, h, fun _ => hsome⟩
  | some o =>
    cases s with
    | add script =>
      rw [report_refused hsome (h.failed o hsome)]
      exact ⟨rfl, failed_some (h.runs o hsome) (h.failed o hsome) _ _, fun _ => rfl⟩
    | shutdown =>
      have hsame : { o with started := [] } = o := by
        obtain ⟨mode, tell, started, constructed, failed⟩ := o
        obtain rfl : started = [] := (h.runs _ hsome).started
        rfl
      rw [h.runs.report_shutdown hsome, hsame]
      exact ⟨rfl, failed_some (h.runs o hsome) (h.failed o hsome) _ _, fun _ => rfl⟩
    | drop =>
      rw [h.runs.report_ended hsome (.inl rfl)]
      exact ⟨rfl, failed_none _ _ name, fun hends => by cases hends⟩
    | run =>
      rw [h.runs.report_ended hsome (.inr rfl)]
      exact ⟨rfl, failed_none _ _ name, fun hends => by cases hends⟩

theorem Failed.after (h : scenario.Failed name) (steps : List Step) :
    (scenario.after steps).Failed name := by
  induction steps generalizing scenario with
  | nil => exact h
  | cons s steps ih => exact ih (h.report s).2.1

theorem Failed.orchestrator_after (h : scenario.Failed name) {steps : List Step}
    (hends : ∀ s ∈ steps, s.ends = false) :
    (scenario.after steps).orchestrator = scenario.orchestrator := by
  induction steps generalizing scenario with
  | nil => rfl
  | cons s steps ih =>
    obtain ⟨-, hfailed, hsame⟩ := h.report s
    rw [after_cons, ih hfailed fun t ht => hends t (by simp [ht])]
    exact hsame (hends s (by simp))

theorem Failed.journal (h : scenario.Failed name) (steps : List Step) :
    scenario.journal steps = [] := by
  induction steps generalizing scenario with
  | nil => exact h.runs.journal_nil fun _ => rfl
  | cons s steps ih =>
    obtain ⟨hevents, hfailed, -⟩ := h.report s
    rw [journal_cons, hevents, ih hfailed, List.append_nil]

/-! ### The failure -/

/-- A component that is added now fails with its own error: its constructor does, or its start. -/
def FailsBy (scenario : Scenario) (mode : Mode) (script : Script) : AddError Failure → Prop
  | .refused _ _ => False
  | .construction component f => component = script.name ∧
    ((script.construct scenario.serial scenario.handles).run []).1 = .error f
  | .start component f => component = script.name ∧ mode = .run ∧
    (∃ handle, ((script.construct scenario.serial scenario.handles).run []).1 = .ok handle) ∧
    script.startOutcome = .error f

def Intact (scenario : Scenario) (mode : Mode) : Prop :=
  ∃ o, scenario.orchestrator = some o ∧ o.mode = mode ∧ o.failed = none

theorem intact_begin (mode : Mode) : (begin mode).Intact mode := ⟨_, rfl, rfl, rfl⟩

theorem Runs.intact_next (h : scenario.Runs live) {mode : Mode} (hintact : scenario.Intact mode)
    {s : Step} (hends : s.ends = false)
    (hok : ∀ e, (scenario.report s).result ≠ .addFailed e) :
    (scenario.report s).scenario.Intact mode := by
  obtain ⟨o, ho, hmode, hnone⟩ := hintact
  have houtcome := h.outcome s
  generalize scenario.report s = r at houtcome hok ⊢
  cases houtcome with
  | gone s hgone => simp [hgone] at ho
  | refused o script failed hsome hfailed => exact absurd rfl (hok _)
  | unbuilt o script f own hsome hfailed hown => exact absurd rfl (hok _)
  | checked o' script dependencies hsome hfailed hcheck =>
    obtain rfl := Option.some.inj (hsome.symm.trans ho)
    exact ⟨_, rfl, hmode, hnone⟩
  | unstarted o script dependencies f hsome hfailed hrun hstart => exact absurd rfl (hok _)
  | added o' script dependencies hsome hfailed hrun hstart =>
    obtain rfl := Option.some.inj (hsome.symm.trans ho)
    exact ⟨_, rfl, hmode, hnone⟩
  | shutdown o' hsome =>
    obtain rfl := Option.some.inj (hsome.symm.trans ho)
    exact ⟨_, rfl, hmode, hnone⟩
  | ended s o' hs hsome => rcases hs with rfl | rfl <;> cases hends

theorem Runs.intact_after (h : scenario.Runs live) {mode : Mode} (hintact : scenario.Intact mode)
    {steps : List Step} (hends : ∀ s ∈ steps, s.ends = false)
    (hok : ∀ r ∈ scenario.history steps, ∀ e, r.2.result ≠ .addFailed e) :
    (scenario.after steps).Intact mode := by
  induction steps generalizing scenario live with
  | nil => exact hintact
  | cons s steps ih =>
    rw [history_cons, List.forall_mem_cons] at hok
    obtain ⟨live', hnext⟩ := h.next s
    exact ih hnext (h.intact_next hintact (hends s (by simp)) hok.1)
      (fun t ht => hends t (by simp [ht])) hok.2

/-- A component that fails itself is reported with its own error, and leaves nothing running. -/
theorem Runs.report_failsBy (h : scenario.Runs live) {mode : Mode}
    (hintact : scenario.Intact mode) {script : Script} {e : AddError Failure}
    (hfails : scenario.FailsBy mode script e) :
    (scenario.report (.add script)).result = .addFailed e ∧
      (scenario.report (.add script)).scenario.Failed script.name ∧
      ∃ o, (scenario.report (.add script)).scenario.orchestrator = some o := by
  obtain ⟨o, hsome, hmode, hnone⟩ := hintact
  have htell := (h o hsome).tell
  cases e with
  | refused component failed => cases hfails
  | construction component f =>
    obtain ⟨rfl, hf⟩ := hfails
    rw [h.report_unbuilt hsome hnone (Prod.ext hf rfl)]
    refine ⟨rfl, failed_some ⟨?_, rfl⟩ rfl _ _, _, rfl⟩
    exact htell
  | start component f =>
    obtain ⟨rfl, hrun, ⟨handle, hhandle⟩, hstart⟩ := hfails
    obtain ⟨f', hf⟩ | ⟨dependencies, ⟨f', hf⟩ | hbuilt⟩ :=
      script.construct_cases scenario.serial scenario.handles []
    · simp [hf] at hhandle
    · simp [hf] at hhandle
    · rw [h.report_unstarted hsome hnone (hmode.trans hrun) hstart hbuilt]
      refine ⟨rfl, failed_some ⟨?_, rfl⟩ rfl _ _, _, rfl⟩
      exact htell

/-- The first component that fails itself is reported with its own error. From then on nothing runs
and the orchestrator stays as it is: it refuses whatever is added because of this component, has
nothing to stop, and nothing more is written down. -/
theorem first_failure_final {mode : Mode} {front : List Step} {script : Script}
    {e : AddError Failure} (hends : ∀ s ∈ front, s.ends = false)
    (hfirst : ∀ r ∈ (begin mode).history front, ∀ e, r.2.result ≠ .addFailed e)
    (hfails : ((begin mode).after front).FailsBy mode script e) :
    let report := ((begin mode).after front).report (.add script)
    report.result = .addFailed e ∧
    (∃ o, report.scenario.orchestrator = some o ∧ o.running = [] ∧
      (∀ (α : Type) (d : Descriptor Journaled Failure α) (construct : Journaled (Except Failure α)),
        o.add d construct = pure (.error (.refused d.name script.name), o)) ∧
      ∀ later : List Step, (∀ s ∈ later, s.ends = false) →
        let scenario := report.scenario.after later
        scenario.orchestrator = some o ∧
        (∀ other, ∃ refusal, (scenario.report (.add other)).result = .addFailed refusal ∧
          refusal.stage = .construction ∧ refusal.component = other.name ∧
          refusal.failure = .under ("unable to initialize " ++ other.name ++ " component")
            (.plain (script.name ++ " component failed earlier"))) ∧
        (scenario.report .shutdown).result = .stopErrors []) ∧
    ∀ later : List Step, (begin mode).journal (front ++ .add script :: later) =
      (begin mode).written (front ++ [.add script]) := by
  intro report
  obtain ⟨live, hruns⟩ := (runs_begin mode).after front
  have hintact := (runs_begin mode).intact_after (intact_begin mode) hends hfirst
  obtain ⟨hresult, hfailed, o, ho⟩ := hruns.report_failsBy hintact hfails
  refine ⟨hresult, ⟨o, ho, ?_, ?_, ?_⟩, ?_⟩
  · simp [Orchestrator.running, (hfailed.runs o ho).started]
  · intro α d construct
    exact Orchestrator.add_of_failed (hfailed.failed o ho) d construct
  · intro later hlater scenario
    have hsame : scenario.orchestrator = some o := (hfailed.orchestrator_after hlater).trans ho
    refine ⟨hsame, fun other => ?_, ?_⟩
    · rw [report_refused hsame (hfailed.failed o ho) other]
      exact ⟨_, rfl, rfl, rfl, rfl⟩
    · rw [(hfailed.after later).runs.report_shutdown hsame]
      rfl
  · intro later
    rw [List.append_cons, journal_append, after_append, written_append, after_cons, after_nil,
      hfailed.journal, List.append_nil]

/-- The start of a second component fails, and the first one does not stop in order. -/
theorem first_failure_final_unwind :
    let a : Script := ⟨"a", [], true, true, none, none, some (.plain "busy")⟩
    let b : Script := ⟨"b", ["a"], true, true, none, some (.plain "no port"), none⟩
    let c : Script := ⟨"c", ["a"], false, true, none, none, none⟩
    let scenario := (begin .run).after [.add a]
    (∀ s ∈ [Step.add a], s.ends = false) ∧
      (∀ r ∈ (begin .run).history [.add a], ∀ e, r.2.result ≠ .addFailed e) ∧
      scenario.FailsBy .run b (.start "b" (.plain "no port")) ∧
      (scenario.report (.add b)).result = .addFailed (.start "b" (.plain "no port")) ∧
      (begin .run).journal [.add a, .add b, .add c, .shutdown, .run] =
        [.new ⟨0, "a"⟩ [], .start ⟨0, "a"⟩, .new ⟨1, "b"⟩ [⟨0, "a"⟩], .start ⟨1, "b"⟩,
          .stop ⟨0, "a"⟩] := by
  intro a b c scenario
  have hends : ∀ s ∈ [Step.add a], s.ends = false := by simp [Step.ends]
  have hfirst : ∀ r ∈ (begin .run).history [.add a], ∀ e, r.2.result ≠ .addFailed e := by
    intro r hr e
    obtain rfl := List.mem_singleton.1 hr
    exact fun h => by cases h
  have hfails : scenario.FailsBy .run b (.start "b" (.plain "no port")) :=
    ⟨rfl, rfl, ⟨⟨1, "b"⟩, rfl⟩, rfl⟩
  obtain ⟨hresult, -, hjournal⟩ := first_failure_final hends hfirst hfails
  exact ⟨hends, hfirst, hfails, hresult, hjournal [.add c, .shutdown, .run]⟩

end Scenario

end LayeredConfig.Lifecycle
