import LayeredConfig.Proofs.Lifecycle.Step

namespace LayeredConfig.Lifecycle

def Event.handle : Event → Handle
  | .new h _ | .start h | .stop h => h

def Event.built? : Event → Option Handle
  | .new h _ => some h
  | _ => none

def Event.stopped? : Event → Option Handle
  | .stop h => some h
  | _ => none

/-! ### Components in the order of their additions -/

namespace Member

def serial (c : Member) : ℕ := c.handle.serial

end Member

/-- These components were asked for among the first so many, the latest first. -/
structure Descends (n : ℕ) (live : List Member) : Prop where
  lt : ∀ c ∈ live, c.serial < n
  ordered : live.Pairwise fun c c' => c'.serial < c.serial

namespace Descends

variable {n m : ℕ} {live : List Member}

theorem nil (n : ℕ) : Descends n [] := ⟨by simp, .nil⟩

theorem mono (h : Descends n live) (hle : n ≤ m) : Descends m live :=
  ⟨fun c hc => Nat.lt_of_lt_of_le (h.lt c hc) hle, h.ordered⟩

theorem cons (h : Descends n live) {c : Member} (hc : c.serial = n) :
    Descends (n + 1) (c :: live) := by
  refine ⟨fun c' hmem => ?_, List.pairwise_cons.2 ⟨fun c' hmem => ?_, h.ordered⟩⟩
  · rcases List.mem_cons.1 hmem with rfl | hmem
    · omega
    · have := h.lt c' hmem
      omega
  · have := h.lt c' hmem
    omega

/-- What was added later is stopped earlier. -/
theorem pairwise_stops (h : Descends n live) :
    (stops live).Pairwise fun e e' => e'.handle.serial < e.handle.serial := by
  rw [stops, List.pairwise_map]
  exact h.ordered.filter _

theorem nodup_stops (h : Descends n live) : (stops live).Nodup := by
  refine h.pairwise_stops.imp fun hlt heq => ?_
  rw [heq] at hlt
  exact Nat.lt_irrefl _ hlt

theorem stop_not_mem_stops (h : Descends n live) {handle : Handle} (hle : n ≤ handle.serial) :
    .stop handle ∉ stops live := by
  intro hmem
  obtain ⟨c, hc, -, heq⟩ := mem_stops_iff.1 hmem
  have hlt : c.serial < n := h.lt c hc
  cases heq
  exact absurd hlt (Nat.not_lt.2 hle)

/-- A component is stopped before those that were added before it. -/
theorem stop_mem_of_stops_eq (h : Descends n live) {c : Member} (hc : c ∈ live)
    (hstop : c.script.canStop) {handle : Handle} (hlt : handle.serial < c.serial)
    {before after : List Event} (hstops : stops live = before ++ .stop handle :: after) :
    .stop c.handle ∈ before := by
  have hmem : Event.stop c.handle ∈ stops live := mem_stops_iff.2 ⟨c, hc, hstop, rfl⟩
  have hpairwise := h.pairwise_stops
  rw [hstops] at hmem hpairwise
  rcases List.mem_append.1 hmem with hmem | hmem
  · exact hmem
  · exfalso
    rcases List.mem_cons.1 hmem with heq | hmem
    · cases heq
      exact Nat.lt_irrefl _ hlt
    · have hafter := (List.pairwise_cons.1 (List.pairwise_append.1 hpairwise).2.1).1 _ hmem
      exact absurd hlt (Nat.not_lt.2 (Nat.le_of_lt hafter))

end Descends

namespace Scenario

/-! ### What can be seen of a whole run -/

def added? : Step × Report → Option Member
  | (.add script, ⟨.ok, _, scenario⟩) => scenario.handles.head?.map (⟨·, script⟩)
  | _ => none

def added (history : List (Step × Report)) : List Member := history.filterMap added?

/-- What a step constructed and did not add. -/
def discardedBy (e : Step × Report) : List Handle :=
  match e.2.result with
  | .addFailed _ => e.2.events.filterMap Event.built?
  | _ => []

def discarded (history : List (Step × Report)) : List Handle := history.flatMap discardedBy

def stopsAll : Step × Report → Bool
  | (_, ⟨.gone, _, _⟩) => false
  | (.add _, ⟨.ok, _, _⟩) => false
  | (.add _, ⟨.addFailed (.refused _ _), _, _⟩) => false
  | _ => true

def advance (live : List Member) (e : Step × Report) : List Member :=
  if stopsAll e then [] else (added? e).toList ++ live

/-- What runs at the end: the components that were added after the last time that everything was
stopped. -/
def roster (history : List (Step × Report)) : List Member := history.foldl advance []

def history (scenario : Scenario) (steps : List Step) : List (Step × Report) :=
  steps.zip (scenario.play steps).1

def journal (scenario : Scenario) (steps : List Step) : List Event :=
  (scenario.play steps).1.flatMap Report.events ++ (scenario.play steps).2

def running (scenario : Scenario) : List String :=
  match scenario.orchestrator with
  | none => []
  | some o => o.running

variable {scenario : Scenario} {live : List Member}

theorem history_cons (scenario : Scenario) (s : Step) (steps : List Step) :
    scenario.history (s :: steps) =
      (s, scenario.report s) :: (scenario.report s).scenario.history steps := rfl

theorem journal_cons (scenario : Scenario) (s : Step) (steps : List Step) :
    scenario.journal (s :: steps) =
      (scenario.report s).events ++ (scenario.report s).scenario.journal steps := by
  simp [journal, play_cons]

theorem added_cons (e : Step × Report) (history : List (Step × Report)) :
    added (e :: history) = (added? e).toList ++ added history := by
  unfold added
  rw [List.filterMap_cons]
  cases added? e <;> rfl

theorem discarded_cons (e : Step × Report) (history : List (Step × Report)) :
    discarded (e :: history) = discardedBy e ++ discarded history := List.flatMap_cons ..

/-! ### What runs -/

/-- In run mode these components run, the latest first. -/
structure Tracks (scenario : Scenario) (live : List Member) : Prop where
  runs : scenario.Runs live
  mode : ∀ o, scenario.orchestrator = some o → o.mode = .run
  gone : scenario.orchestrator = none → live = []
  descends : Descends scenario.serial live

theorem tracks_begin : (begin .run).Tracks [] where
  runs o ho := by
    cases ho
    exact ⟨rfl, rfl⟩
  mode o ho := by
    cases ho
    rfl
  gone h := by cases h
  descends := .nil 0

theorem Tracks.running (h : scenario.Tracks live) :
    scenario.running = live.map (·.script.name) := by
  cases hsome : scenario.orchestrator with
  | none => simp [Scenario.running, hsome, h.gone hsome]
  | some o =>
    have hstarted := (h.runs o hsome).started
    simp [Scenario.running, hsome, Orchestrator.running, hstarted, Member.entry]

theorem tracks_some {o : Orchestrator Journaled Failure} (hruns : o.Runs live)
    (hmode : o.mode = .run) {n : ℕ} (hdescends : Descends n live) (handles : List Handle) :
    Tracks ⟨some o, handles, n⟩ live where
  runs o' ho := by
    cases ho
    exact hruns
  mode o' ho := by
    cases ho
    exact hmode
  gone h := by cases h
  descends := hdescends

theorem tracks_none (handles : List Handle) (n : ℕ) : Tracks ⟨none, handles, n⟩ [] where
  runs o ho := by cases ho
  mode o ho := by cases ho
  gone _ := rfl
  descends := .nil n

theorem Tracks.stopped (h : scenario.Tracks live) {o : Orchestrator Journaled Failure}
    (hsome : scenario.orchestrator = some o) (constructed : List String) (failed : Option String)
    (handles : List Handle) (n : ℕ) :
    Tracks ⟨some ⟨o.mode, o.tell, [], constructed, failed⟩, handles, n⟩ [] := by
  refine tracks_some ⟨?_, rfl⟩ ?_ (.nil n) handles
  · exact (h.runs o hsome).tell
  · exact h.mode o hsome

theorem Tracks.next (h : scenario.Tracks live) {s : Step} {r : Report}
    (hr : scenario.Outcome live s r) : r.scenario.Tracks (advance live (s, r)) := by
  cases hr with
  | gone s hnone =>
    have hadvance : advance live (s, ⟨.gone, [], scenario⟩) = live := by
      cases s <;> rfl
    rw [hadvance]
    exact h
  | refused o script failed hsome hfailed =>
    exact tracks_some (h.runs o hsome) (h.mode o hsome) (h.descends.mono (Nat.le_succ _)) _
  | unbuilt o script f own hsome hfailed hown => exact h.stopped hsome _ _ _ _
  | checked o script dependencies hsome hfailed hmode =>
    exact absurd ((h.mode o hsome).symm.trans hmode) (by decide)
  | unstarted o script dependencies f hsome hfailed hmode hstart =>
    exact h.stopped hsome _ _ _ _
  | added o script dependencies hsome hfailed hmode hstart =>
    refine tracks_some ⟨?_, rfl⟩ ?_ ?_ _
    · exact (h.runs o hsome).tell
    · exact h.mode o hsome
    · exact h.descends.cons rfl
  | shutdown o hsome => exact h.stopped hsome _ _ _ _
  | ended s o hs hsome =>
    rcases hs with rfl | rfl
    · exact tracks_none _ _
    · exact tracks_none _ _

/-- After every step the names of what runs are those of the components added since everything
was stopped. -/
theorem Tracks.running_history (h : scenario.Tracks live) (steps : List Step)
    {before after : List (Step × Report)} {e : Step × Report}
    (hhistory : scenario.history steps = before ++ e :: after) :
    e.2.scenario.running = ((before ++ [e]).foldl advance live).map (·.script.name) := by
  induction steps generalizing scenario live before with
  | nil => simp [history, play] at hhistory
  | cons s steps ih =>
    have hnext := h.next (h.runs.outcome s)
    rw [history_cons] at hhistory
    cases before with
    | nil =>
      obtain ⟨rfl, -⟩ := List.cons.inj hhistory
      exact hnext.running
    | cons first before =>
      obtain ⟨rfl, hrest⟩ := List.cons.inj hhistory
      exact ih hnext hrest

/-! ### Runs in two parts -/

def after (scenario : Scenario) : List Step → Scenario
  | [] => scenario
  | s :: steps => (scenario.report s).scenario.after steps

def written (scenario : Scenario) (steps : List Step) : List Event :=
  (scenario.history steps).flatMap (·.2.events)

@[simp] theorem after_nil (scenario : Scenario) : scenario.after [] = scenario := rfl

@[simp] theorem after_cons (scenario : Scenario) (s : Step) (steps : List Step) :
    scenario.after (s :: steps) = (scenario.report s).scenario.after steps := rfl

theorem after_append (scenario : Scenario) (steps more : List Step) :
    scenario.after (steps ++ more) = (scenario.after steps).after more := by
  induction steps generalizing scenario with
  | nil => rfl
  | cons s steps ih => exact ih _

@[simp] theorem written_nil (scenario : Scenario) : scenario.written [] = [] := rfl

theorem written_cons (scenario : Scenario) (s : Step) (steps : List Step) :
    scenario.written (s :: steps) =
      (scenario.report s).events ++ (scenario.report s).scenario.written steps := by
  simp [written, history_cons]

theorem written_append (scenario : Scenario) (steps more : List Step) :
    scenario.written (steps ++ more) =
      scenario.written steps ++ (scenario.after steps).written more := by
  induction steps generalizing scenario with
  | nil => rfl
  | cons s steps ih => rw [List.cons_append, written_cons, written_cons, ih, List.append_assoc,
      after_cons]

theorem journal_append (scenario : Scenario) (steps more : List Step) :
    scenario.journal (steps ++ more) =
      scenario.written steps ++ (scenario.after steps).journal more := by
  induction steps generalizing scenario with
  | nil => rfl
  | cons s steps ih => rw [List.cons_append, journal_cons, written_cons, ih, List.append_assoc,
      after_cons]

theorem Tracks.after (h : scenario.Tracks live) (steps : List Step) :
    (scenario.after steps).Tracks ((scenario.history steps).foldl advance live) := by
  induction steps generalizing scenario live with
  | nil => exact h
  | cons s steps ih => exact ih (h.next (h.runs.outcome s))

/-! ### In either mode -/

theorem runs_some {o : Orchestrator Journaled Failure} (h : o.Runs live) (handles : List Handle)
    (n : ℕ) : Runs ⟨some o, handles, n⟩ live := by
  intro o' ho
  cases ho
  exact h

theorem runs_begin (mode : Mode) : (begin mode).Runs [] := runs_some ⟨rfl, rfl⟩ [] 0

theorem Runs.next (h : scenario.Runs live) (s : Step) :
    ∃ live', (scenario.report s).scenario.Runs live' := by
  have houtcome := h.outcome s
  generalize scenario.report s = r at houtcome ⊢
  cases houtcome with
  | gone s hnone => exact ⟨live, h⟩
  | refused o script failed hsome hfailed => exact ⟨live, runs_some (h o hsome) _ _⟩
  | unbuilt o script f own hsome hfailed hown =>
    refine ⟨[], runs_some ⟨?_, rfl⟩ _ _⟩
    exact (h o hsome).tell
  | checked o script dependencies hsome hfailed hmode =>
    refine ⟨live, runs_some ⟨?_, ?_⟩ _ _⟩
    · exact (h o hsome).tell
    · exact (h o hsome).started
  | unstarted o script dependencies f hsome hfailed hmode hstart =>
    refine ⟨[], runs_some ⟨?_, rfl⟩ _ _⟩
    exact (h o hsome).tell
  | added o script dependencies hsome hfailed hmode hstart =>
    refine ⟨scenario.candidate script :: live, runs_some ⟨?_, rfl⟩ _ _⟩
    exact (h o hsome).tell
  | shutdown o hsome =>
    refine ⟨[], runs_some ⟨?_, rfl⟩ _ _⟩
    exact (h o hsome).tell
  | ended s o hs hsome =>
    refine ⟨[], fun o' ho => ?_⟩
    cases ho

/-- What still runs at the end is stopped. -/
theorem Runs.journal_nil (h : scenario.Runs live)
    (hgone : scenario.orchestrator = none → live = []) : scenario.journal [] = stops live := by
  cases hsome : scenario.orchestrator with
  | none =>
    rw [hgone hsome]
    simp only [journal, play, Scenario.finish, hsome]
    rfl
  | some o => simp [journal, play, h.finish hsome]

theorem Runs.after (h : scenario.Runs live) (steps : List Step) :
    ∃ live', (scenario.after steps).Runs live' := by
  induction steps generalizing scenario live with
  | nil => exact ⟨live, h⟩
  | cons s steps ih =>
    obtain ⟨live', hnext⟩ := h.next s
    exact ih hnext

end Scenario

end LayeredConfig.Lifecycle
