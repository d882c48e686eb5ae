import LayeredConfig.Proofs.Lifecycle.FirstFailure
import LayeredConfig.Proofs.Lifecycle.StopOnce

namespace LayeredConfig.Lifecycle

/-- No component is stopped while another one is asked for, in front of what follows. -/
theorem Early.stop_not_mem_front {n m : ℕ} {own rest front back : List Event} {e : Event}
    (h : Early n m own) (hsplit : own ++ rest = front ++ e :: back) (he : e ∉ rest)
    (handle : Handle) : .stop handle ∉ front := by
  obtain ⟨own', rfl⟩ | ⟨front', -, hrest⟩ := split_append hsplit
  · intro hmem
    exact h.stop_not_mem handle (by simp [hmem])
  · exact absurd (by simp [hrest]) he

namespace Scenario

variable {scenario : Scenario} {live : List Member} {c d : Member} {steps : List Step}

/-! ### The numbers of components -/

/-- A step writes about the components that it asks for, and then about those that it stops. -/
theorem Runs.events_eq (h : scenario.Runs live) (s : Step) : ∃ own stopped,
    (scenario.report s).events = own ++ stops stopped ∧ stopped ⊆ live ∧
      Early scenario.serial (scenario.report s).scenario.serial own ∧
      scenario.serial ≤ (scenario.report s).scenario.serial := by
  have houtcome := h.outcome s
  generalize scenario.report s = r at houtcome ⊢
  cases houtcome with
  | gone s hnone => exact ⟨[], [], rfl, by simp, .nil _ _, Nat.le_refl _⟩
  | refused o script failed hsome hfailed => exact ⟨[], [], rfl, by simp, .nil _ _, Nat.le_succ _⟩
  | unbuilt o script f own hsome hfailed hown =>
    exact ⟨own, live, rfl, List.Subset.refl _, .unbuilt hown, Nat.le_succ _⟩
  | checked o script dependencies hsome hfailed hmode =>
    exact ⟨_, [], (List.append_nil _).symm, by simp, .new, Nat.le_succ _⟩
  | unstarted o script dependencies f hsome hfailed hmode hstart =>
    exact ⟨_, live, rfl, List.Subset.refl _, .birth _ dependencies, Nat.le_succ _⟩
  | added o script dependencies hsome hfailed hmode hstart =>
    exact ⟨_, [], (List.append_nil _).symm, by simp, .birth _ dependencies, Nat.le_succ _⟩
  | shutdown o hsome => exact ⟨[], live, rfl, List.Subset.refl _, .nil _ _, Nat.le_refl _⟩
  | ended s o hs hsome => exact ⟨[], live, rfl, List.Subset.refl _, .nil _ _, Nat.le_refl _⟩

theorem Runs.serial_le_after (h : scenario.Runs live) (steps : List Step) :
    scenario.serial ≤ (scenario.after steps).serial := by
  induction steps generalizing scenario live with
  | nil => exact Nat.le_refl _
  | cons s steps ih =>
    obtain ⟨own, stopped, -, -, -, hle⟩ := h.events_eq s
    obtain ⟨live', hnext⟩ := h.next s
    exact Nat.le_trans hle (ih hnext)

/-- What was written down is about components that were asked for. -/
theorem Tracks.serial_lt_of_mem_written (h : scenario.Tracks live) {e : Event}
    (he : e ∈ scenario.written steps) : e.handle.serial < (scenario.after steps).serial := by
  induction steps generalizing scenario live with
  | nil => cases he
  | cons s steps ih =>
    have hnext := h.next (h.runs.outcome s)
    rw [written_cons, List.mem_append] at he
    rcases he with he | he
    · obtain ⟨own, stopped, hevents, hstopped, hown, hle⟩ := h.runs.events_eq s
      have hlater := hnext.runs.serial_le_after steps
      rw [hevents, List.mem_append] at he
      rw [after_cons]
      rcases he with he | he
      · have := (hown e he).2.2
        omega
      · obtain ⟨c, hc, -, rfl⟩ := mem_stops_iff.1 he
        have hlt : c.handle.serial < scenario.serial := h.descends.lt c (hstopped hc)
        show c.handle.serial < _
        omega
    · exact ih hnext he

/-- What will be started has not been asked for yet. -/
theorem Tracks.serial_le_of_start (h : scenario.Tracks live) {handle : Handle}
    (hstart : .start handle ∈ scenario.journal steps) : scenario.serial ≤ handle.serial := by
  have hstops (stopped : List Member) : .start handle ∉ stops stopped := by
    intro hmem
    obtain ⟨c, -, -, heq⟩ := mem_stops_iff.1 hmem
    cases heq
  induction steps generalizing scenario live with
  | nil =>
    rw [h.runs.journal_nil h.gone] at hstart
    exact absurd hstart (hstops live)
  | cons s steps ih =>
    obtain ⟨own, stopped, hevents, -, hown, hle⟩ := h.runs.events_eq s
    rw [journal_cons, hevents, List.append_assoc, List.mem_append, List.mem_append] at hstart
    rcases hstart with hstart | hstart | hstart
    · exact (hown _ hstart).2.1
    · exact absurd hstart (hstops stopped)
    · exact Nat.le_trans hle (ih (h.next (h.runs.outcome s)) hstart)

/-- A component that was asked for and does not run is neither started nor stopped. -/
theorem Tracks.not_mem_journal (h : scenario.Tracks live) {handle : Handle}
    (hlt : handle.serial < scenario.serial) (hlive : ∀ c ∈ live, c.handle ≠ handle)
    (steps : List Step) :
    .start handle ∉ scenario.journal steps ∧ .stop handle ∉ scenario.journal steps := by
  refine ⟨fun hstart => absurd (h.serial_le_of_start hstart) (Nat.not_le.2 hlt), fun hstop => ?_⟩
  obtain ⟨c, hc, -, rfl⟩ := (h.settles steps).only handle hstop
  rcases List.mem_append.1 hc with hc | hc
  · exact hlive c hc rfl
  · exact absurd hlt (Nat.not_lt.2 ((h.settles steps).fresh c hc))

/-! ### While a component runs -/

/-- What runs longer is stopped later. -/
theorem Tracks.stop_not_mem_front (h : scenario.Tracks (c :: live)) (hd : d ∈ live)
    {front back : List Event}
    (hjournal : scenario.journal steps = front ++ .stop c.handle :: back) :
    .stop d.handle ∉ front := by
  have hsettles := h.settles steps
  have hlt : d.serial < c.serial := (List.pairwise_cons.1 h.descends.ordered).1 d hd
  have hstop : c.script.canStop = true := by
    obtain ⟨c', hc', hhook, heq⟩ := hsettles.only c.handle (by simp [hjournal])
    have hserial : c'.serial = c.serial := congrArg Handle.serial heq
    rcases List.mem_append.1 hc' with hc' | hc'
    · rcases List.mem_cons.1 hc' with rfl | hc'
      · exact hhook
      · have := (List.pairwise_cons.1 h.descends.ordered).1 c' hc'
        omega
    · have := hsettles.fresh c' hc'
      have := h.descends.lt c (by simp)
      omega
  intro hmem
  obtain ⟨before, after, rfl⟩ := List.append_of_mem hmem
  -- The later component would be stopped twice.
  have hearlier : .stop c.handle ∈ before := by
    apply hsettles.reverse d (by simp [hd]) c (by simp) hlt hstop before
      (after ++ .stop c.handle :: back)
    · simpa using hjournal
    · exact .inl (by simp)
  have honce := hsettles.once c (by simp) hstop
  have hpos := List.count_pos_iff.2 hearlier
  simp only [hjournal, List.count_append, List.count_cons_self] at honce
  omega

theorem Tracks.some_of_mem (h : scenario.Tracks live) (hd : d ∈ live) :
    ∃ o, scenario.orchestrator = some o := by
  cases hsome : scenario.orchestrator with
  | none =>
    rw [h.gone hsome] at hd
    cases hd
  | some o => exact ⟨o, rfl⟩

/-- An addition succeeds, or is refused, or fails and leaves nothing running. -/
theorem Tracks.add_cases (h : scenario.Tracks live) {o : Orchestrator Journaled Failure}
    (hsome : scenario.orchestrator = some o) (x : Script) :
    (scenario.report (.add x)).scenario.serial = scenario.serial + 1 ∧
      (((scenario.report (.add x)).result = .ok ∧ x.startOutcome = .ok () ∧
          (∃ dependencies, (scenario.report (.add x)).events =
            (scenario.candidate x).birth dependencies) ∧
          (scenario.report (.add x)).scenario.Tracks (scenario.candidate x :: live)) ∨
        ((scenario.report (.add x)).result ≠ .ok ∧ (scenario.report (.add x)).events = [] ∧
          (scenario.report (.add x)).scenario.Tracks live) ∨
        ((scenario.report (.add x)).result ≠ .ok ∧
          (scenario.report (.add x)).scenario.Tracks [] ∧
          ∃ name, (scenario.report (.add x)).scenario.Failed name)) := by
  have houtcome := h.runs.outcome (.add x)
  have hnext := h.next houtcome
  generalize scenario.report (.add x) = r at houtcome hnext ⊢
  cases houtcome with
  | gone s hnone => simp [hsome] at hnone
  | refused o script failed hsome hfailed =>
    exact ⟨rfl, .inr (.inl ⟨by simp, rfl, hnext⟩)⟩
  | unbuilt o script f own hsome hfailed hown =>
    exact ⟨rfl, .inr (.inr ⟨by simp, hnext, _, failed_some (hnext.runs _ rfl) rfl _ _⟩)⟩
  | checked o script dependencies hsome hfailed hmode =>
    exact absurd ((h.mode o hsome).symm.trans hmode) (by decide)
  | unstarted o script dependencies f hsome hfailed hmode hstart =>
    exact ⟨rfl, .inr (.inr ⟨by simp, hnext, _, failed_some (hnext.runs _ rfl) rfl _ _⟩)⟩
  | added o script dependencies hsome hfailed hmode hstart =>
    exact ⟨rfl, .inl ⟨rfl, hstart, ⟨dependencies, rfl⟩, hnext⟩⟩
  | ended s o hs hsome => rcases hs with hs | hs <;> cases hs

/-- While a component runs, whatever is added is started and stopped before it is stopped. -/
theorem Tracks.stop_not_mem_of_added (h : scenario.Tracks live) (hd : d ∈ live) (x : Script)
    {e : Event} (he : e = .start (scenario.candidate x).handle ∨
      e = .stop (scenario.candidate x).handle) {front back : List Event}
    (hjournal : scenario.journal (.add x :: steps) = front ++ e :: back) :
    .stop d.handle ∉ front := by
  obtain ⟨o, hsome⟩ := h.some_of_mem hd
  obtain ⟨hserial, hcases⟩ := h.add_cases hsome x
  have hnew : (scenario.candidate x).handle.serial <
      (scenario.report (.add x)).scenario.serial := hserial ▸ Nat.lt_succ_self _
  have hlive : ∀ c ∈ live, c.handle ≠ (scenario.candidate x).handle := by
    intro c hc heq
    have hlt : c.handle.serial < scenario.serial := h.descends.lt c hc
    rw [heq] at hlt
    exact Nat.lt_irrefl _ hlt
  rw [journal_cons] at hjournal
  obtain ⟨-, -, ⟨dependencies, hbirth⟩, hnext⟩ | hnot := hcases
  · have hearly := Early.birth (scenario.candidate x) dependencies
    rw [hbirth] at hjournal
    obtain ⟨own', hown⟩ | ⟨front', rfl, hrest⟩ := split_append hjournal
    · intro hmem
      exact hearly.stop_not_mem d.handle (by simp [hown, hmem])
    · have hlater : .stop d.handle ∉ front' := by
        rcases he with rfl | rfl
        · have hstart : .start (scenario.candidate x).handle ∈
              (scenario.report (.add x)).scenario.journal steps := by simp [hrest]
          exact absurd hnew (Nat.not_lt.2 (hnext.serial_le_of_start hstart))
        · exact hnext.stop_not_mem_front hd hrest
      intro hmem
      rcases List.mem_append.1 hmem with hmem | hmem
      · exact hearly.stop_not_mem d.handle hmem
      · exact hlater hmem
  · -- What was not added is not started or stopped later.
    obtain ⟨live', hsubset, hnext⟩ : ∃ live', live' ⊆ live ∧
        (scenario.report (.add x)).scenario.Tracks live' := by
      rcases hnot with ⟨-, -, hnext⟩ | ⟨-, hnext, -⟩
      · exact ⟨live, List.Subset.refl _, hnext⟩
      · exact ⟨[], by simp, hnext⟩
    have hrest := hnext.not_mem_journal hnew (fun c hc => hlive c (hsubset hc)) steps
    obtain ⟨own, stopped, hevents, hstopped, hown, -⟩ := h.runs.events_eq (.add x)
    rw [hevents, List.append_assoc] at hjournal
    refine hown.stop_not_mem_front hjournal (fun hmem => ?_) d.handle
    rcases List.mem_append.1 hmem with hmem | hmem
    · obtain ⟨c, hc, -, rfl⟩ := mem_stops_iff.1 hmem
      rcases he with he | he
      · cases he
      · exact hlive c (hstopped hc) (Event.stop.inj he)
    · rcases he with rfl | rfl
      · exact hrest.1 hmem
      · exact hrest.2 hmem

/-- A step other than a shutdown keeps a component running, or something fails or ends. -/
theorem Tracks.next_of_mem (h : scenario.Tracks live) (hd : d ∈ live) {s : Step}
    (hs : s ≠ .shutdown) :
    (∃ live', (scenario.report s).scenario.Tracks live' ∧ d ∈ live' ∧
      .stop d.handle ∉ (scenario.report s).events) ∨
      ∃ name, (scenario.report s).scenario.Failed name := by
  obtain ⟨o, hsome⟩ := h.some_of_mem hd
  cases s with
  | add x =>
    obtain ⟨-, hadded | hrefused | ⟨-, -, name, hfailed⟩⟩ := h.add_cases hsome x
    · obtain ⟨-, -, ⟨dependencies, hbirth⟩, hnext⟩ := hadded
      refine .inl ⟨_, hnext, List.mem_cons_of_mem _ hd, ?_⟩
      rw [hbirth]
      exact (Early.birth _ dependencies).stop_not_mem d.handle
    · obtain ⟨-, hevents, hnext⟩ := hrefused
      exact .inl ⟨live, hnext, hd, by simp [hevents]⟩
    · exact .inr ⟨name, hfailed⟩
  | shutdown => exact absurd rfl hs
  | drop =>
    rw [h.runs.report_ended hsome (.inl rfl)]
    exact .inr ⟨"", failed_none _ _ ""⟩
  | run =>
    rw [h.runs.report_ended hsome (.inr rfl)]
    exact .inr ⟨"", failed_none _ _ ""⟩

/-- Without a shutdown on request a component keeps running until something fails or ends. -/
theorem Tracks.after_of_mem (h : scenario.Tracks live) (hd : d ∈ live)
    (hquiet : .shutdown ∉ steps) :
    (∃ live', (scenario.after steps).Tracks live' ∧ d ∈ live' ∧
      .stop d.handle ∉ scenario.written steps) ∨
      ∃ name, (scenario.after steps).Failed name := by
  induction steps generalizing scenario live with
  | nil => exact .inl ⟨live, h, hd, by simp⟩
  | cons s steps ih =>
    rw [List.mem_cons, not_or] at hquiet
    rw [after_cons, written_cons]
    obtain ⟨live₁, hnext, hd₁, hevents⟩ | ⟨name, hfailed⟩ := h.next_of_mem hd (Ne.symm hquiet.1)
    · obtain ⟨live₂, hafter, hd₂, hwritten⟩ | hfailed := ih hnext hd₁ hquiet.2
      · exact .inl ⟨live₂, hafter, hd₂, by simp [hevents, hwritten]⟩
      · exact .inr hfailed
    · exact .inr ⟨name, hfailed.after steps⟩

/-- What an addition that succeeds leaves behind until something fails or ends, when nothing is
stopped on request. -/
theorem Tracks.after_of_added (h : scenario.Tracks live) {d : Script}
    (hadded : (scenario.report (.add d)).result = .ok) (hquiet : .shutdown ∉ steps) :
    d.startOutcome = .ok () ∧
    (d.canStart → .start (scenario.candidate d).handle ∈ scenario.written (.add d :: steps)) ∧
      ((∃ live', (scenario.after (.add d :: steps)).Tracks live' ∧
          scenario.candidate d ∈ live' ∧
          .stop (scenario.candidate d).handle ∉ scenario.written (.add d :: steps)) ∨
        ∃ name, (scenario.after (.add d :: steps)).Failed name) := by
  cases hsome : scenario.orchestrator with
  | none => simp [report_gone hsome] at hadded
  | some o =>
    obtain ⟨-, ⟨-, hstart, ⟨dependencies, hbirth⟩, hnext⟩ | ⟨hnot, -⟩ | ⟨hnot, -⟩⟩ :=
      h.add_cases hsome d
    · rw [after_cons, written_cons, hbirth]
      refine ⟨hstart, fun hcan => by simp [Member.birth, candidate, hcan], ?_⟩
      refine (hnext.after_of_mem List.mem_cons_self hquiet).imp_left ?_
      rintro ⟨live', hafter, hmem, hwritten⟩
      refine ⟨live', hafter, hmem, fun hstop => ?_⟩
      rcases List.mem_append.1 hstop with hstop | hstop
      · exact (Early.birth _ dependencies).stop_not_mem _ hstop
      · exact hwritten hstop
    · exact absurd hadded hnot
    · exact absurd hadded hnot

/-- What was added before a component has been started and has not been stopped whenever that
component is started or stopped, whether its constructor received it or not, unless everything was
stopped on request between the two additions. -/
theorem started_unstopped_of_added_before {front between back : List Step} {d x : Script}
    (hadded : (((begin .run).after front).report (.add d)).result = .ok)
    (hquiet : .shutdown ∉ between) :
    let dependency := (((begin .run).after front).candidate d).handle
    let before := front ++ .add d :: between
    let dependent := (((begin .run).after before).candidate x).handle
    d.startOutcome = .ok () ∧
    ∀ (past future : List Event) (e : Event),
      (begin .run).journal (before ++ .add x :: back) = past ++ e :: future →
      e = .start dependent ∨ e = .stop dependent →
        (d.canStart → .start dependency ∈ past) ∧ .stop dependency ∉ past := by
  intro dependency before dependent
  have hfront := tracks_begin.after front
  obtain ⟨hstart, hstarted, hthen⟩ := hfront.after_of_added hadded hquiet
  refine ⟨hstart, fun past future e hjournal he => ?_⟩
  have hwritten : (begin .run).written before = (begin .run).written front ++
      ((begin .run).after front).written (.add d :: between) := written_append _ _ _
  have hafter : (begin .run).after before =
      ((begin .run).after front).after (.add d :: between) := after_append _ _ _
  rw [journal_append] at hjournal
  obtain ⟨rest, hbefore⟩ | ⟨past', rfl, hrest⟩ := split_append hjournal
  · -- The dependent has not been asked for yet.
    have hmem : e ∈ (begin .run).written before := by simp [hbefore]
    have hlt := tracks_begin.serial_lt_of_mem_written hmem
    have hhandle : e.handle = dependent := by rcases he with rfl | rfl <;> rfl
    rw [hhandle] at hlt
    exact absurd hlt (Nat.lt_irrefl _)
  · refine ⟨fun hcan => ?_, fun hstop => ?_⟩
    · rw [hwritten]
      simp only [List.mem_append]
      exact .inl (.inr (hstarted hcan))
    · obtain ⟨live', htracks, hmem, hunstopped⟩ | ⟨name, hfailed⟩ := hthen
      · rw [hwritten, List.mem_append, List.mem_append] at hstop
        rcases hstop with (hstop | hstop) | hstop
        · exact absurd (tracks_begin.serial_lt_of_mem_written hstop) (Nat.lt_irrefl _)
        · exact hunstopped hstop
        · rw [← hafter] at htracks
          exact htracks.stop_not_mem_of_added hmem x he hrest hstop
      · rw [hafter, hfailed.journal] at hrest
        simp at hrest

/-- The second of two components of one name is needed by a third one, and all are stopped because
a fourth one cannot be constructed. -/
theorem started_unstopped_of_added_before_unwind :
    let a : Script := ⟨"a", [], true, true, none, none, none⟩
    let b : Script := ⟨"b", ["a"], true, true, none, none, some (.plain "busy")⟩
    let c : Script := ⟨"c", ["d"], true, true, none, none, none⟩
    let past : List Event := [.new ⟨0, "a"⟩ [], .start ⟨0, "a"⟩, .new ⟨1, "a"⟩ [],
      .start ⟨1, "a"⟩, .new ⟨2, "b"⟩ [⟨1, "a"⟩], .start ⟨2, "b"⟩]
    (((begin .run).after [.add a]).report (.add a)).result = .ok ∧
      (begin .run).journal [.add a, .add a, .add b, .add c] =
        past ++ .stop ⟨2, "b"⟩ :: [.stop ⟨1, "a"⟩, .stop ⟨0, "a"⟩] ∧
      .start ⟨1, "a"⟩ ∈ past ∧ .stop ⟨1, "a"⟩ ∉ past := by
  intro a b c past
  have hadded : (((begin .run).after [.add a]).report (.add a)).result = .ok := rfl
  have hjournal : (begin .run).journal [.add a, .add a, .add b, .add c] =
      past ++ .stop ⟨2, "b"⟩ :: [.stop ⟨1, "a"⟩, .stop ⟨0, "a"⟩] := rfl
  obtain ⟨-, hthroughout⟩ :=
    @started_unstopped_of_added_before [.add a] [] [.add c] a b hadded (by simp)
  obtain ⟨hstarted, hunstopped⟩ := hthroughout past _ _ hjournal (.inr rfl)
  exact ⟨hadded, hjournal, hstarted rfl, hunstopped⟩

end Scenario

end LayeredConfig.Lifecycle
