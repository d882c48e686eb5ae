import LayeredConfig.Proofs.Lifecycle.State
import LayeredConfig.Service.Serve
import LayeredConfig.Service.World

namespace LayeredConfig.Service

open Lifecycle

/-! ### The log of a world -/

namespace World

/-- What the log holds its filter admits; before it is open it holds nothing. -/
def Admitted (w : World) : Prop :=
  match w.openLog with
  | some (filter, _) => ∀ line ∈ w.lines, filter.admits line.2
  | none => w.lines = []

/-- One world is another one after nothing but logging. -/
structure OnlyLogged (w w' : World) : Prop where
  files : w'.files = w.files
  client : w'.client = w.client
  processId : w'.processId = w.processId
  printed : w'.printed = w.printed
  meanwhile : w'.meanwhile = w.meanwhile
  waiting : w'.waiting = w.waiting
  admitted : w.Admitted → w'.Admitted

theorem OnlyLogged.refl (w : World) : w.OnlyLogged w := ⟨rfl, rfl, rfl, rfl, rfl, rfl, id⟩

theorem OnlyLogged.trans {w w' w'' : World} (h : w.OnlyLogged w') (h' : w'.OnlyLogged w'') :
    w.OnlyLogged w'' :=
  ⟨h'.files.trans h.files, h'.client.trans h.client, h'.processId.trans h.processId,
    h'.printed.trans h.printed, h'.meanwhile.trans h.meanwhile, h'.waiting.trans h.waiting,
    h'.admitted ∘ h.admitted⟩

theorem onlyLogged_log (line : Logging.Line) (w : World) : w.OnlyLogged (w.log line) := by
  unfold log
  split
  next filter format hopen =>
    split
    next hadmits =>
      refine ⟨rfl, rfl, rfl, rfl, rfl, rfl, fun h => ?_⟩
      simp only [Admitted, hopen] at h ⊢
      intro l hl
      rcases List.mem_append.1 hl with hl | hl
      · exact h l hl
      · rwa [List.mem_singleton.1 hl]
    next => exact .refl w
  · exact .refl w

theorem onlyLogged_open (log : Logging.Filter × LogFormat) {w : World} (h : w.openLog = none) :
    w.OnlyLogged { w with openLog := some log } := by
  refine ⟨rfl, rfl, rfl, rfl, rfl, rfl, fun hadmitted => ?_⟩
  unfold Admitted at hadmitted ⊢
  rw [h] at hadmitted
  simp only [hadmitted, List.not_mem_nil, false_imp_iff, implies_true]

theorem openLog_log (line : Logging.Line) (w : World) : (w.log line).openLog = w.openLog := by
  unfold log
  split
  · split <;> rfl
  · rfl

def told (notice : Notice Failure) (w : World) : World :=
  w.log ⟨Serve.noticeLevel notice, "stratum::lifecycle", notice.message⟩

theorem onlyLogged_told (notice : Notice Failure) (w : World) : w.OnlyLogged (w.told notice) :=
  onlyLogged_log _ w

theorem openLog_told (notice : Notice Failure) (w : World) :
    (w.told notice).openLog = w.openLog :=
  openLog_log _ w

end World

variable {readFilter : Logging.FilterReader}

theorem Serve.tells_told (readFilter : Logging.FilterReader) (mode : Mode) :
    (Orchestrator.new mode (Serve.tell (Host.ofWorld readFilter))).Tells World.told :=
  fun _ _ => rfl

/-! ### The components -/

namespace Settings

def HasFilter (s : Settings) (readFilter : Logging.FilterReader) : Prop :=
  ∃ filter, readFilter s.level = .ok filter

/-- There is no PID file, its path has no parent or an empty one, or its parent is a directory. -/
def HasPlace (s : Settings) (files : Files.Tree) : Prop :=
  s.pidFile = none ∨ ∃ path, s.pidFile = some path ∧
    (Files.parent? path = none ∨ Files.parent? path = some "" ∨
      ∃ directory, Files.parent? path = some directory ∧ files.isDirectory directory)

theorem hasPlace_iff {s : Settings} {files : Files.Tree} :
    s.HasPlace files ↔ ∀ directory, s.pidFile.bind Files.parent? = some directory →
      directory ≠ "" → files.isDirectory directory := by
  unfold HasPlace
  cases s.pidFile with
  | none => simp
  | some path =>
    cases hparent : Files.parent? path with
    | none => simp [hparent]
    | some directory => simp [hparent, or_iff_not_imp_left]

def hold (s : Settings) (processId : ℕ) (files : Files.Tree) : Except Files.Error Files.Tree :=
  match s.pidFile with
  | none => .ok files
  | some path => files.write path (toString processId ++ "\n").toUTF8

end Settings

section

variable {s : Settings} {w : World} {filter : Logging.Filter} {held : Files.Tree} {path : String}
  {e : Files.Error}

theorem Reporter.new_ok (h : readFilter s.level = .ok filter) :
    Reporter.new readFilter s.level s.format = .ok ⟨s.level, s.format, filter⟩ := by
  rw [Reporter.new, h]

theorem Reporter.new_error (h : ¬s.HasFilter readFilter) :
    ∃ f, Reporter.new readFilter s.level s.format = .error f := by
  cases hread : readFilter s.level with
  | ok filter => exact absurd ⟨filter, hread⟩ h
  | error e =>
    rw [Reporter.new, hread]
    exact ⟨_, rfl⟩

/-- A reporter opens the log, or leaves it as it is and says so in it. -/
theorem Reporter.start_run (readFilter : Logging.FilterReader) (preferred : Option String)
    (r : Reporter) (w : World) :
    ∃ w', (Reporter.start (Host.ofWorld readFilter) preferred r).run w = (.ok (), w') ∧
      w.OnlyLogged w' ∧
      w'.openLog = w.openLog.or (some (r.usedFilter readFilter preferred, r.format)) := by
  let log := (r.usedFilter readFilter preferred, r.format)
  unfold Reporter.start
  cases hopen : w.openLog with
  | none =>
    have hopened : ((Host.ofWorld readFilter).openLog log.1 log.2).run w =
        (true, { w with openLog := some log }) := by
      simp only [Host.ofWorld, StateT.run, hopen, log]
    exact ⟨_, run_bind_of_run hopened, World.onlyLogged_open log hopen, rfl⟩
  | some old =>
    have hkept : ((Host.ofWorld readFilter).openLog log.1 log.2).run w = (false, w) := by
      simp only [Host.ofWorld, StateT.run, hopen]
    exact ⟨_, run_bind_of_run hkept, World.onlyLogged_log _ w,
      (World.openLog_log _ w).trans hopen⟩

theorem newDaemon_ok (readFilter : Logging.FilterReader) (h : s.HasPlace w.files) :
    (Serve.newDaemon (Host.ofWorld readFilter) s).run w = (.ok ⟨s.pidFile, 0⟩, w) := by
  have hnew : (Daemon.new (Host.ofWorld readFilter) s.pidFile).run w =
      (.ok ⟨s.pidFile, 0⟩, w) := by
    unfold Daemon.new
    split
    · rfl
    · rfl
    next directory hne hparent =>
      have hdirectory := Settings.hasPlace_iff.1 h directory hparent (by rintro rfl; exact hne rfl)
      have hasked : ((Host.ofWorld readFilter).isDirectory directory).run w = (true, w) :=
        congrArg (·, w) hdirectory
      exact run_bind_of_run hasked
  exact run_bind_of_run hnew

theorem newDaemon_error (readFilter : Logging.FilterReader) (h : ¬s.HasPlace w.files) :
    ∃ f, (Serve.newDaemon (Host.ofWorld readFilter) s).run w = (.error f, w) := by
  have hnew : ∃ f, (Daemon.new (Host.ofWorld readFilter) s.pidFile).run w = (.error f, w) := by
    rw [Settings.hasPlace_iff] at h
    push Not at h
    obtain ⟨directory, hparent, hne, hdirectory⟩ := h
    have hasked : ((Host.ofWorld readFilter).isDirectory directory).run w = (false, w) :=
      congrArg (·, w) (Bool.eq_false_iff.2 hdirectory)
    unfold Daemon.new
    split
    next hnone => rw [hparent] at hnone; cases hnone
    next hempty => rw [hparent] at hempty; cases hempty; exact absurd rfl hne
    next other _ hother =>
      obtain rfl : directory = other := Option.some.inj (hparent.symm.trans hother)
      exact ⟨_, run_bind_of_run hasked⟩
  obtain ⟨f, hnew⟩ := hnew
  exact ⟨_, run_bind_of_run hnew⟩

/-- A daemon with a PID file writes it when it starts, and tells that it did. -/
theorem Daemon.start_run (hpath : s.pidFile = some path) {result : Except Files.Error Unit}
    {w' : World}
    (hwrite : ((Host.ofWorld readFilter).writeFile path (toString w.processId ++ "\n")).run w =
      (result, w')) :
    (Daemon.start (Host.ofWorld readFilter) ⟨s.pidFile, 0⟩).run w =
      match result with
      | .ok () => (.ok (), w'.log ⟨.debug, logTarget, "Wrote PID file " ++ path⟩)
      | .error e =>
        (.error ((Failure.ofSystem e).under ("Failed writing PID file: " ++ path)), w') := by
  have hwatch : (Host.ofWorld readFilter).watchSignals.run w = ((), w) := rfl
  have hid : (Host.ofWorld readFilter).processId.run w = (w.processId, w) := rfl
  unfold Daemon.start
  rw [hpath, run_bind_of_run hwatch]
  dsimp only
  rw [run_bind_of_run hid, run_bind_of_run hwrite]
  cases result <;> rfl

namespace Serve

variable {mode : Mode} {preferred : Option String}

theorem newReporter_ok (h : readFilter s.level = .ok filter) (w : World) :
    (newReporter (Host.ofWorld readFilter) s).run w = (.ok ⟨s.level, s.format, filter⟩, w) :=
  congrArg (·, w) (Reporter.new_ok h)

theorem newReporter_error (h : ¬s.HasFilter readFilter) (w : World) :
    ∃ f, (newReporter (Host.ofWorld readFilter) s).run w = (.error f, w) := by
  obtain ⟨f, hnew⟩ := Reporter.new_error h
  exact ⟨f, congrArg (·, w) hnew⟩

/-- What an orchestrator and the world are after the reporter was added. The log is open once the
reporter runs. -/
structure Reporting (mode : Mode) (log : Logging.Filter × LogFormat) (w : World)
    (o : Orchestrator (StateM World) Failure) (w' : World) : Prop where
  tells : o.Tells World.told
  hookless : o.Hookless
  unfailed : o.failed = none
  inMode : o.mode = mode
  onlyLogged : w.OnlyLogged w'
  openLog : mode = .run → w'.openLog = w.openLog.or (some log)

theorem add_reporter (mode : Mode) (preferred : Option String)
    (h : readFilter s.level = .ok filter) (w : World) :
    let r : Reporter := ⟨s.level, s.format, filter⟩
    ∃ o w', ((Orchestrator.new mode (tell (Host.ofWorld readFilter))).add
        (reporter (Host.ofWorld readFilter) preferred)
        (newReporter (Host.ofWorld readFilter) s)).run w = ((.ok r, o), w') ∧
      Reporting mode (r.usedFilter readFilter preferred, s.format) w o w' := by
  intro r
  have hnew := newReporter_ok h w
  have htells := tells_told readFilter mode
  cases mode with
  | check =>
    refine ⟨_, _, htells.add_check rfl rfl hnew, htells, ?_, rfl, rfl, World.onlyLogged_told _ _,
      fun h => by cases h⟩
    exact Orchestrator.hookless_of_nil rfl
  | run =>
    obtain ⟨u, hstart, hu, hopen⟩ :=
      Reporter.start_run readFilter preferred r (World.told (.initialized "reporter") w)
    have hbuilt : w.OnlyLogged u := (World.onlyLogged_told _ w).trans hu
    have hhook := htells.startHook_ok (d := reporter (Host.ofWorld readFilter) preferred) rfl hstart
    refine ⟨_, _, htells.add_ok rfl rfl hnew hhook, htells, ?_, rfl, rfl,
      hbuilt.trans (World.onlyLogged_told _ _), fun _ => ?_⟩
    · simp [Orchestrator.Hookless, Orchestrator.new, reporter]
    · rw [World.openLog_told, hopen, World.openLog_told]

section

variable {host : Host (StateM World)} {o o' : Orchestrator (StateM World) Failure} {r : Reporter}
  {d : Daemon} {failure : AddError Failure} {w' w'' : World}

theorem runComponents_of_reporter_error
    (hreporter : ((Orchestrator.new mode (tell host)).add (reporter host preferred)
      (newReporter host s)).run w = ((.error failure, o), w')) (ho : o.Hookless) :
    (runComponents host preferred mode s).run w = (.error failure.failure, w') := by
  rw [runComponents, run_bind_of_run hreporter]
  exact run_bind_of_run (ho.drop w')

theorem runComponents_of_daemon_error
    (hreporter : ((Orchestrator.new mode (tell host)).add (reporter host preferred)
      (newReporter host s)).run w = ((.ok r, o), w'))
    (hdaemon : (o.add (daemon host) (newDaemon host s)).run w' = ((.error failure, o'), w''))
    (ho : o'.Hookless) :
    (runComponents host preferred mode s).run w = (.error failure.failure, w'') := by
  rw [runComponents, run_bind_of_run hreporter]
  dsimp only
  rw [run_bind_of_run hdaemon]
  exact run_bind_of_run (ho.drop w'')

theorem runComponents_of_checked
    (hreporter : ((Orchestrator.new .check (tell host)).add (reporter host preferred)
      (newReporter host s)).run w = ((.ok r, o), w'))
    (hdaemon : (o.add (daemon host) (newDaemon host s)).run w' = ((.ok d, o'), w''))
    (ho : o'.Hookless) : (runComponents host preferred .check s).run w = (.ok (), w'') := by
  rw [runComponents, run_bind_of_run hreporter]
  dsimp only
  rw [run_bind_of_run hdaemon]
  exact run_bind_of_run (ho.drop w'')

end

/-- Where a component cannot be constructed, the failure is returned and nothing but logging was
done. -/
theorem runComponents_unbuilt (mode : Mode) (preferred : Option String)
    (h : ¬(s.HasFilter readFilter ∧ s.HasPlace w.files)) :
    ∃ f w', (runComponents (Host.ofWorld readFilter) preferred mode s).run w = (.error f, w') ∧
      w.OnlyLogged w' := by
  by_cases hfilter : s.HasFilter readFilter
  · have hplace : ¬s.HasPlace w.files := fun hplace => h ⟨hfilter, hplace⟩
    obtain ⟨filter, hread⟩ := hfilter
    obtain ⟨o, w', hadd, ho⟩ := add_reporter mode preferred hread w
    rw [← ho.onlyLogged.files] at hplace
    obtain ⟨f, hnew⟩ := newDaemon_error readFilter hplace
    have hdaemon := Orchestrator.add_unbuilt (d := daemon (Host.ofWorld readFilter)) ho.unfailed
      hnew (ho.hookless.fail _ _)
    exact ⟨_, w', runComponents_of_daemon_error hadd hdaemon (Orchestrator.hookless_of_nil rfl),
      ho.onlyLogged⟩
  · obtain ⟨f, hnew⟩ := newReporter_error hfilter w
    have hempty : (Orchestrator.new mode (tell (Host.ofWorld readFilter))).Hookless :=
      Orchestrator.hookless_of_nil rfl
    exact ⟨_, w, runComponents_of_reporter_error
      (Orchestrator.add_unbuilt rfl hnew (hempty.fail _ _)) (Orchestrator.hookless_of_nil rfl),
      .refl w⟩

/-- In check mode the components are constructed, and that is all. -/
theorem runComponents_checked (preferred : Option String) (hfilter : s.HasFilter readFilter)
    (hplace : s.HasPlace w.files) :
    ∃ w', (runComponents (Host.ofWorld readFilter) preferred .check s).run w = (.ok (), w') ∧
      w.OnlyLogged w' := by
  obtain ⟨filter, hread⟩ := hfilter
  obtain ⟨o, w', hadd, ho⟩ := add_reporter .check preferred hread w
  rw [← ho.onlyLogged.files] at hplace
  have hdaemon := ho.tells.add_check (d := daemon (Host.ofWorld readFilter)) ho.unfailed ho.inMode
    (newDaemon_ok readFilter hplace)
  exact ⟨_, runComponents_of_checked hadd hdaemon ho.hookless,
    ho.onlyLogged.trans (World.onlyLogged_told _ w')⟩

end Serve

end

end LayeredConfig.Service
