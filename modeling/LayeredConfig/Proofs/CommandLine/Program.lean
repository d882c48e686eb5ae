import LayeredConfig.CommandLine.Program
import LayeredConfig.Proofs.Resolution.Listing
import LayeredConfig.Proofs.Service.Run
import LayeredConfig.Proofs.Service.Settings

namespace LayeredConfig

open Lifecycle

theorem Source.load_congr {source : Source} {reach reach' : Source.Reach}
    (htext : source.text reach = source.text reach') (hparse : reach.parse = reach'.parse) :
    source.load reach = source.load reach' := by
  cases source with
  | nothing => rfl
  | file path => simp only [load, Reach.document, htext, hparse]
  | remote address => simp only [load, Reach.document, htext, hparse]

namespace Service

variable {readFilter : Logging.FilterReader}

/-! ### Resolving in a world -/

def World.reach (files : Files.Tree) (client : Http.Client) : Source.Reach :=
  ⟨files.read, client, Source.Language.parse⟩

/-- What a service looks up for a source is what loading needs. -/
theorem Host.reach_run (readFilter : Logging.FilterReader) (source : Source) (w : World) :
    ∃ reach, ((Host.ofWorld readFilter).reach source).run w = (reach, w) ∧
      source.load reach = source.load (World.reach w.files w.client) := by
  cases source with
  | nothing => exact ⟨_, rfl, rfl⟩
  | file path =>
    refine ⟨⟨fun _ => w.files.read path, fun _ => none, Source.Language.parse⟩, rfl,
      Source.load_congr ?_ rfl⟩
    simp only [Source.text, Source.fileText, World.reach]
  | remote address =>
    refine ⟨⟨fun _ => .error .notFound, fun _ => w.client address, Source.Language.parse⟩, rfl,
      Source.load_congr ?_ rfl⟩
    simp only [Source.text, Source.answerText, World.reach]

/-- The resolution of the configuration with the files and the servers of a world. -/
def ServeOptions.resolution (options : ServeOptions) (files : Files.Tree) (client : Http.Client)
    (environment : List RawVariable) : Resolution :=
  (⟨options.config, options.dump⟩ : Request).resolve (World.reach files client) Settings.shape
    Serve.command environment Settings.default.toValue .unbounded

namespace ServeOptions

variable (options : ServeOptions) (files : Files.Tree) (client : Http.Client)
  (environment : List RawVariable)

theorem exists_settings : ∃ s : Settings,
    (options.resolution files client environment).value = s.toValue :=
  Settings.exists_toValue_resolve _ _ _ _ _

theorem bytes_resolution :
    let r := options.resolution files client environment
    r.sink.bytes = if options.dump ∧ r.error = none
      then ("---\n" ++ Yaml.write (Settings.shape.encode r.value) ++ "\n").toUTF8 else .empty := by
  unfold resolution Request.resolve
  exact Request.bytes_resolveWith_unbounded ⟨options.config, options.dump⟩ _ _ _ _ _

/-- The PID file and the level may be given by variables alone. -/
def pidFileEnvironment (level : String) : List RawVariable :=
  [.ofText ⟨"STRATUM_SERVE_DAEMON_PIDFILE", "/run/a.pid"⟩,
    .ofText ⟨"STRATUM_SERVE_REPORTING_LEVEL", level⟩]

theorem resolution_pidFile (check dump verbose : Bool) (level : String) :
    let r := (⟨none, check, dump, verbose⟩ : ServeOptions).resolution files client
      (pidFileEnvironment level)
    r.error = none ∧ r.value = Settings.toValue ⟨level, .text, some "/run/a.pid"⟩ := by
  let vs : List Variable := [⟨"STRATUM_SERVE_DAEMON_PIDFILE", "/run/a.pid"⟩,
    ⟨"STRATUM_SERVE_REPORTING_LEVEL", level⟩]
  have hvs : Variable.ofProcess (pidFileEnvironment level) = vs := by
    refine (Variable.ofProcess_map_ofText vs).trans ?_
    cbv
  have hload : (Source.ofText none).load (World.reach files client) = .ok (.mapping []) := by
    have hnothing : Source.ofText none = .nothing := by decide
    rw [hnothing]
    rfl
  have hdecode : Settings.shape.decode Settings.default.toValue (.mapping []) "" =
      .done Settings.default.toValue := rfl
  have happly : Override.applyAll Settings.shape Settings.default.toValue
      (Override.ofVariables ⟨overrideProgram, Serve.command⟩ vs) =
      .done (Settings.toValue ⟨level, .text, some "/run/a.pid"⟩) := by cbv
  unfold ServeOptions.resolution Request.resolve
  rw [hvs]
  exact Request.resolveWith_unbounded
    ((merge_decoded hload hdecode).trans (by rw [happly]; rfl))

end ServeOptions

namespace Serve

variable {options : ServeOptions} {environment : List RawVariable} {w : World}

def shown (options : ServeOptions) (environment : List RawVariable) (w : World) : World :=
  { w with
    printed := w.printed ++ (options.resolution w.files w.client environment).sink.bytes }

theorem run_eq (options : ServeOptions) (environment : List RawVariable) (w : World) :
    let r := options.resolution w.files w.client environment
    (run (Host.ofWorld readFilter) environment options).run w =
      StateT.run (match r.error with
        | some e => return .error e.failure
        | none => runComponents (Host.ofWorld readFilter)
            (RawVariable.lookup? environment Reporter.filterVariable)
            (if options.check then .check else .run)
            (effective options ((Settings.ofValue? r.value).getD .default)))
        (shown options environment w) := by
  intro r
  obtain ⟨reach, hreach, hload⟩ := Host.reach_run readFilter (.ofText options.config) w
  have hresolve : (⟨options.config, options.dump⟩ : Request).resolve reach Settings.shape command
      environment Settings.default.toValue .unbounded = r :=
    Request.resolve_congr hload fun _ _ _ _ => rfl
  have hprint : ((Host.ofWorld readFilter).print r.sink.bytes).run w =
      ((), shown options environment w) := rfl
  rw [run, run_bind_of_run hreach]
  dsimp only
  rw [hresolve]
  refine (run_bind_of_run hprint).trans ?_
  cases r.error <;> rfl

theorem run_of_error {e : ConfigError}
    (h : (options.resolution w.files w.client environment).error = some e) :
    (run (Host.ofWorld readFilter) environment options).run w =
      (.error e.failure, shown options environment w) := by
  rw [run_eq, h]
  rfl

theorem run_of_settings {s : Settings}
    (h : (options.resolution w.files w.client environment).error = none)
    (hs : (options.resolution w.files w.client environment).value = s.toValue) :
    (run (Host.ofWorld readFilter) environment options).run w =
      (runComponents (Host.ofWorld readFilter)
        (RawVariable.lookup? environment Reporter.filterVariable)
        (if options.check then .check else .run) (effective options s)).run
        (shown options environment w) := by
  rw [run_eq, h, hs, Settings.ofValue?_toValue]
  rfl

@[simp] theorem effective_pidFile (options : ServeOptions) (s : Settings) :
    (effective options s).pidFile = s.pidFile := by
  unfold effective
  split <;> rfl

theorem effective_level (options : ServeOptions) (s : Settings) :
    (effective options s).level = if options.verbose then "debug" else s.level := by
  unfold effective
  split <;> rfl

theorem effective_hasPlace_iff {s : Settings} {files : Files.Tree} :
    (effective options s).HasPlace files ↔ s.HasPlace files := by
  unfold Settings.HasPlace
  rw [effective_pidFile]

/-- What is validated: the configuration is resolved to these settings, the level that counts is a
filter, and the PID file has a place. -/
structure Valid (readFilter : Logging.FilterReader) (options : ServeOptions)
    (environment : List RawVariable) (files : Files.Tree) (client : Http.Client) (s : Settings) :
    Prop where
  resolved : (options.resolution files client environment).error = none
  hasFilter : (effective options s).HasFilter readFilter
  hasPlace : s.HasPlace files

theorem valid_iff {files : Files.Tree} {client : Http.Client} {s : Settings} :
    Valid readFilter options environment files client s ↔
      (options.resolution files client environment).error = none ∧
        (∃ filter, readFilter (if options.verbose then "debug" else s.level) = .ok filter) ∧
        s.HasPlace files := by
  rw [← effective_level]
  exact ⟨fun h => ⟨h.resolved, h.hasFilter, h.hasPlace⟩, fun h => ⟨h.1, h.2.1, h.2.2⟩⟩

/-- Where something is not valid the failure is returned. The configuration was shown, and nothing
but logging was done. -/
theorem run_invalid {s : Settings}
    (hs : (options.resolution w.files w.client environment).value = s.toValue)
    (h : ¬Valid readFilter options environment w.files w.client s) :
    ∃ f w', (run (Host.ofWorld readFilter) environment options).run w = (.error f, w') ∧
      (shown options environment w).OnlyLogged w' := by
  cases herror : (options.resolution w.files w.client environment).error with
  | some e => exact ⟨_, _, run_of_error herror, .refl _⟩
  | none =>
    rw [run_of_settings herror hs]
    refine runComponents_unbuilt _ _ fun ⟨hfilter, hplace⟩ => h ⟨herror, hfilter, ?_⟩
    exact effective_hasPlace_iff.1 hplace

end Serve

end Service

namespace CommandLine

open Service

variable {arguments : List String} {options : ServeOptions} {environment : List RawVariable}
  {w w' : World}

theorem runProgram_of_ok (hread : readArguments arguments = .ok options)
    (h : (Serve.run (Host.ofWorld readFilter) environment options).run w = (.ok (), w')) :
    (runProgram (Host.ofWorld readFilter) environment arguments).run w = (.success, w') := by
  rw [runProgram, hread]
  exact run_bind_of_run h

theorem runProgram_of_error {f : Failure} (hread : readArguments arguments = .ok options)
    (h : (Serve.run (Host.ofWorld readFilter) environment options).run w = (.error f, w')) :
    (runProgram (Host.ofWorld readFilter) environment arguments).run w = (.ofFailure f, w') := by
  rw [runProgram, hread]
  exact run_bind_of_run h

end CommandLine

end LayeredConfig
