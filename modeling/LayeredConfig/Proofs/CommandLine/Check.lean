import LayeredConfig.Logging.Directive
import LayeredConfig.Proofs.CommandLine.Program

namespace LayeredConfig.CommandLine

open Service

variable {readFilter : Logging.FilterReader} {arguments : List String} {options : ServeOptions}
  {environment : List RawVariable} {w : World} {s : Settings}

theorem run_checked (hcheck : options.check = true)
    (hs : (options.resolution w.files w.client environment).value = s.toValue)
    (h : Serve.Valid readFilter options environment w.files w.client s) :
    ∃ w', (Serve.run (Host.ofWorld readFilter) environment options).run w = (.ok (), w') ∧
      (Serve.shown options environment w).OnlyLogged w' := by
  rw [Serve.run_of_settings h.resolved hs, if_pos hcheck]
  exact Serve.runComponents_checked _ h.hasFilter (Serve.effective_hasPlace_iff.2 h.hasPlace)

/-- In check mode the exit code is the verdict. The configuration is shown, and nothing but logging
is done. -/
theorem runProgram_checked (hread : readArguments arguments = .ok options)
    (hcheck : options.check = true)
    (hs : (options.resolution w.files w.client environment).value = s.toValue) :
    ∃ ending w', (runProgram (Host.ofWorld readFilter) environment arguments).run w = (ending, w') ∧
      (Serve.shown options environment w).OnlyLogged w' ∧
      (Serve.Valid readFilter options environment w.files w.client s → ending.code = 0) ∧
      (¬Serve.Valid readFilter options environment w.files w.client s → ending.code = 1) := by
  by_cases h : Serve.Valid readFilter options environment w.files w.client s
  · obtain ⟨w', hrun, hw'⟩ := run_checked hcheck hs h
    exact ⟨_, w', runProgram_of_ok hread hrun, hw', fun _ => rfl, fun hno => absurd h hno⟩
  · obtain ⟨f, w', hrun, hw'⟩ := Serve.run_invalid hs h
    exact ⟨_, w', runProgram_of_error hread hrun, hw', fun hyes => absurd hyes h, fun _ => rfl⟩

/-- Serving in check mode leaves the files as they were and never waits. It ends with 0 if the
configuration is resolved, the level that counts is a filter, and the PID file needs no directory or
its directory is there, and with 1 if not. A configuration that is resolved is shown if asked,
whatever the verdict; nothing else is printed, and being verbose changes nothing in that. -/
theorem check_only_validates (hread : readArguments arguments = .ok options)
    (hcheck : options.check = true) (readFilter : Logging.FilterReader)
    (environment : List RawVariable) (files : Files.Tree) (client : Http.Client) (processId : ℕ)
    (meanwhile : Files.Tree → Files.Tree) :
    let start := World.start files client processId meanwhile
    let resolution := options.resolution files client environment
    let last := (runProgram (Host.ofWorld readFilter) environment arguments).run start
    last.2.files = files ∧ last.2.waiting = none ∧
    (∃ settings : Settings, resolution.value = settings.toValue ∧
      let level := if options.verbose then "debug" else settings.level
      let valid := resolution.error = none ∧ (∃ filter, readFilter level = .ok filter) ∧
        settings.HasPlace files
      (valid → last.1.code = 0) ∧ (¬valid → last.1.code = 1)) ∧
    last.2.printed = (if options.dump ∧ resolution.error = none
      then ("---\n" ++ Yaml.write (Settings.shape.encode resolution.value) ++ "\n").toUTF8
      else .empty) ∧
    ∀ arguments' verbose, readArguments arguments' = .ok { options with verbose } →
      ((runProgram (Host.ofWorld readFilter) environment arguments').run start).2.printed =
        last.2.printed := by
  intro start resolution last
  obtain ⟨s, hs⟩ := options.exists_settings files client environment
  have hprinted {arguments' : List String} {verbose : Bool}
      (h : readArguments arguments' = .ok { options with verbose }) :
      ((runProgram (Host.ofWorld readFilter) environment arguments').run start).2.printed =
        resolution.sink.bytes := by
    obtain ⟨ending, w', hrun, hw', -⟩ := runProgram_checked (w := start) h hcheck hs
    rw [hrun]
    exact hw'.printed.trans ByteArray.empty_append
  obtain ⟨ending, w', hrun, hw', hvalid, hinvalid⟩ :=
    runProgram_checked (w := start) hread hcheck hs
  rw [Serve.valid_iff] at hvalid hinvalid
  have hlast : last = (ending, w') := hrun
  refine ⟨?_, ?_, ⟨s, hs, ?_⟩, ?_, ?_⟩
  · rw [hlast]
    exact hw'.files
  · rw [hlast]
    exact hw'.waiting
  · rw [hlast]
    exact ⟨hvalid, hinvalid⟩
  · exact (hprinted hread).trans (options.bytes_resolution files client environment)
  · intro arguments' verbose h
    exact (hprinted h).trans (hprinted hread).symm

/-- The directory of the PID file is not there. The configuration is shown before that is found. -/
theorem check_only_validates_misplaced :
    let files := Files.Tree.empty ["tmp"]
    let environment := ServeOptions.pidFileEnvironment "warn"
    let host := Host.ofWorld (Logging.Filter.reader Logging.Directive.literal)
    let last := (runProgram host environment ["-v", "serve", "-CD"]).run
      (World.start files (fun _ => none) 7 id)
    last.2.files = files ∧ last.1.code = 1 ∧
      last.2.printed = ("---\n" ++ Yaml.write (Settings.shape.encode
        (Settings.toValue ⟨"warn", .text, some "/run/a.pid"⟩)) ++ "\n").toUTF8 := by
  intro files environment host last
  have hread : readArguments ["-v", "serve", "-CD"] = .ok ⟨none, true, true, true⟩ := by decide
  obtain ⟨herror, hvalue⟩ :=
    ServeOptions.resolution_pidFile files (fun _ => none) true true true "warn"
  obtain ⟨hfiles, -, ⟨s, hs, -, hinvalid⟩, hprinted, -⟩ :=
    check_only_validates hread rfl (Logging.Filter.reader Logging.Directive.literal) environment
      files (fun _ => none) 7 id
  obtain rfl : s = ⟨"warn", .text, some "/run/a.pid"⟩ :=
    Settings.toValue_inj.1 (hs.symm.trans hvalue)
  have hplace : ¬Settings.HasPlace ⟨"warn", .text, some "/run/a.pid"⟩ files := by
    rw [Settings.hasPlace_iff]
    intro h
    exact absurd (h "/run" (by decide) (by decide)) (by decide)
  refine ⟨hfiles, hinvalid fun h => hplace h.2.2, ?_⟩
  rw [hvalue, if_pos ⟨rfl, herror⟩] at hprinted
  exact hprinted

end LayeredConfig.CommandLine
