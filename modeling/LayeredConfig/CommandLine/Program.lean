import LayeredConfig.CommandLine.Arguments

namespace LayeredConfig.CommandLine

open Service

/-- How the program ends: its exit code, and what it says on standard error. -/
structure Ending where
  code : UInt32
  complaint : Option String
  deriving DecidableEq, Repr

namespace Ending

def success : Ending := ⟨0, none⟩

def ofFailure (f : Failure) : Ending := ⟨1, some f.report⟩

def ofUsage (e : UsageError) : Ending := ⟨2, some e.message⟩

end Ending

def runProgram {m : Type → Type} [Monad m] (host : Host m) (environment : List RawVariable)
    (arguments : List String) : m Ending := do
  match readArguments arguments with
  | .error (.usage e) => return .ofUsage e
  | .error (.help topic) =>
    host.print topic.helpText.toUTF8
    return .success
  | .error (.version topic) =>
    host.print topic.versionText.toUTF8
    return .success
  | .ok options =>
    match ← Serve.run host environment options with
    | .ok () => return .success
    | .error f => return .ofFailure f

end LayeredConfig.CommandLine
