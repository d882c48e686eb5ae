import LayeredConfig.Files.Tree
import LayeredConfig.Http.Answer
import LayeredConfig.Logging.Filter
import LayeredConfig.Logging.Format
import LayeredConfig.Source.Loader

/-!
What a service does to the world around it, as operations in some monad. The same service then runs
for real and on a world that is a value.
-/

namespace LayeredConfig.Service

structure Host (m : Type → Type) where
  readFile : String → m (Except Files.Error ByteArray)
  writeFile : String → String → m (Except Files.Error Unit)
  removeFile : String → m (Except Files.Error Unit)
  isDirectory : String → m Bool
  request : String → m (Option Http.Answer)
  processId : m Nat
  readFilter : Logging.FilterReader
  print : ByteArray → m Unit
  /-- From now on log lines that pass the filter are written. A log that is open stays as it is, and
  the answer is false. -/
  openLog : Logging.Filter → LogFormat → m Bool
  log : Logging.Line → m Unit
  /-- From now on a termination request is kept for `awaitTermination`. -/
  watchSignals : m Unit
  awaitTermination : m Unit

namespace Host

variable {m : Type → Type} [Monad m]

/-- Looks up the one thing that loading a source needs. -/
def reach (host : Host m) : Source → m Source.Reach
  | .nothing => return ⟨fun _ => .error .notFound, fun _ => none, Source.Language.parse⟩
  | .file path => do
    let content ← host.readFile path
    return ⟨fun _ => content, fun _ => none, Source.Language.parse⟩
  | .remote address => do
    let answer ← host.request address
    return ⟨fun _ => .error .notFound, fun _ => answer, Source.Language.parse⟩

end Host

end LayeredConfig.Service
