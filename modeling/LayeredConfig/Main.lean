import LayeredConfig.CommandLine.Program
import LayeredConfig.Logging.Directive
import LayeredConfig.Logging.Render
import Std.Async.Signal

namespace LayeredConfig

open Service

def Files.Error.ofRefusal : IO.Error → Files.Error
  | .noFileOrDirectory .. => .notFound
  | .inappropriateType _ code _ => if code = 21 then .isADirectory else .notADirectory
  | error => .other (toString error)

def attempt {α : Type} (action : IO α) : IO (Except Files.Error α) :=
  try return .ok (← action) catch error => return .error (.ofRefusal error)

structure Machine where
  log : IO.Ref (Option (Logging.Filter × LogFormat))
  signals : IO.Ref (List (Task (Except IO.Error Int)))

namespace Machine

def new : IO Machine := return ⟨← IO.mkRef none, ← IO.mkRef []⟩

def processId : IO Nat := do
  let status ← IO.FS.readFile "/proc/self/stat"
  return (Decimal.natural? 10 (status.toList.takeWhile Char.isDigit)).getD 0

def writeLine (machine : Machine) (line : Logging.Line) : IO Unit := do
  match ← machine.log.get with
  | some (filter, format) => if filter.admits line then IO.eprintln (line.render format)
  | none => return ()

/-- Keeps the first termination request of either signal. -/
def watchSignals (machine : Machine) : IO Unit := do
  let interrupt ← Std.Async.Signal.Waiter.mk .sigint true
  let terminate ← Std.Async.Signal.Waiter.mk .sigterm true
  machine.signals.set [← interrupt.wait, ← terminate.wait]

def awaitTermination (machine : Machine) : IO Unit := do
  match ← machine.signals.get with
  | [] => return ()
  | task :: tasks =>
    let _ ← IO.waitAny (task :: tasks) (by simp)

def host (machine : Machine) : Host IO where
  readFile path := attempt (IO.FS.readBinFile path)
  writeFile path text := attempt (IO.FS.writeFile path text)
  removeFile path := attempt (IO.FS.removeFile path)
  isDirectory path := do
    match ← attempt (IO.FS.readBinFile path) with
    | .error .isADirectory => return true
    | _ => return false
  request _ := return none
  processId := processId
  readFilter := Logging.Filter.reader Logging.Directive.literal
  print bytes := do
    let out ← IO.getStdout
    out.write bytes
    out.flush
  openLog filter format := machine.log.modifyGet fun log =>
    (log.isNone, log.or (some (filter, format)))
  log := machine.writeLine
  watchSignals := machine.watchSignals
  awaitTermination := machine.awaitTermination

end Machine

end LayeredConfig

open LayeredConfig in
def main (arguments : List String) : IO UInt32 := do
  let machine ← Machine.new
  let environment := RawVariable.ofBlock (← IO.FS.readBinFile "/proc/self/environ")
  let ending ← CommandLine.runProgram machine.host environment arguments
  match ending.complaint with
  | some text => IO.eprintln text
  | none => pure ()
  return ending.code
