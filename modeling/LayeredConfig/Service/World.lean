import LayeredConfig.Service.Host

namespace LayeredConfig.Service

structure World where
  files : Files.Tree
  client : Http.Client
  processId : Nat
  printed : ByteArray
  /-- The filter and format of the log once it is open. -/
  openLog : Option (Logging.Filter × LogFormat)
  lines : List (LogFormat × Logging.Line)
  /-- What others do to the files before they ask for termination. -/
  meanwhile : Files.Tree → Files.Tree
  /-- The files at the time the service began to wait. -/
  waiting : Option Files.Tree

namespace World

def start (files : Files.Tree) (client : Http.Client) (processId : Nat)
    (meanwhile : Files.Tree → Files.Tree) : World :=
  ⟨files, client, processId, .empty, none, [], meanwhile, none⟩

def change (f : Files.Tree → Except Files.Error Files.Tree) :
    StateM World (Except Files.Error Unit) := fun w =>
  match f w.files with
  | .ok files => (.ok (), { w with files })
  | .error e => (.error e, w)

def log (line : Logging.Line) (w : World) : World :=
  match w.openLog with
  | some (filter, format) =>
    if filter.admits line then { w with lines := w.lines ++ [(format, line)] } else w
  | none => w

def await (w : World) : World := { w with waiting := some w.files, files := w.meanwhile w.files }

end World

def Host.ofWorld (readFilter : Logging.FilterReader) : Host (StateM World) where
  readFile path := fun w => (w.files.read path, w)
  writeFile path text := World.change (·.write path text.toUTF8)
  removeFile path := World.change (·.remove path)
  isDirectory path := fun w => (w.files.isDirectory path, w)
  request address := fun w => (w.client address, w)
  processId := fun w => (w.processId, w)
  readFilter
  print bytes := modify fun w => { w with printed := w.printed ++ bytes }
  openLog filter format := fun w =>
    match w.openLog with
    | none => (true, { w with openLog := some (filter, format) })
    | some _ => (false, w)
  log line := modify (World.log line)
  watchSignals := pure ()
  awaitTermination := modify World.await

end LayeredConfig.Service
