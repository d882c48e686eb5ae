import LayeredConfig.Resolution.Error
import LayeredConfig.Resolution.Sink
import LayeredConfig.Schema.Encode
import LayeredConfig.Yaml.Writer

namespace LayeredConfig

def overrideProgram : String := "STRATUM"

/-- Where a configuration comes from, and whether it is shown once resolved. -/
structure Request where
  source : Option String
  dump : Bool

structure Resolution where
  value : Schema.Value
  error : Option ConfigError
  sink : Sink

def dumpText (shape : Schema.Shape) (value : Schema.Value) : String :=
  Yaml.write (shape.encode value)

/-- The pieces of a dump: a header, the text, and an empty line. -/
def dumpPieces (shape : Schema.Shape) (value : Schema.Value) : List String :=
  ["---\n", dumpText shape value, "\n"]

def merge (reach : Source.Reach) (shape : Schema.Shape) (source : Source)
    (overrides : List Override) (value : Schema.Value) : Outcome ConfigError Schema.Value :=
  match source.load reach with
  | .error e => .failed value (.load e)
  | .ok document =>
    ((shape.decode value document "").mapError .decode).andThen fun value =>
      (Override.applyAll shape value overrides).mapError .override

namespace Request

def resolveWith (request : Request) (reach : Source.Reach) (shape : Schema.Shape)
    (command : String) (vs : List Variable) (value : Schema.Value) (sink : Sink) :
    Resolution :=
  let overrides := Override.ofVariables ⟨overrideProgram, command⟩ vs
  match merge reach shape (.ofText request.source) overrides value with
  | ⟨value, some e⟩ => ⟨value, some e, sink⟩
  | ⟨value, none⟩ =>
    if request.dump then
      match sink.writeAll (dumpPieces shape value) with
      | (true, sink) => ⟨value, none, sink⟩
      | (false, sink) => ⟨value, some (.output (.other "output refused")), sink⟩
    else ⟨value, none, sink⟩

def resolve (request : Request) (reach : Source.Reach) (shape : Schema.Shape) (command : String)
    (environment : List RawVariable) (value : Schema.Value) (sink : Sink) :
    Resolution :=
  request.resolveWith reach shape command (Variable.ofProcess environment) value sink

end Request

end LayeredConfig
