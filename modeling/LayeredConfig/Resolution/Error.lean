import LayeredConfig.Environment.Override
import LayeredConfig.Source.Loader

namespace LayeredConfig

inductive ErrorKind where
  | sourceUnreachable
  | malformedDocument
  | unknownKey
  | typeCoercion
  | dump
  deriving DecidableEq, Repr

def Schema.DecodeError.kind : Schema.DecodeError → ErrorKind
  | .unknownKey _ => .unknownKey
  | .coercion _ _ => .typeCoercion

inductive ConfigError where
  | load (error : Source.LoadError)
  | decode (error : Schema.DecodeError)
  | override (error : Override.Error)
  /-- The dump could not be written. -/
  | output (error : Files.Error)

namespace ConfigError

/-- An override has the kind of what is wrong with it. -/
def kind : ConfigError → ErrorKind
  | load (.unreachable _ _) => .sourceUnreachable
  | load (.malformed _ _) => .malformedDocument
  | decode e => e.kind
  | override e => e.reason.kind
  | output _ => .dump

def failure : ConfigError → Failure
  | load (.unreachable location reason) =>
    ⟨.words ("unable to read configuration from " ++ location), [reason.cause]⟩
  | load (.malformed location reason) =>
    ⟨.words ("unable to parse configuration document from " ++ location), [reason.cause]⟩
  | decode e => .plain e.message
  | override e =>
    ⟨.words ("unable to parse override " ++ Text.quoted e.name), [.words e.reason.message]⟩
  | output e => ⟨.words "unable to write configuration dump", [.system e]⟩

end ConfigError

end LayeredConfig
