import LayeredConfig.Schema.Shape

namespace LayeredConfig.Service

open Schema

structure Settings where
  level : String
  format : LogFormat
  pidFile : Option String
  deriving DecidableEq, Repr

namespace Settings

def default : Settings := ⟨"info", .text, none⟩

def reportingFields : Fields :=
  .plain "level" (.leaf .string) (.scalar (.text default.level)) <|
  .plain "format" (.leaf .logFormat) (.scalar (.logFormat default.format)) .nil

def daemonFields : Fields := .plain "pid_file" (.option (.leaf .path)) .unset .nil

def fields : Fields :=
  .plain "reporting" (.record reportingFields) (Shape.record reportingFields).start <|
  .plain "daemon" (.record daemonFields) (Shape.record daemonFields).start .nil

def shape : Shape := .record fields

def toValue (s : Settings) : Value :=
  .record [
    .record [.scalar (.text s.level), .scalar (.logFormat s.format)],
    .record [match s.pidFile with
      | none => .unset
      | some path => .set (.scalar (.path path.toUTF8))]]

/-- The settings that a value of the type holds whose path is text. -/
def ofValue? : Value → Option Settings
  | .record [.record [.scalar (.text level), .scalar (.logFormat format)], .record [.unset]] =>
    some ⟨level, format, none⟩
  | .record [.record [.scalar (.text level), .scalar (.logFormat format)],
      .record [.set (.scalar (.path bytes))]] =>
    (Text.decode? bytes).map fun path => ⟨level, format, some path⟩
  | _ => none

theorem start_shape : shape.start = default.toValue := rfl

end Settings

end LayeredConfig.Service
