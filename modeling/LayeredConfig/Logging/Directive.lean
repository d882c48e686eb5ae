import LayeredConfig.Logging.Filter
import LayeredConfig.Text.Blank
import LayeredConfig.Text.Letter

namespace LayeredConfig.Logging

inductive DirectiveError where
  | form
  | level
  | field (reason : String)
  deriving DecidableEq, Repr

namespace DirectiveError

def message : DirectiveError → String
  | form => "invalid filter directive"
  | level => "error parsing level filter: expected one of \"off\", \"error\", \"warn\", " ++
      "\"info\", \"debug\", \"trace\", or a number 0-5"
  | field reason => "invalid field filter: " ++ reason

def messages (e : DirectiveError) : List String :=
  match e with
  | form => [e.message]
  | level => [e.message, e.message]
  | field reason => [e.message, reason]

end DirectiveError

/-- What is wanted of the parts of the program whose names start with the target. -/
structure Directive where
  target : Option String
  /-- The directive is for what happens inside some spans, and no line is written there. -/
  inSpan : Bool
  /-- The field that a line must have. -/
  field : Option String
  threshold : Threshold
  deriving DecidableEq, Repr

namespace Directive

def isStart (c : Char) : Bool := c = '-' || c = ':' || c = '_' || Text.isLetterOrNumber c

/-- What the pattern of a field's value may be; there is a reason why another text is none. -/
abbrev PatternCheck := String → Except String Unit

/-- What stands between the brackets of a span: whether lines are excluded, and a field. -/
structure SpanText where
  excludesLines : Bool
  field : Option String

section

variable (pattern : PatternCheck)

/-- The name of a field, and whether a value is wanted of it. Booleans and numbers are values, and
other texts are patterns. -/
def readField (cs : List Char) : Except DirectiveError (String × Bool) :=
  match (Text.pieces '=' cs).map String.ofList with
  | name :: value :: _ =>
    if value = "true" ∨ value = "false" ∨ (Decimal.float? value).isSome then .ok (name, true)
    else match pattern value with
      | .ok () => .ok (name, true)
      | .error reason => .error (.field reason)
  | names => .ok (names.headD "", false)

def readSpan (cs : List Char) : Except DirectiveError (SpanText × List Char) :=
  let (name, rest) := cs.span fun c => c ≠ ']' ∧ c ≠ '\x7b'
  match rest with
  | ']' :: rest => .ok (⟨true, none⟩, rest)
  | '\x7b' :: rest =>
    match rest.span (· ≠ '\x7d') with
    | ([], '\x7d' :: _) => .error .form
    | (field, '\x7d' :: rest) =>
      match readField pattern field, rest with
      | .error e, _ => .error e
      | .ok (field, hasValue), ']' :: rest => .ok (⟨hasValue || !name.isEmpty, some field⟩, rest)
      | .ok _, _ => .error .form
    | _ => .error .form
  | _ => .error .form

def readLevel (cs : List Char) : Except DirectiveError Threshold :=
  if cs = [] then .ok (some .trace)
  else match Threshold.read? cs with
    | some t => .ok t
    | none => .error .level

/-- Reads the rest of a directive that speaks of a span; `written` is the whole directive and
`trimmed` its length without blanks. -/
def readRest (written : List Char) (trimmed : Nat) (target : Option String) (rest : List Char) :
    Except DirectiveError Directive := do
  match ← readSpan pattern rest with
  | (span, []) => return ⟨target, span.excludesLines, span.field, some .trace⟩
  | (span, '=' :: after) =>
    let threshold ← readLevel (written.drop (trimmed - after.length))
    return ⟨target, span.excludesLines, span.field, threshold⟩
  | _ => .error .form

/-- Reads a directive. Where its parts end is found without the blanks around it, and the parts are
then cut from the directive as written. -/
def read (written : List Char) : Except DirectiveError Directive :=
  match Text.trimChars written with
  | [] => .error .form
  | '[' :: rest => readRest pattern written (rest.length + 1) none rest
  | c :: cs =>
    if !isStart c then .error .form
    else
      let (name, rest) := (c :: cs).span fun c => c ≠ '=' ∧ c ≠ '['
      let target := some (String.ofList (written.take name.length))
      match rest with
      | [] => match Threshold.read? written with
        | some t => .ok ⟨none, false, none, t⟩
        | none => .ok ⟨some (String.ofList written), false, none, some .trace⟩
      | '=' :: _ => (readLevel (written.drop (name.length + 1))).map (⟨target, false, none, ·⟩)
      | _ :: rest => readRest pattern written (cs.length + 1) target rest

end

/-- The directive speaks of the lines of a part of the program. The one field of a line is its
message. -/
def concerns (d : Directive) (target : String) : Bool :=
  !d.inSpan && d.field.all (· = "message") && (d.target.getD "").toList.isPrefixOf target.toList

/-- A longer target is more specific, no target is the least so, and a field counts among equals. -/
def specificity (d : Directive) : Nat :=
  2 * (d.target.map fun t => t.utf8ByteSize + 1).getD 0 + if d.field.isSome then 1 else 0

def decisive (d e : Directive) : Directive := if e.specificity < d.specificity then d else e

def wanted (directives : List Directive) (target : String) : Threshold :=
  if directives.isEmpty then some .error
  else match directives.filter (·.concerns target) with
    | [] => none
    | d :: ds => (ds.foldl decisive d).threshold

end Directive

def Filter.ofDirectives (directives : List Directive) : Filter where
  admits line := (Directive.wanted directives line.target).admits line.level

def Filter.reader (pattern : Directive.PatternCheck) : FilterReader := fun text =>
  match ((Text.pieces ',' text.toList).filter (!·.isEmpty)).mapM (Directive.read pattern) with
  | .ok directives => .ok (.ofDirectives directives)
  | .error e => .error e.messages

def Directive.metacharacters : List Char := "\\.+*?()|[]\x7b\x7d^$".toList

def Directive.literal : PatternCheck := fun text =>
  if text.toList.any (metacharacters.contains ·) then .error "patterns are not supported"
  else .ok ()

end LayeredConfig.Logging
