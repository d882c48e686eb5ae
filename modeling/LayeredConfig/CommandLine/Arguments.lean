import LayeredConfig.CommandLine.Usage

namespace LayeredConfig.CommandLine

open Service (ServeOptions)

inductive Stop where
  | usage (error : UsageError)
  | help (topic : Topic)
  | version (topic : Topic)
  deriving DecidableEq, Repr

structure Taken where
  flags : List Switch
  config : Option String
  /-- A `config` switch that waits for its value, or has one that is not entered yet. -/
  pending : Option (Option String)

namespace Taken

def empty : Taken := ⟨[], none, none⟩

def awaitsValue (t : Taken) : Bool := t.pending = some none

def enterConfig (t : Taken) (value : String) : Except Stop Taken :=
  if t.config.isSome then .error (.usage (.repeated .config))
  else .ok { t with config := some value }

def settle (t : Taken) : Except Stop Taken :=
  match t.pending with
  | none => .ok t
  | some none => .error (.usage (.valueRequired .config))
  | some (some value) => { t with pending := none }.enterConfig value

def takeFlag (topic : Topic) (t : Taken) (s : Switch) : Except Stop Taken := do
  let t ← t.settle
  match s with
  | .help => .error (.help topic)
  | .version => .error (.version topic)
  | s =>
    if s ∈ t.flags then .error (.usage (.repeated s)) else return { t with flags := s :: t.flags }

def takeConfig (t : Taken) (attached : Option String) : Except Stop Taken := do
  let t ← t.settle
  match attached with
  | some value => t.enterConfig value
  | none => return { t with pending := some none }

def takeLong (topic : Topic) (t : Taken) (name : String) (attached : Option String) :
    Except Stop Taken :=
  match topic.ofName? name, attached with
  | none, _ => .error (.usage (.unexpected ("--" ++ name)))
  | some .config, attached => t.takeConfig attached
  | some s, some value => .error (.usage (.unexpectedValue value s))
  | some s, none => t.takeFlag topic s

/-- Takes letters that follow one dash. What follows a letter that looks for a value is its value,
with or without an equals sign. -/
def takeLetters (topic : Topic) (t : Taken) : List Char → Except Stop Taken
  | [] => .ok t
  | c :: cs =>
    match topic.ofLetter? c with
    | none => .error (.usage (.unexpected (String.ofList ['-', c])))
    | some .config =>
      t.takeConfig (match cs with
        | [] => none
        | '=' :: cs => some (String.ofList cs)
        | cs => some (String.ofList cs))
    | some s => do takeLetters topic (← t.takeFlag topic s) cs

end Taken

inductive Form where
  | escape
  | long (name : String) (attached : Option String)
  | letters (cs : List Char)
  | word
  deriving DecidableEq, Repr

def Form.of (argument : String) : Form :=
  match argument.toList with
  | ['-', '-'] => .escape
  | '-' :: '-' :: cs =>
    match cs.span (· ≠ '=') with
    | (name, '=' :: value) => .long (String.ofList name) (some (String.ofList value))
    | (name, _) => .long (String.ofList name) none
  | '-' :: c :: cs => .letters (c :: cs)
  | _ => .word

def strayWord (topic : Topic) (escaped : Bool) (word : String) : UsageError :=
  if topic.commands.isEmpty ∨ (escaped ∧ (topic.command? word).isSome) then .unexpected word
  else .unknownCommand word

/-- Takes arguments up to a command. After an escape every argument is a word. -/
def takeArguments (topic : Topic) (escaped : Bool) (t : Taken) :
    List String → Except Stop (Taken × Option (Topic × List String))
  | [] => return (← t.settle, none)
  | argument :: rest =>
    if escaped then .error (.usage (strayWord topic true argument))
    else match if t.awaitsValue then none else topic.command? argument with
    | some command => return (t, some (command, rest))
    | none => match Form.of argument with
      | .escape => takeArguments topic true t rest
      | .long name attached => do
        takeArguments topic false (← t.takeLong topic name attached) rest
      | .letters cs => do takeArguments topic false (← t.takeLetters topic cs) rest
      | .word =>
        if t.awaitsValue then
          takeArguments topic false { t with pending := some (some argument) } rest
        else .error (.usage (strayWord topic false argument))

def helpTopic (topic : Topic) : List String → Except Stop Topic
  | [] => .ok topic
  | word :: words => match topic.command? word with
    | some command => helpTopic command words
    | none => .error (.usage (.unknownCommand word))

def readArguments (arguments : List String) : Except Stop ServeOptions := do
  let (outer, command) ← takeArguments .program false .empty arguments
  match command with
  | none => .error (.usage (if outer.flags.isEmpty then .nothingGiven else .missingCommand))
  | some (.serve, rest) =>
    let (inner, _) ← takeArguments .serve false .empty rest
    let given (s : Switch) : Bool := s ∈ inner.flags
    return ⟨inner.config, given .check, given .dump, given .verbose || .verbose ∈ outer.flags⟩
  | some (_, rest) => .error (.help (← helpTopic .program rest))

end LayeredConfig.CommandLine
