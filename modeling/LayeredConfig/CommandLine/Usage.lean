import LayeredConfig.CommandLine.Switch
import LayeredConfig.Service.Serve

namespace LayeredConfig.CommandLine

open Service (programName programVersion)

namespace Topic

def about : Topic → String
  | program => "Layered configuration resolution and ordered component lifecycle for " ++
      "multi-component services"
  | serve => "Start stratum and run until terminated"
  | help => "Print this message or the help of the given subcommand(s)"

def usage : Topic → String
  | program => "[OPTIONS] <COMMAND>"
  | serve => "serve [OPTIONS]"
  | help => "help [COMMAND]..."

def rowsText (title : String) (rows : List (String × String)) : String :=
  if rows.isEmpty then ""
  else
    let width := (rows.map (·.1.length)).foldl max 0
    let line (row : String × String) :=
      "  " ++ row.1 ++ String.ofList (List.replicate (width - row.1.length + 2) ' ') ++ row.2 ++
        "\n"
    "\n" ++ title ++ ":\n" ++ String.join (rows.map line)

def switchRow (s : Switch) : String × String :=
  (String.ofList ['-', s.letter] ++ ", " ++ s.shown, s.about)

def argumentRows : Topic → List (String × String)
  | help => [("[COMMAND]...", "Print help for the subcommand(s)")]
  | _ => []

def helpText (t : Topic) : String :=
  t.about ++ "\n\nUsage: " ++ programName ++ " " ++ t.usage ++ "\n" ++
    rowsText "Commands" (t.commands.map fun c => (c.word, c.about)) ++
    rowsText "Arguments" t.argumentRows ++
    rowsText "Options" (t.switches.map switchRow)

def versionText (t : Topic) : String :=
  (match t with
    | program => programName
    | t => programName ++ "-" ++ t.word) ++ " " ++ programVersion ++ "\n"

end Topic

inductive UsageError where
  /-- There is nothing but the program's name. -/
  | nothingGiven
  | missingCommand
  | unknownCommand (word : String)
  | unexpected (argument : String)
  | valueRequired (switch : Switch)
  | unexpectedValue (value : String) (switch : Switch)
  | repeated (switch : Switch)
  deriving DecidableEq, Repr

def UsageError.message : UsageError → String
  | nothingGiven => Topic.program.helpText
  | missingCommand =>
    "error: '" ++ programName ++ "' requires a subcommand but one was not provided"
  | unknownCommand word => "error: unrecognized subcommand '" ++ word ++ "'"
  | unexpected argument => "error: unexpected argument '" ++ argument ++ "' found"
  | valueRequired s => "error: a value is required for '" ++ s.shown ++ "' but none was supplied"
  | unexpectedValue value s =>
    "error: unexpected value '" ++ value ++ "' for '" ++ s.shown ++
      "' found; no more were expected"
  | repeated s => "error: the argument '" ++ s.shown ++ "' cannot be used multiple times"

end LayeredConfig.CommandLine
