namespace LayeredConfig.CommandLine

/-- What help and version can be asked about: the program, or one of its commands. -/
inductive Topic where
  | program
  | serve
  | help
  deriving DecidableEq, Repr

inductive Switch where
  | config
  | check
  | verbose
  | dump
  | help
  | version
  deriving DecidableEq, Repr

namespace Switch

def letter : Switch → Char
  | config => 'c'
  | check => 'C'
  | verbose => 'v'
  | dump => 'D'
  | help => 'h'
  | version => 'V'

def name : Switch → String
  | config => "config"
  | check => "check"
  | verbose => "verbose"
  | dump => "dump"
  | help => "help"
  | version => "version"

def shown : Switch → String
  | config => "--config <SOURCE>"
  | s => "--" ++ s.name

def about : Switch → String
  | config => "Configuration file or HTTP(S) URL"
  | check => "Check configuration, but do not start"
  | verbose => "Enable verbose logging (sets log level to DEBUG)"
  | dump => "Dump configuration before starting"
  | help => "Print help"
  | version => "Print version"

end Switch

namespace Topic

def switches : Topic → List Switch
  | program => [.verbose, .help, .version]
  | serve => [.config, .check, .verbose, .dump, .help, .version]
  | help => []

def ofLetter? (t : Topic) (c : Char) : Option Switch := t.switches.find? (·.letter = c)

def ofName? (t : Topic) (name : String) : Option Switch := t.switches.find? (·.name = name)

def commands : Topic → List Topic
  | program => [serve, help]
  | serve | help => []

def word : Topic → String
  | program => ""
  | serve => "serve"
  | help => "help"

def command? (t : Topic) (word : String) : Option Topic := t.commands.find? (·.word = word)

end Topic

end LayeredConfig.CommandLine
