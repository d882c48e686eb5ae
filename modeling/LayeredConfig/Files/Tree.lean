import LayeredConfig.Files.Error
import LayeredConfig.Instances
import LayeredConfig.Text.Blank

namespace LayeredConfig.Files

/-- What a name in a directory stands for. All names of one file have its number, and a link leads
on along the path that it holds. -/
inductive Entry where
  | directory
  | file (number : Nat) (content : ByteArray)
  | link (path : String)
  deriving DecidableEq

namespace Entry

def number? : Entry → Option Nat
  | file number _ => some number
  | _ => none

def rewritten (number : Nat) (content : ByteArray) : Entry → Entry
  | file n old => file n (if n = number then content else old)
  | other => other

end Entry

abbrev Location := List String

/-- What the system may refuse at a location: to read or to write a file, to add or to remove a
name. -/
inductive Access where
  | read
  | write
  | add
  | remove
  deriving DecidableEq

/-- The entries by location; the root is always a directory. -/
structure Tree where
  entries : List (Location × Entry)
  workingDirectory : Location
  /-- Why an access is refused, where it is. -/
  refusal? : Access → Location → Option String

namespace Tree

def lookup? (tree : Tree) (here : Location) : Option Entry :=
  if here = [] then some .directory else tree.entries.lookup here

def put (tree : Tree) (here : Location) (entry : Entry) : Tree :=
  { tree with entries := (here, entry) :: tree.entries.filter (·.1 ≠ here) }

def erase (tree : Tree) (here : Location) : Tree :=
  { tree with entries := tree.entries.filter (·.1 ≠ here) }

/-- Changes the content of a file under all its names. -/
def rewrite (tree : Tree) (number : Nat) (content : ByteArray) : Tree :=
  { tree with entries := tree.entries.map fun e => (e.1, e.2.rewritten number content) }

def unused (tree : Tree) : Nat :=
  (tree.entries.filterMap (·.2.number?)).foldr (fun number n => max (number + 1) n) 0

def check (tree : Tree) (access : Access) (here : Location) : Except Error Unit :=
  match tree.refusal? access here with
  | none => .ok ()
  | some reason => .error (.other reason)

/-! ### Finding the way -/

def maxNameBytes : Nat := 255

def maxPathBytes : Nat := 4095

def maxLinks : Nat := 40

def beginning (directory : Location) (path : String) : Location :=
  if path.toList.head? = some '/' then [] else directory

def steps (path : String) : List String := (Text.splitAt '/' path).filter (· ≠ "")

def endsInSlash (path : String) : Bool := path.toList.getLast? = some '/'

def step (tree : Tree) (directory : Location) (name : String) : Except Error Entry :=
  if maxNameBytes < name.utf8ByteSize then .error .nameTooLong
  else match tree.lookup? (directory ++ [name]) with
    | some entry => .ok entry
    | none => .error .notFound

/-- Where a path leads: to a directory by dots or slashes alone, or to a name in a directory. -/
inductive Target where
  | directory (location : Location)
  | named (directory : Location) (name : String) (slashFollows : Bool)

/-- Takes steps from directory to directory; `onward` takes those of a link. A link at the end is
only followed if `follows` says so. -/
def wayWith (tree : Tree) (follows : Bool)
    (onward : Bool → Location → List String → Except Error Target) (slash : Bool) :
    Location → List String → Except Error Target
  | here, [] => .ok (.directory here)
  | here, name :: names =>
    if name = "." then wayWith tree follows onward slash here names
    else if name = ".." then wayWith tree follows onward slash here.dropLast names
    else match tree.step here name with
      | .ok (.link path) =>
        if names = [] ∧ !follows then .ok (.named here name slash)
        else onward (slash || (names.isEmpty && endsInSlash path)) (beginning here path)
          (steps path ++ names)
      | found =>
        if names = [] then .ok (.named here name slash)
        else match found with
          | .ok .directory => wayWith tree follows onward slash (here ++ [name]) names
          | .ok _ => .error .notADirectory
          | .error e => .error e

def way (tree : Tree) (follows : Bool) :
    Nat → Bool → Location → List String → Except Error Target
  | 0 => tree.wayWith follows fun _ _ _ => .error .tooManyLinks
  | links + 1 => tree.wayWith follows (tree.way follows links)

def target (tree : Tree) (follows : Bool) (path : String) : Except Error Target :=
  if path.toList.contains '\x00' then .error .nullInPath
  else if path = "" then .error .notFound
  else if maxPathBytes < path.utf8ByteSize then .error .nameTooLong
  else tree.way follows maxLinks (endsInSlash path) (beginning tree.workingDirectory path)
    (steps path)

def find (tree : Tree) (path : String) : Except Error (Location × Entry) := do
  match ← tree.target true path with
  | .directory here => return (here, .directory)
  | .named directory name slashFollows =>
    let entry ← tree.step directory name
    if slashFollows ∧ entry ≠ .directory then .error .notADirectory
    return (directory ++ [name], entry)

/-! ### What programs do -/

def isDirectory (tree : Tree) (path : String) : Bool :=
  match tree.find path with
  | .ok (_, .directory) => true
  | _ => false

def read (tree : Tree) (path : String) : Except Error ByteArray := do
  match ← tree.find path with
  | (_, .directory) => .error .isADirectory
  | (_, .link _) => .error .tooManyLinks
  | (here, .file _ content) =>
    tree.check .read here
    return content

def write (tree : Tree) (path : String) (content : ByteArray) : Except Error Tree := do
  match ← tree.target true path with
  | .directory _ | .named _ _ true => .error .isADirectory
  | .named directory name false =>
    match tree.step directory name with
    | .ok .directory => .error .isADirectory
    | .ok (.link _) => .error .tooManyLinks
    | .ok (.file number _) =>
      tree.check .write (directory ++ [name])
      return tree.rewrite number content
    | .error .notFound =>
      tree.check .add (directory ++ [name])
      return tree.put (directory ++ [name]) (.file tree.unused content)
    | .error e => .error e

def remove (tree : Tree) (path : String) : Except Error Tree := do
  match ← tree.target false path with
  | .directory _ => .error .isADirectory
  | .named directory name slashFollows =>
    let entry ← tree.step directory name
    if slashFollows then .error (if entry = .directory then .isADirectory else .notADirectory)
    tree.check .remove (directory ++ [name])
    if entry = .directory then .error .isADirectory
    return tree.erase (directory ++ [name])

/-! ### Making and listing -/

/-- The tree that holds the directories on the way to its working directory and refuses nothing. -/
def empty (workingDirectory : Location) : Tree where
  entries := (List.range workingDirectory.length).map fun n =>
    (workingDirectory.take (n + 1), .directory)
  workingDirectory
  refusal? _ _ := none

def ensureDirectories (tree : Tree) (here : Location) : Tree :=
  (List.range here.length).foldl (fun tree n =>
    let above := here.take (n + 1)
    if (tree.lookup? above).isSome then tree else tree.put above .directory) tree

/-- Puts a file below the working directory, or a directory if the name ends in a slash, and the
directories on the way. -/
def place (tree : Tree) (name : String) (content : ByteArray) : Tree :=
  let here := tree.workingDirectory ++ (steps name).filter (· ≠ ".")
  if endsInSlash name then tree.ensureDirectories here
  else (tree.ensureDirectories here.dropLast).put here (.file tree.unused content)

def listed? (tree : Tree) (entry : Location × Entry) : Option String :=
  let depth := tree.workingDirectory.length
  if entry.1.take depth = tree.workingDirectory ∧ depth < entry.1.length then
    some ("/".intercalate (entry.1.drop depth) ++ if entry.2 = .directory then "/" else "")
  else none

def listing (tree : Tree) : List String :=
  (tree.entries.filterMap tree.listed?).mergeSort (· ≤ ·)

end Tree

end LayeredConfig.Files
