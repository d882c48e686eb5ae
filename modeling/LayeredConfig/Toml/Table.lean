import LayeredConfig.Toml.Scalar

namespace LayeredConfig.Toml

inductive Item where
  | value (content : Document)
  | table (implicit dotted : Bool) (entries : List (String × Item))
  | tables (elements : List (List (String × Item)))
  deriving Inhabited

/-- A table, and how it came to be: not through a header of its own, and through a dotted key. -/
structure Table where
  implicit : Bool
  dotted : Bool
  entries : List (String × Item)

namespace Table

def new : Table := ⟨false, false, []⟩

def toItem (t : Table) : Item := .table t.implicit t.dotted t.entries

def put (key : String) (item : Item) : List (String × Item) → List (String × Item)
  | [] => [(key, item)]
  | (k, i) :: rest => if k = key then (k, item) :: rest else (k, i) :: put key item rest

def without (key : String) (entries : List (String × Item)) : List (String × Item) :=
  entries.filter (·.1 != key)

/-- Changes the table that a path leads to. Tables on the way that do not exist are made; of an
array of tables the last one is meant. A dotted key cannot enter a table with a header. -/
def change (dotted : Bool) (f : Table → Option Table) : List String → Table → Option Table
  | [], t => f t
  | key :: path, t => do
    let item ← match t.entries.lookup key with
      | none => (change dotted f path ⟨true, dotted, []⟩).map toItem
      | some (.value _) => none
      | some (.tables elements) => match elements.getLast? with
        | none => none
        | some last =>
          (change dotted f path ⟨false, false, last⟩).map fun t =>
            .tables (elements.dropLast ++ [t.entries])
      | some (.table implicit ownDotted entries) =>
        if dotted && !implicit then none
        else (change dotted f path ⟨implicit, ownDotted, entries⟩).map toItem
    return { t with entries := put key item t.entries }

/-- Adds a value under a dotted key. A table that a header made, directly or on its way, takes no
values through dotted keys. -/
def addValue (path : List String) (key : String) (content : Document) (t : Table) : Option Table :=
  t.change true (fun inner =>
    if inner.dotted == path.isEmpty then none
    else if (inner.entries.lookup key).isSome then none
    else some { inner with entries := inner.entries ++ [(key, .value content)] }) path

end Table

def splitLast : List String → Option (List String × String)
  | [] => none
  | [key] => some ([], key)
  | key :: rest => (splitLast rest).map fun r => (key :: r.1, r.2)

structure Draft where
  root : Table
  current : Table
  path : List String
  inArray : Bool

namespace Draft

def start : Draft := ⟨.new, .new, [], false⟩

def close (d : Draft) : Option Table :=
  match splitLast d.path with
  | none => some d.current
  | some (path, key) =>
    d.root.change false (fun parent =>
      match parent.entries.lookup key with
      | none =>
        let item := if d.inArray then .tables [d.current.entries] else d.current.toItem
        some { parent with entries := Table.put key item parent.entries }
      | some (.tables elements) =>
        if d.inArray then
          some { parent with
            entries := Table.put key (.tables (elements ++ [d.current.entries])) parent.entries }
        else none
      | some (.table implicit _ _) =>
        if !d.inArray && implicit then
          some { parent with entries := Table.put key d.current.toItem parent.entries }
        else none
      | some (.value _) => none) path

/-- A table header: what is known of the table through headers below it is kept. -/
def openTable (path : List String) (d : Draft) : Option Draft := do
  let root ← d.close
  let (above, key) ← splitLast path
  let known ← find root above key
  let root ← root.change false
    (fun parent => some { parent with entries := Table.without key parent.entries }) above
  return ⟨root, ⟨false, false, known⟩, path, false⟩
where
  find (root : Table) (above : List String) (key : String) : Option (List (String × Item)) :=
    let check (parent : Table) : Option (List (String × Item)) :=
      match parent.entries.lookup key with
      | none => some []
      | some (.table true false entries) => some entries
      | _ => none
    let rec descend : List String → Table → Option (List (String × Item))
      | [], t => check t
      | k :: path, t => match t.entries.lookup k with
        | none => some []
        | some (.value _) => none
        | some (.tables elements) =>
          elements.getLast?.bind fun last => descend path ⟨false, false, last⟩
        | some (.table implicit dotted entries) => descend path ⟨implicit, dotted, entries⟩
    descend above root

def openElement (path : List String) (d : Draft) : Option Draft := do
  let root ← d.close
  let (above, key) ← splitLast path
  let root ← root.change false (fun parent =>
    match parent.entries.lookup key with
    | none => some { parent with entries := Table.put key (.tables []) parent.entries }
    | some (.tables _) => some parent
    | _ => none) above
  return ⟨root, .new, path, true⟩

def addValue (path : List String) (key : String) (content : Document) (d : Draft) :
    Option Draft := do
  return { d with current := ← d.current.addValue path key content }

end Draft

/-! ### Finished tables -/

def keyBefore (a b : String × Document) : Bool := !decide (b.1 < a.1)

/-- A table as a document, sorted by key. One whose first key is that of date-times has to hold
one. -/
def tableDocument? (entries : List (String × Document)) : Option Document :=
  match entries with
  | (key, content) :: _ =>
    if key = dateTimeKey then match content with
      | .string s => match dateTime s.toList with
        | .found text [] => some (dateTimeDocument text)
        | _ => none
      | .mapping [(.string k, .string text)] =>
        if k = dateTimeKey then some (dateTimeDocument text) else none
      | _ => none
    else some (sorted entries)
  | [] => some (.mapping [])
where
  sorted (entries : List (String × Document)) : Document :=
    .mapping ((entries.mergeSort keyBefore).map fun e => (.string e.1, e.2))

mutual

def itemDocument? : Item → Option Document
  | .value content => some content
  | .table _ _ entries => (entryDocuments? entries).bind tableDocument?
  | .tables elements => (elementDocuments? elements).map .sequence

def entryDocuments? : List (String × Item) → Option (List (String × Document))
  | [] => some []
  | (key, item) :: rest => do
    let d ← itemDocument? item
    return (key, d) :: (← entryDocuments? rest)

def elementDocuments? : List (List (String × Item)) → Option (List Document)
  | [] => some []
  | entries :: rest => do
    let d ← (← entryDocuments? entries) |> tableDocument?
    return d :: (← elementDocuments? rest)

end

def Table.document? (t : Table) : Option Document := itemDocument? t.toItem

end LayeredConfig.Toml
