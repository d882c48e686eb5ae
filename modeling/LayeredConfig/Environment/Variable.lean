import LayeredConfig.Text.Utf8

namespace LayeredConfig

structure RawVariable where
  name : ByteArray
  content : ByteArray
  deriving DecidableEq

structure Variable where
  name : String
  content : String
  deriving DecidableEq, Repr

namespace RawVariable

def ofText (v : Variable) : RawVariable := ⟨v.name.toUTF8, v.content.toUTF8⟩

def set (v : RawVariable) : List RawVariable → List RawVariable
  | [] => [v]
  | u :: us => if u.name = v.name then v :: us else u :: set v us

/-- The environment after variables were set one by one. -/
def settle (vs : List RawVariable) : List RawVariable := vs.foldl (fun env v => v.set env) []

def nullEnded : List UInt8 → List (List UInt8)
  | [] => []
  | b :: bs =>
    if b = 0 then [] :: nullEnded bs
    else match nullEnded bs with
      | [] => [[b]]
      | piece :: pieces => (b :: piece) :: pieces

/-- A variable as a name and a content with an equals sign between them. The name is not empty, so
its first byte may be an equals sign itself. -/
def ofEntry? : List UInt8 → Option RawVariable
  | [] => none
  | b :: bs => match bs.span (· ≠ 0x3D) with
    | (name, _ :: content) => some ⟨⟨(b :: name).toArray⟩, ⟨content.toArray⟩⟩
    | (_, []) => none

def ofBlock (block : ByteArray) : List RawVariable :=
  (nullEnded block.data.toList).filterMap ofEntry?

end RawVariable

namespace Variable

def ofRaw? (raw : RawVariable) : Option Variable := do
  return ⟨← Text.decode? raw.name, ← Text.decode? raw.content⟩

def sortByName (vs : List Variable) : List Variable := vs.mergeSort fun u v => u.name ≤ v.name

/-- The variables of a process that are text, by the order of their names. -/
def ofProcess (environment : List RawVariable) : List Variable :=
  sortByName (environment.filterMap ofRaw?)

end Variable

def RawVariable.lookup? (environment : List RawVariable) (name : String) : Option String :=
  (environment.find? (·.name = name.toUTF8)).bind fun v => Text.decode? v.content

end LayeredConfig
