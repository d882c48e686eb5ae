import LayeredConfig.Decimal.Shortest

namespace LayeredConfig

/-- An integer, or a floating-point number. The two are never equal. -/
inductive Number where
  | integer (value : Int)
  | float (value : Decimal.Binary64)
  deriving DecidableEq, Repr, Inhabited

namespace Number

def text : Number → String
  | integer i => toString i
  | float x => x.text

def toFloat : Number → Decimal.Binary64
  | integer i => .ofInt i
  | float x => x

def toInt? : Number → Option Int
  | integer i => some i
  | float x => x.toInt?

def same : Number → Number → Bool
  | integer i, integer j => i == j
  | float x, float y => x.sameNumber y
  | _, _ => false

end Number

/-- A document. A tag is held without the exclamation mark that starts it. -/
inductive Document where
  | null
  | bool (value : Bool)
  | number (value : Number)
  | string (value : String)
  | sequence (items : List Document)
  | mapping (entries : List (Document × Document))
  | tagged (tag : String) (content : Document)
  deriving Inhabited

namespace Document

/-- Null, also under tags. -/
def isNull : Document → Bool
  | null => true
  | tagged _ content => content.isNull
  | _ => false

mutual

/-- Whether two documents count as one key. The order of a mapping's entries does not matter. -/
def same : Document → Document → Bool
  | null, null => true
  | bool a, bool b => a == b
  | number m, number n => m.same n
  | string s, string t => s == t
  | sequence xs, sequence ys => sameItems xs ys
  | mapping xs, mapping ys => xs.length == ys.length && entriesWithin xs ys
  | tagged s x, tagged t y => s == t && same x y
  | _, _ => false

def sameItems : List Document → List Document → Bool
  | [], [] => true
  | x :: xs, y :: ys => same x y && sameItems xs ys
  | _, _ => false

def entriesWithin : List (Document × Document) → List (Document × Document) → Bool
  | [], _ => true
  | (k, v) :: rest, ys => ys.any (fun e => same k e.1 && same v e.2) && entriesWithin rest ys

end

/-- Puts an entry into a mapping: a new key at the end, a known key at its place. -/
def insert (key value : Document) : List (Document × Document) → List (Document × Document)
  | [] => [(key, value)]
  | (k, v) :: rest => if k.same key then (k, value) :: rest else (k, v) :: insert key value rest

def ofEntries (entries : List (Document × Document)) : Document :=
  .mapping (entries.foldl (fun acc e => insert e.1 e.2 acc) [])

def kindName : Document → String
  | null => "null"
  | bool _ => "a boolean"
  | number _ => "a number"
  | string _ => "a string"
  | sequence _ => "a sequence"
  | mapping _ => "a mapping"
  | tagged _ _ => "a tagged value"

end Document

end LayeredConfig
