import LayeredConfig.Instances

namespace LayeredConfig.Network

structure Ipv4 where
  a : UInt8
  b : UInt8
  c : UInt8
  d : UInt8
  deriving DecidableEq, Inhabited

structure Ipv6 where
  groups : Vector UInt16 8
  deriving DecidableEq

inductive IpAddress where
  | v4 (address : Ipv4)
  | v6 (address : Ipv6)
  deriving DecidableEq

/-- An address with a port. A version 6 address may also have flow information and name a scope;
zero is none. -/
inductive SocketAddress where
  | v4 (address : Ipv4) (port : UInt16)
  | v6 (address : Ipv6) (flow scope : UInt32) (port : UInt16)
  deriving DecidableEq

def Ipv4.localhost : Ipv4 := ⟨127, 0, 0, 1⟩

/-! ### Text -/

def Ipv4.text (x : Ipv4) : String :=
  ".".intercalate [toString x.a, toString x.b, toString x.c, toString x.d]

def groupsText (groups : List UInt16) : String :=
  ":".intercalate (groups.map fun g => String.ofList (Nat.toDigits 16 g.toNat))

def leadingZeros (groups : List UInt16) : Nat := (groups.takeWhile (· == 0)).length

def longestZeros : List UInt16 → Nat × Nat
  | [] => (0, 0)
  | g :: rest =>
    let (start, length) := longestZeros rest
    let here := leadingZeros (g :: rest)
    if length ≤ here then (0, here) else (start + 1, length)

/-- Two or more zero groups are left out once; an embedded version 4 address keeps its form. -/
def Ipv6.text (x : Ipv6) : String :=
  let groups := x.groups.toList
  if groups.take 6 = [0, 0, 0, 0, 0, 0xFFFF] then
    let octet (g : UInt16) : List String := [toString (g.toNat / 256), toString (g.toNat % 256)]
    "::ffff:" ++ ".".intercalate ((groups.drop 6).flatMap octet)
  else
    let (start, length) := longestZeros groups
    if 1 < length then
      groupsText (groups.take start) ++ "::" ++ groupsText (groups.drop (start + length))
    else groupsText groups

def IpAddress.text : IpAddress → String
  | v4 x => x.text
  | v6 x => x.text

/-- Flow information is not written. -/
def SocketAddress.text : SocketAddress → String
  | v4 x port => x.text ++ ":" ++ toString port
  | v6 x _ scope port =>
    let zone := if scope = 0 then "" else "%" ++ toString scope
    "[" ++ x.text ++ zone ++ "]:" ++ toString port

/-! ### Reading -/

abbrev Reader (α : Type) := List Char → Option (α × List Char)

def take (c : Char) : Reader Unit
  | x :: rest => if x = c then some ((), rest) else none
  | [] => none

def digitOf? (base : Nat) (c : Char) : Option Nat :=
  let v := if c.isDigit then c.toNat - 48 else if c.isAlpha then c.toLower.toNat - 87 else base
  if v < base then some v else none

def digits (base : Nat) : Nat → Nat → List Char → Nat × Nat × List Char
  | value, count, c :: rest =>
    match digitOf? base c with
    | some v => digits base (value * base + v) (count + 1) rest
    | none => (value, count, c :: rest)
  | value, count, [] => (value, count, [])

def number (base : Nat) (width : Option Nat) (bound : Nat) : Reader Nat := fun cs =>
  let (value, count, rest) := digits base 0 0 cs
  if count = 0 ∨ width.any (· < count) ∨ bound ≤ value then none else some (value, rest)

def octet : Reader UInt8 := fun cs => do
  let (n, rest) ← number 10 (some 3) 256 cs
  if cs.head? = some '0' ∧ cs.length ≠ rest.length + 1 then none
  return (n.toUInt8, rest)

def ipv4 : Reader Ipv4 := fun cs => do
  let (a, cs) ← octet cs
  let (_, cs) ← take '.' cs
  let (b, cs) ← octet cs
  let (_, cs) ← take '.' cs
  let (c, cs) ← octet cs
  let (_, cs) ← take '.' cs
  let (d, cs) ← octet cs
  return (⟨a, b, c, d⟩, cs)

def Ipv4.asGroups (x : Ipv4) : List UInt16 :=
  [x.a.toUInt16 * 256 + x.b.toUInt16, x.c.toUInt16 * 256 + x.d.toUInt16]

/-- Up to `limit` groups with colons between; where two are left a version 4 address may stand,
and ends them. The flag says whether it did. -/
def groups (first : Bool) : Nat → List Char → List UInt16 × Bool × List Char
  | 0, cs => ([], false, cs)
  | limit + 1, cs =>
    let item? := if first then some cs else (take ':' cs).map Prod.snd
    let embedded? := if limit = 0 then none else item?.bind ipv4
    match embedded?, item?.bind (number 16 (some 4) 65536) with
    | some (x, rest), _ => (x.asGroups, true, rest)
    | none, some (g, rest) =>
      let (more, embedded, rest) := groups false limit rest
      (g.toUInt16 :: more, embedded, rest)
    | none, none => ([], false, cs)

def Ipv6.ofList? (groups : List UInt16) : Option Ipv6 :=
  if h : groups.length = 8 then some ⟨⟨groups.toArray, by simpa using h⟩⟩ else none

/-- Eight groups, or fewer with a double colon for at least one group of zeros. -/
def ipv6 : Reader Ipv6 := fun cs => do
  let (head, embedded, cs) := groups true 8 cs
  if head.length = 8 then return (← Ipv6.ofList? head, cs)
  if embedded then none
  let (_, cs) ← take ':' cs
  let (_, cs) ← take ':' cs
  let (tail, _, cs) := groups true (7 - head.length) cs
  let zeros := List.replicate (8 - head.length - tail.length) 0
  return (← Ipv6.ofList? (head ++ zeros ++ tail), cs)

def port : Reader UInt16 := fun cs => do
  let (_, cs) ← take ':' cs
  let (n, cs) ← number 10 none 65536 cs
  return (n.toUInt16, cs)

def scope : Reader UInt32 := fun cs => do
  let (_, cs) ← take '%' cs
  let (n, cs) ← number 10 none (2 ^ 32) cs
  return (n.toUInt32, cs)

def socketV6 : Reader SocketAddress := fun cs => do
  let (_, cs) ← take '[' cs
  let (x, cs) ← ipv6 cs
  let (zone, cs) := (scope cs).getD (0, cs)
  let (_, cs) ← take ']' cs
  let (p, cs) ← port cs
  return (.v6 x 0 zone p, cs)

def socketV4 : Reader SocketAddress := fun cs => do
  let (x, cs) ← ipv4 cs
  let (p, cs) ← port cs
  return (.v4 x p, cs)

def ipAddress : Reader IpAddress := fun cs =>
  (ipv4 cs).map (fun r => (.v4 r.1, r.2)) <|> (ipv6 cs).map fun r => (.v6 r.1, r.2)

def socketAddress : Reader SocketAddress := fun cs => socketV4 cs <|> socketV6 cs

def readWhole {α : Type} (reader : Reader α) (s : String) : Option α :=
  match reader s.toList with
  | some (x, []) => some x
  | _ => none

def IpAddress.read? (s : String) : Option IpAddress := readWhole ipAddress s

def SocketAddress.read? (s : String) : Option SocketAddress := readWhole socketAddress s

end LayeredConfig.Network
