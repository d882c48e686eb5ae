import LayeredConfig.Decimal.Binary64

namespace LayeredConfig.Decimal

def digitValue? (base : Nat) (c : Char) : Option Nat :=
  let n := c.toNat
  let v? :=
    if 0x30 ≤ n ∧ n ≤ 0x39 then some (n - 0x30)
    else if 0x61 ≤ n ∧ n ≤ 0x66 then some (n - 0x61 + 10)
    else if 0x41 ≤ n ∧ n ≤ 0x46 then some (n - 0x41 + 10)
    else none
  v?.filter (· < base)

/-- The value of a row of digits onto what stands before them. -/
def digitsOnto? (base : Nat) : Nat → List Char → Option Nat
  | acc, [] => some acc
  | acc, c :: cs => (digitValue? base c).bind fun d => digitsOnto? base (acc * base + d) cs

def natural? (base : Nat) : List Char → Option Nat
  | [] => none
  | cs => digitsOnto? base 0 cs

def unsigned? (base : Nat) : List Char → Option Nat
  | '+' :: cs => natural? base cs
  | cs => natural? base cs

def signed? (base : Nat) : List Char → Option Int
  | '-' :: cs => (natural? base cs).map fun n => -(n : Int)
  | cs => (unsigned? base cs).map Int.ofNat

def takeSign : List Char → Bool × List Char
  | '-' :: cs => (true, cs)
  | '+' :: cs => (false, cs)
  | cs => (false, cs)

/-- The power of ten after a significand: nothing, or an e, an optional sign and digits. -/
def exponent? : List Char → Option Int
  | [] => some 0
  | c :: cs => if c = 'e' ∨ c = 'E' then signed? 10 cs else none

/-- The number after the sign: a word for infinity or NaN, or digits with an optional fraction and
exponent, where one side of the point may be empty. -/
def magnitude? (negative : Bool) (cs : List Char) : Option Binary64 :=
  let word := String.ofList (cs.map Char.toLower)
  if word = "inf" ∨ word = "infinity" then some (.infinite negative)
  else if word = "nan" then some .nan
  else
    let whole := cs.takeWhile Char.isDigit
    let rest := cs.dropWhile Char.isDigit
    let (fraction, tail) := match rest with
      | '.' :: r => (r.takeWhile Char.isDigit, r.dropWhile Char.isDigit)
      | r => ([], r)
    match natural? 10 (whole ++ fraction), exponent? tail with
    | some n, some e => some (.ofDecimal negative n (e - fraction.length))
    | _, _ => none

def float? (s : String) : Option Binary64 :=
  let (negative, cs) := takeSign s.toList
  magnitude? negative cs

end LayeredConfig.Decimal
