import LayeredConfig.Instances

/-!
Binary floating point of 64 bits, as exact numbers. Every finite datum is a whole number of units
of 2^-1074, the smallest positive one, so rounding, comparing and converting are arithmetic on
natural numbers.
-/

namespace LayeredConfig.Decimal

/-- A datum of the format; `finite s n` stands for n units, negated if `s`. -/
inductive Binary64 where
  | nan
  | infinite (negative : Bool)
  | finite (negative : Bool) (units : Nat)
  deriving DecidableEq, Repr, Inhabited

namespace Binary64

/-- One is 2^1074 units. -/
def unitBits : Nat := 1074

def precision : Nat := 53

def maxUnits : Nat := (2 ^ precision - 1) * 2 ^ 2045

def zero : Binary64 := .finite false 0
def one : Binary64 := .finite false (2 ^ unitBits)

/-- The quotient to the nearest whole number, halves to the even one. -/
def roundDiv (num den : Nat) : Nat :=
  let q := num / den
  let r := num % den
  if 2 * r < den then q
  else if den < 2 * r then q + 1
  else if q % 2 = 0 then q else q + 1

/-- How many units lie between neighbours of the format at a magnitude of `n` units. -/
def spacing (n : Nat) : Nat := 2 ^ (n.log2 + 1 - precision)

/-- The magnitude of the format nearest to num/den units. -/
def roundUnits (num den : Nat) : Nat :=
  let gap := spacing (num / den)
  roundDiv num (den * gap) * gap

def ofRatio (negative : Bool) (num den : Nat) : Binary64 :=
  let n := roundUnits (num * 2 ^ unitBits) den
  if n ≤ maxUnits then .finite negative n else .infinite negative

def ofInt (i : Int) : Binary64 := ofRatio (i < 0) i.natAbs 1

/-- How many decimal digits a number has; zero has none. -/
def digitCount (n : Nat) : Nat := if n = 0 then 0 else (Nat.toDigits 10 n).length

/-- The datum nearest to ±significand · 10^exponent. Beyond 10^310 and below 10^-330 the digits do
not matter. -/
def ofDecimal (negative : Bool) (significand : Nat) (exponent : Int) : Binary64 :=
  let top : Int := exponent + digitCount significand
  if significand = 0 then .finite negative 0
  else if 310 < top then .infinite negative
  else if top < -330 then .finite negative 0
  else if 0 ≤ exponent then ofRatio negative (significand * 10 ^ exponent.toNat) 1
  else ofRatio negative significand (10 ^ (-exponent).toNat)

def isFinite : Binary64 → Bool
  | .finite _ _ => true
  | _ => false

def isZero : Binary64 → Bool
  | .finite _ 0 => true
  | _ => false

/-- Equal as numbers: the zeros are equal, and here a NaN equals a NaN. -/
def sameNumber (x y : Binary64) : Bool := x == y || (x.isZero && y.isZero)

def toInt? : Binary64 → Option Int
  | .finite s n =>
    if n % 2 ^ unitBits = 0 then
      some (if s then -(n / 2 ^ unitBits : Nat) else (n / 2 ^ unitBits : Nat))
    else none
  | _ => none

end Binary64

end LayeredConfig.Decimal
