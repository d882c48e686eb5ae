import LayeredConfig.Decimal.Binary64

namespace LayeredConfig.Decimal

structure Digits where
  digits : Nat
  exponent : Int
  deriving DecidableEq, Repr

namespace Shortest

/-- The numbers that round to a magnitude of `n` units, in quarters of a unit; the ends belong to
them if the significand is even. -/
structure Interval where
  low : Nat
  high : Nat
  closed : Bool

def interval (n : Nat) : Interval :=
  let gap := Binary64.spacing n
  let below := if n = 2 ^ n.log2 ∧ 1 < gap then gap else 2 * gap
  ⟨4 * n - below, 4 * n + 2 * gap, n / gap % 2 = 0⟩

/-- Compares d · 10^k with q quarters of a unit. -/
def compareQuarters (d : Nat) (k : Int) (q : Nat) : Ordering :=
  let one := 2 ^ (Binary64.unitBits + 2)
  if 0 ≤ k then compare (d * 10 ^ k.toNat * one) q
  else compare (d * one) (q * 10 ^ (-k).toNat)

def Interval.contains (i : Interval) (d : Nat) (k : Int) : Bool :=
  match compareQuarters d k i.low, compareQuarters d k i.high with
  | .gt, .lt => true
  | .eq, _ => i.closed
  | _, .eq => i.closed
  | _, _ => false

/-- The multiple of 10^k at or below `n` units. -/
def gridFloor (n : Nat) (k : Int) : Nat :=
  if 0 ≤ k then n / (10 ^ k.toNat * 2 ^ Binary64.unitBits)
  else n * 10 ^ (-k).toNat / 2 ^ Binary64.unitBits

/-- The one of the two grid points around `n` units that reads back, the nearer if both do. -/
def onGrid (n : Nat) (k : Int) : Option Digits :=
  let i := interval n
  let d := gridFloor n k
  match i.contains d k, i.contains (d + 1) k with
  | true, false => some ⟨d, k⟩
  | false, true => some ⟨d + 1, k⟩
  | false, false => none
  | true, true =>
    -- the middle of the two, in units, against `n`
    match compareQuarters (2 * d + 1) k (8 * n) with
    | .gt => some ⟨d, k⟩
    | .lt => some ⟨d + 1, k⟩
    | .eq => some ⟨if d % 2 = 0 then d else d + 1, k⟩

def leadingExponent (n : Nat) : Int :=
  let whole := n / 2 ^ Binary64.unitBits
  if whole = 0 then
    -((List.range 330).find? (fun j => 2 ^ Binary64.unitBits ≤ n * 10 ^ j)).getD 330
  else Binary64.digitCount whole - 1

def dropZeros : Nat → Digits → Digits
  | 0, x => x
  | steps + 1, x =>
    if x.digits % 10 = 0 ∧ x.digits ≠ 0 then dropZeros steps ⟨x.digits / 10, x.exponent + 1⟩ else x

/-- The shortest digits of a positive magnitude. Seventeen digits always suffice. -/
def digits (n : Nat) : Digits :=
  let e := leadingExponent n
  dropZeros 18 (((List.range 17).findSome? fun (j : Nat) => onGrid n (e - j)).getD ⟨0, 0⟩)

end Shortest

structure FloatLayout where
  /-- The greatest number of digits before the point. -/
  wholeDigits : Nat
  /-- The greatest number of zeros between the point and the first digit. -/
  leadingZeros : Nat
  nan : String
  infinite : String

/-- Up to sixteen digits before the point, up to four zeros after it, else an exponent; without an
exponent there is always a fraction. -/
def FloatLayout.standard : FloatLayout := ⟨16, 4, ".nan", ".inf"⟩

def FloatLayout.render (layout : FloatLayout) (x : Digits) : String :=
  let text := toString x.digits
  let point : Int := text.length + x.exponent
  let zeros (n : Nat) : String := String.ofList (List.replicate n '0')
  if 0 ≤ x.exponent ∧ point ≤ layout.wholeDigits then text ++ zeros x.exponent.toNat ++ ".0"
  else if 0 < point ∧ point ≤ layout.wholeDigits then
    String.ofList (text.toList.take point.toNat) ++ "." ++
      String.ofList (text.toList.drop point.toNat)
  else if -layout.leadingZeros ≤ point ∧ point ≤ 0 then "0." ++ zeros (-point).toNat ++ text
  else
    let mantissa := match text.toList with
      | [d] => String.singleton d
      | d :: rest => String.ofList (d :: '.' :: rest)
      | [] => ""
    mantissa ++ "e" ++ toString (point - 1)

def Binary64.text (x : Binary64) : String :=
  let layout := FloatLayout.standard
  let sign (negative : Bool) : String := if negative then "-" else ""
  match x with
  | .nan => layout.nan
  | .infinite s => sign s ++ layout.infinite
  | .finite s 0 => sign s ++ layout.render ⟨0, 0⟩
  | .finite s n => sign s ++ layout.render (Shortest.digits n)

end LayeredConfig.Decimal
