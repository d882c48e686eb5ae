import LayeredConfig.Duration.Basic
import LayeredConfig.Text.Blank
import LayeredConfig.Text.Quoted

namespace LayeredConfig.Duration

/-- Why a text is no span of time. Offsets count bytes. -/
inductive ReadError where
  | empty
  | numberExpected (offset : Nat)
  | invalidCharacter (offset : Nat)
  | unitNeeded (count : Nat)
  | unknownUnit (unit : String)
  | outOfRange
  deriving DecidableEq, Repr

def ReadError.message : ReadError → String
  | empty => "value was empty"
  | numberExpected offset => "expected number at " ++ toString offset
  | invalidCharacter offset => "invalid character at " ++ toString offset
  | unitNeeded count =>
    "time unit needed, for example " ++ toString count ++ "sec or " ++ toString count ++ "ms"
  | unknownUnit unit =>
    "unknown time unit " ++ Text.quoted unit ++ ", supported units: ns, us/µs, ms, sec, min, " ++
      "hours, days, weeks, months, years (and few variations)"
  | outOfRange =>
    "number is too large or cannot be represented without a lack of precision " ++
      "(values below 1ns are not supported)"

structure Fraction where
  numerator : Nat
  denominator : Nat
  deriving DecidableEq, Repr

def within64 (n : Nat) : Except ReadError Nat :=
  if n < 2 ^ 64 then .ok n else .error .outOfRange

def plus (d : Duration) (seconds nanoseconds : Nat) : Except ReadError Duration := do
  let _ ← within64 (d.subseconds + nanoseconds)
  match ofNanoseconds? (d.nanoseconds + seconds * 10 ^ 9 + nanoseconds) with
  | some sum => .ok sum
  | none => .error .outOfRange

def whole (count : Nat) (unit : TimeUnit) : Except ReadError (Nat × Nat) := do
  if unit.nanoseconds < 10 ^ 9 then return (0, ← within64 (count * unit.nanoseconds))
  else return (← within64 (count * (unit.nanoseconds / 10 ^ 9)), 0)

/-- A fraction of a unit. It has to be a whole number of nanoseconds up to the minute and of
seconds from the hour up. -/
def fractionOf (fraction : Fraction) (unit : TimeUnit) : Except ReadError (Nat × Nat) := do
  if unit = .nanosecond then throw .outOfRange
  let fine := unit.nanoseconds ≤ TimeUnit.minute.nanoseconds
  let scale := if fine then unit.nanoseconds else unit.nanoseconds / 10 ^ 9
  let n ← within64 (fraction.numerator * scale)
  if n % fraction.denominator ≠ 0 then throw .outOfRange
  return if fine then (0, n / fraction.denominator) else (n / fraction.denominator, 0)

def addItem (d : Duration) (count : Nat) (fraction : Option Fraction) (unit : List Char) :
    Except ReadError Duration := do
  if unit.isEmpty then throw (.unitNeeded count)
  let name := String.ofList unit
  let some unit := TimeUnit.ofName? name | throw (.unknownUnit name)
  let (seconds, nanoseconds) ← whole count unit
  let d ← d.plus seconds nanoseconds
  match fraction with
  | none => return d
  | some f =>
    let (seconds, nanoseconds) ← fractionOf f unit
    d.plus seconds nanoseconds

inductive Position where
  /-- Before the first number. -/
  | start
  /-- After a unit and a blank, which ends at the offset. -/
  | gap (offset : Nat)
  /-- Inside a number. -/
  | number (count : Nat)
  /-- After the decimal point; the offset is that of the character last read. -/
  | fraction (count : Nat) (fraction : Fraction) (offset : Nat)
  /-- Inside a unit, whose letters are held in reverse. -/
  | unit (count : Nat) (fraction : Option Fraction) (letters : List Char)

def isUnitLetter (c : Char) : Bool := c.isAlpha || c == 'µ'

def digit? (c : Char) : Option Nat := if c.isDigit then some (c.toNat - 48) else none

def Position.step (d : Duration) (offset : Nat) (c : Char) :
    Position → Except ReadError (Duration × Position)
  | start => match digit? c with
    | some v => .ok (d, number v)
    | none => if Text.isBlank c then .ok (d, start) else .error (.numberExpected 0)
  | gap since => match digit? c with
    | some v => .ok (d, number v)
    | none => if Text.isBlank c then .ok (d, gap since) else .error (.numberExpected since)
  | number n => match digit? c with
    | some v => do return (d, number (← within64 (n * 10 + v)))
    | none =>
      if Text.isBlank c then .ok (d, number n)
      else if isUnitLetter c then .ok (d, unit n none [c])
      else if c = '.' then .ok (d, fraction n ⟨0, 1⟩ offset)
      else .error (.invalidCharacter offset)
  | fraction n f last => match digit? c with
    | some v => do
      let denominator ← within64 (f.denominator * 10)
      let numerator ← within64 (f.numerator * 10 + v)
      return (d, fraction n ⟨numerator, denominator⟩ (offset + 1))
    | none =>
      if Text.isBlank c then .ok (d, fraction n f (offset + c.utf8Size))
      else if isUnitLetter c ∧ f.denominator ≠ 1 then .ok (d, unit n (some f) [c])
      else .error (.invalidCharacter last)
  | unit n f letters => match digit? c with
    | some v => do return (← addItem d n f letters.reverse, number v)
    | none =>
      if Text.isBlank c then do
        return (← addItem d n f letters.reverse, gap (offset + c.utf8Size))
      else if isUnitLetter c then .ok (d, unit n f (c :: letters))
      else .error (.invalidCharacter offset)

def Position.finish (d : Duration) : Position → Except ReadError Duration
  | start => .error .empty
  | gap _ => .ok d
  | number n => addItem d n none []
  | fraction n f last =>
    if f.denominator = 1 then .error (.invalidCharacter last) else addItem d n (some f) []
  | unit n f letters => addItem d n f letters.reverse

def readFrom (d : Duration) (position : Position) (offset : Nat) :
    List Char → Except ReadError Duration
  | [] => position.finish d
  | c :: cs => do
    let (d, position) ← position.step d offset c
    readFrom d position (offset + c.utf8Size) cs

def read (s : String) : Except ReadError Duration :=
  if s = "0" then .ok zero else readFrom zero .start 0 s.toList

end LayeredConfig.Duration
