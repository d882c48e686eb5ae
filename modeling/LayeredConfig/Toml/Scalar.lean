import LayeredConfig.Document.Basic
import LayeredConfig.Toml.Lexeme

namespace LayeredConfig.Toml

/-! ### Numbers -/

/-- Digits with single underscores between them, after the digit before. None if an underscore
is not followed by a digit. -/
def moreDigits (isDigit : Char → Bool) : Reader (List Char)
  | '_' :: c :: rest =>
    if isDigit c then (moreDigits isDigit rest).map fun r => (c :: r.1, r.2) else none
  | c :: rest =>
    if isDigit c then (moreDigits isDigit rest).map fun r => (c :: r.1, r.2)
    else if c == '_' then none else some ([], c :: rest)
  | [] => some ([], [])

def digits (isDigit : Char → Bool) : Reader (List Char)
  | c :: rest =>
    if isDigit c then (moreDigits isDigit rest).map fun r => (c :: r.1, r.2) else none
  | [] => none

def wholeDigits : Reader (List Char)
  | '0' :: rest => some (['0'], rest)
  | cs => digits Char.isDigit cs

def sign : List Char → Bool × List Char := Decimal.takeSign

def isBaseDigit (base : Nat) (c : Char) : Bool := (Decimal.digitValue? base c).isSome

def integerDocument? (i : Int) : Option Document :=
  if -2 ^ 63 ≤ i ∧ i < 2 ^ 63 then some (.number (.integer i)) else none

def basedInteger (base : Nat) : Reader Document := fun cs => do
  let (text, rest) ← digits (isBaseDigit base) cs
  let n ← Decimal.natural? base text
  return (← integerDocument? n, rest)

def exponent? : List Char → Option (Option (Int × List Char))
  | c :: rest =>
    if c == 'e' || c == 'E' then
      let (negative, rest) := sign rest
      (digits Char.isDigit rest).bind fun r =>
        (Decimal.natural? 10 r.1).map fun n => some (if negative then -(n : Int) else n, r.2)
    else some none
  | [] => some none

/-- A float. One too large is refused; one too small becomes minus infinity. -/
def floatDocument? (negative : Bool) (whole fraction : List Char) (e : Int) : Option Document := do
  let n ← Decimal.natural? 10 (whole ++ fraction)
  let x := Decimal.Binary64.ofDecimal negative n (e - fraction.length)
  if x = .infinite false then none else return .number (.float x)

def decimalNumber : Reader Document := fun cs => do
  let (negative, cs) := sign cs
  let (whole, rest) ← wholeDigits cs
  match rest with
  | '.' :: more =>
    let (fraction, more) ← digits Char.isDigit more
    match ← exponent? more with
    | some (e, more) => return (← floatDocument? negative whole fraction e, more)
    | none => return (← floatDocument? negative whole fraction 0, more)
  | _ => match ← exponent? rest with
    | some (e, rest) => return (← floatDocument? negative whole [] e, rest)
    | none =>
      let n ← Decimal.natural? 10 whole
      return (← integerDocument? (if negative then -(n : Int) else n), rest)

def specialFloat (cs : List Char) : Option (Document × List Char) :=
  let (negative, cs) := sign cs
  match cs with
  | 'i' :: 'n' :: 'f' :: rest => some (.number (.float (.infinite negative)), rest)
  | 'n' :: 'a' :: 'n' :: rest => some (.number (.float .nan), rest)
  | _ => none

def number : Reader Document := fun cs =>
  match specialFloat cs with
  | some r => some r
  | none => match cs with
    | '0' :: 'x' :: rest => basedInteger 16 rest
    | '0' :: 'o' :: rest => basedInteger 8 rest
    | '0' :: 'b' :: rest => basedInteger 2 rest
    | _ => decimalNumber cs

/-! ### Date-times -/

/-- What the front of a text is: nothing of the kind, malformed, or read. -/
inductive Reading (α : Type) where
  | absent
  | malformed
  | found (value : α) (rest : List Char)

def Reading.ofOption {α : Type} : Option (α × List Char) → Reading α
  | some (x, rest) => .found x rest
  | none => .malformed

def fixedNumber (count low high : Nat) : Reader Nat := fun cs => do
  let text := cs.take count
  if text.length < count || !text.all Char.isDigit then none
  let n ← Decimal.natural? 10 text
  if low ≤ n ∧ n ≤ high then return (n, cs.drop count) else none

def after (c : Char) : Reader Unit
  | x :: rest => if x = c then some ((), rest) else none
  | [] => none

def isLeapYear (year : Nat) : Bool :=
  year % 4 == 0 && (year % 100 != 0 || year % 400 == 0)

def daysInMonth (year month : Nat) : Nat :=
  if month = 2 then (if isLeapYear year then 29 else 28)
  else if month = 4 ∨ month = 6 ∨ month = 9 ∨ month = 11 then 30 else 31

def padded (width n : Nat) : String :=
  let digits := toString n
  String.ofList (List.replicate (width - digits.length) '0') ++ digits

/-- A date, as its text. After the year's hyphen it has to be one. -/
def date (cs : List Char) : Reading String :=
  match fixedNumber 4 0 9999 cs with
  | some (year, '-' :: rest) => .ofOption do
    let (month, rest) ← fixedNumber 2 1 12 rest
    let (_, rest) ← after '-' rest
    let (day, rest) ← fixedNumber 2 1 31 rest
    if daysInMonth year month < day then none
    return (padded 4 year ++ "-" ++ padded 2 month ++ "-" ++ padded 2 day, rest)
  | _ => .absent

/-- The digits of a second's fraction, cut to nine and without zeros at the end. -/
def fractionText (digits : List Char) : String :=
  match ((digits.take 9).reverse.dropWhile (· == '0')).reverse with
  | [] => ""
  | kept => String.ofList ('.' :: kept)

def fraction (cs : List Char) : String × List Char :=
  match cs with
  | '.' :: rest =>
    let text := rest.takeWhile Char.isDigit
    if text.isEmpty then ("", cs) else (fractionText text, rest.dropWhile Char.isDigit)
  | _ => ("", cs)

def time (cs : List Char) : Reading String :=
  match fixedNumber 2 0 23 cs with
  | some (hour, ':' :: rest) => .ofOption do
    let (minute, rest) ← fixedNumber 2 0 59 rest
    let (_, rest) ← after ':' rest
    let (second, rest) ← fixedNumber 2 0 60 rest
    let (part, rest) := fraction rest
    return (padded 2 hour ++ ":" ++ padded 2 minute ++ ":" ++ padded 2 second ++ part, rest)
  | _ => .absent

def offset (cs : List Char) : Reading String :=
  match cs with
  | 'Z' :: rest | 'z' :: rest => .found "Z" rest
  | c :: rest =>
    if c == '+' || c == '-' then .ofOption do
      let (hour, rest) ← fixedNumber 2 0 23 rest
      let (_, rest) ← after ':' rest
      let (minute, rest) ← fixedNumber 2 0 59 rest
      let sign := if c == '-' && (hour, minute) != (0, 0) then "-" else "+"
      return (sign ++ padded 2 hour ++ ":" ++ padded 2 minute, rest)
    else .absent
  | [] => .absent

def timeAfterDate (day : String) (cs : List Char) : Reading String :=
  match cs with
  | c :: rest =>
    if c == 'T' || c == 't' || c == ' ' then match time rest with
      | .found clock rest => match offset rest with
        | .found zone rest => .found (day ++ "T" ++ clock ++ zone) rest
        | .absent => .found (day ++ "T" ++ clock) rest
        | .malformed => .malformed
      | .absent => .found day cs
      | .malformed => .malformed
    else .found day cs
  | [] => .found day []

def dateTime (cs : List Char) : Reading String :=
  match date cs with
  | .found day rest => timeAfterDate day rest
  | .malformed => .malformed
  | .absent => time cs

def dateTimeKey : String := "$__toml_private_datetime"

def dateTimeDocument (text : String) : Document :=
  .mapping [(.string dateTimeKey, .string text)]

def numberOrDateTime : Reader Document := fun cs =>
  match dateTime cs with
  | .found text rest => some (dateTimeDocument text, rest)
  | .malformed => none
  | .absent => number cs

end LayeredConfig.Toml
