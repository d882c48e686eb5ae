import LayeredConfig.Instances

namespace LayeredConfig

/-- A span of time. Its seconds fit 64 bits. -/
structure Duration where
  nanoseconds : Nat
  inRange : nanoseconds < 2 ^ 64 * 10 ^ 9
  deriving DecidableEq

namespace Duration

def zero : Duration := ⟨0, by decide⟩

instance : Inhabited Duration := ⟨zero⟩

def ofNanoseconds? (n : Nat) : Option Duration :=
  if h : n < 2 ^ 64 * 10 ^ 9 then some ⟨n, h⟩ else none

def ofSeconds? (n : Nat) : Option Duration := ofNanoseconds? (n * 10 ^ 9)

def seconds (d : Duration) : Nat := d.nanoseconds / 10 ^ 9

def subseconds (d : Duration) : Nat := d.nanoseconds % 10 ^ 9

inductive TimeUnit where
  | nanosecond | microsecond | millisecond | second | minute | hour | day | week | month | year
  deriving DecidableEq, Repr

namespace TimeUnit

/-- Months and years are the mean ones of a calendar with 365.25 days. -/
def nanoseconds : TimeUnit → Nat
  | nanosecond => 1
  | microsecond => 10 ^ 3
  | millisecond => 10 ^ 6
  | second => 10 ^ 9
  | minute => 60 * 10 ^ 9
  | hour => 3600 * 10 ^ 9
  | day => 86400 * 10 ^ 9
  | week => 604800 * 10 ^ 9
  | month => 2630016 * 10 ^ 9
  | year => 31557600 * 10 ^ 9

def ofName? : String → Option TimeUnit
  | "nanos" | "nsec" | "ns" => some nanosecond
  | "usec" | "us" | "µs" => some microsecond
  | "millis" | "msec" | "ms" => some millisecond
  | "seconds" | "second" | "secs" | "sec" | "s" => some second
  | "minutes" | "minute" | "min" | "mins" | "m" => some minute
  | "hours" | "hour" | "hr" | "hrs" | "h" => some hour
  | "days" | "day" | "d" => some day
  | "weeks" | "week" | "wk" | "wks" | "w" => some week
  | "months" | "month" | "M" => some month
  | "years" | "year" | "yr" | "yrs" | "y" => some year
  | _ => none

end TimeUnit

def spelled (count : Nat) (unit : String) : List String :=
  if count = 0 then [] else [toString count ++ unit ++ (if 1 < count then "s" else "")]

def abbreviated (count : Nat) (unit : String) : List String :=
  if count = 0 then [] else [toString count ++ unit]

def parts (d : Duration) : List String :=
  let inYear := d.seconds % 31557600
  let inMonth := inYear % 2630016
  let inDay := inMonth % 86400
  spelled (d.seconds / 31557600) "year" ++ spelled (inYear / 2630016) "month" ++
    spelled (inMonth / 86400) "day" ++ abbreviated (inDay / 3600) "h" ++
    abbreviated (inDay % 3600 / 60) "m" ++ abbreviated (inDay % 60) "s" ++
    abbreviated (d.subseconds / 10 ^ 6) "ms" ++ abbreviated (d.subseconds / 10 ^ 3 % 10 ^ 3) "us" ++
    abbreviated (d.subseconds % 10 ^ 3) "ns"

def text (d : Duration) : String :=
  if d.nanoseconds = 0 then "0s" else " ".intercalate d.parts

end Duration

end LayeredConfig
