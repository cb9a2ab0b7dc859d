import Audience.Text.Blank
import Audience.Number.Numeral
import Audience.Time

/-!
# Spoken spans of time

A span such as `1h 30m` or `1.5s` is one or more groups of a number and a
unit, blanks allowed around groups and between digits. `Time.ofSpoken?`
reads one; a lone `0` needs no unit. Whole numbers are counted in 64 bits: a
group's whole part in seconds for units of a second or more and in nanoseconds
below, its fraction in seconds for units of an hour or more and in nanoseconds
below. A fraction has to come out even.
-/

namespace Audience

/-- The units of spoken time. -/
inductive TimeUnit where
  | nanosecond | microsecond | millisecond | second | minute | hour | day | week | month | year
deriving DecidableEq, Repr

namespace TimeUnit

def ofName? : String → Option TimeUnit
  | "nanos" | "nsec" | "ns" => some .nanosecond
  | "usec" | "us" | "µs" => some .microsecond
  | "millis" | "msec" | "ms" => some .millisecond
  | "seconds" | "second" | "secs" | "sec" | "s" => some .second
  | "minutes" | "minute" | "min" | "mins" | "m" => some .minute
  | "hours" | "hour" | "hr" | "hrs" | "h" => some .hour
  | "days" | "day" | "d" => some .day
  | "weeks" | "week" | "wk" | "wks" | "w" => some .week
  | "months" | "month" | "M" => some .month
  | "years" | "year" | "yr" | "yrs" | "y" => some .year
  | _ => none

/-- A month is a twelfth of a year of 365.25 days. -/
def nanos : TimeUnit → Nat
  | .nanosecond => 1
  | .microsecond => 1000
  | .millisecond => 1000000
  | .second => 1000000000
  | .minute => 60 * 1000000000
  | .hour => 3600 * 1000000000
  | .day => 86400 * 1000000000
  | .week => 604800 * 1000000000
  | .month => 2630016 * 1000000000
  | .year => 31557600 * 1000000000

/-- The grain in which a whole number of the unit is counted. -/
def wholeGrain : TimeUnit → Nat
  | .nanosecond | .microsecond | .millisecond => 1
  | _ => Time.perSecond

/-- The grain in which a fraction of the unit is counted. -/
def fractionGrain : TimeUnit → Nat
  | .nanosecond | .microsecond | .millisecond | .second | .minute => 1
  | _ => Time.perSecond

end TimeUnit

/-- A count that 64 bits hold. -/
def word? (n : Nat) : Option Nat := if n < Nat.pow 2 64 then some n else none

/-- The digits after a point: their value over a power of ten. -/
structure DecimalFraction where
  numerator : Nat
  denominator : Nat
deriving DecidableEq, Repr

namespace Spoken

def isUnitChar (c : Char) : Bool := c.isAlpha || c == 'µ'

/-- One `number unit` group. -/
structure Group where
  whole : List Char
  fraction : Option (List Char)
  unit : List Char
deriving Repr

/-- A stretch of digits with blanks among them. -/
def takeDigits (cs : List Char) : List Char × List Char :=
  ((cs.takeWhile fun c => c.isDigit || Text.isBlank c).filter Char.isDigit,
    cs.dropWhile fun c => c.isDigit || Text.isBlank c)

/-- The group that starts at a digit, and what follows it. The unit ends at a blank, at a digit or
with the text; any other character is refused. -/
def takeGroup? (cs : List Char) : Option (Group × List Char) :=
  let (whole, rest) := takeDigits cs
  let (fraction, rest) := match rest with
    | '.' :: tail =>
      let (digits, rest) := takeDigits tail
      (some digits, rest)
    | rest => (none, rest)
  let unit := rest.takeWhile isUnitChar
  let rest := rest.dropWhile isUnitChar
  match rest with
  | [] => some (⟨whole, fraction, unit⟩, [])
  | c :: tail =>
    if unit.isEmpty then none
    else if Text.isBlank c then some (⟨whole, fraction, unit⟩, tail)
    else if c.isDigit then some (⟨whole, fraction, unit⟩, c :: tail)
    else none

/-- The groups of a text. Every group takes at least one character, so `steps` is its length. -/
def groups? : (steps : Nat) → List Char → Option (List Group)
  | 0, _ => none
  | steps + 1, cs => match Text.trimStart cs with
    | [] => some []
    | c :: tail =>
      if c.isDigit then do
        let (group, rest) ← takeGroup? (c :: tail)
        return group :: (← groups? steps rest)
      else none

/-- Adds a part of a group: the nanoseconds below a second are counted in 64 bits on the way. -/
def add? (total part grain : Nat) : Option Nat :=
  if grain = 1 ∧ Nat.pow 2 64 ≤ total % Time.perSecond + part then none
  else if total + part * grain < Time.limit then some (total + part * grain)
  else none

/-- The value of the digits after a point, zeros in front of the numerator not counted. -/
def fractionOf? (digits : List Char) : Option DecimalFraction := do
  if digits.isEmpty then none
  let numerator ← word? (digitsValue digits)
  let denominator ← word? (Nat.pow 10 digits.length)
  return ⟨numerator, denominator⟩

/-- Adds a group to a total. -/
def addGroup? (total : Nat) (group : Group) : Option Nat := do
  let whole ← word? (digitsValue group.whole)
  let fraction ← match group.fraction with
    | none => some none
    | some digits => (fractionOf? digits).map some
  let unit ← TimeUnit.ofName? (String.ofList group.unit)
  let part ← word? (whole * (unit.nanos / unit.wholeGrain))
  let total ← add? total part unit.wholeGrain
  match fraction with
  | none => some total
  | some f =>
    if unit = .nanosecond then none
    let product ← word? (f.numerator * (unit.nanos / unit.fractionGrain))
    if product % f.denominator ≠ 0 then none
    add? total (product / f.denominator) unit.fractionGrain

end Spoken

/-- The span that a text speaks of. -/
def Time.ofSpoken? (s : String) : Option Nat :=
  if s = "0" then some 0
  else do
    let groups ← Spoken.groups? (s.toList.length + 1) s.toList
    if groups.isEmpty then none
    groups.foldlM Spoken.addGroup? 0

end Audience
