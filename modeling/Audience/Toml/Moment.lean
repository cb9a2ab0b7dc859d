import Audience.Number.Numeral
import Audience.Time
import Audience.Toml.Token

/-!
# Dates and times of TOML

A moment is a date, a time of day, or both with an optional offset from
universal time. `moment?` checks one and writes it in its canonical form: an
upper-case `T` between date and time, seconds if they were given, a fraction
of a second to at most nine places without the zeros it ends with, and an
offset of nothing with a plus sign.
-/

namespace Audience.Toml

/-- A number of exactly `width` digits. -/
def fixedDigits? (width : Nat) (cs : List Char) : Option (Nat × List Char) :=
  let digits := cs.take width
  if digits.length = width ∧ digits.all Char.isDigit then some (digitsValue digits, cs.drop width)
  else none

/-- The number of two digits, at most `limit`. -/
def twoDigits? (limit : Nat) (cs : List Char) : Option (Nat × List Char) :=
  match fixedDigits? 2 cs with
  | some (n, rest) => if n ≤ limit then some (n, rest) else none
  | none => none

/-- Takes one given character. -/
def skipChar? (c : Char) : List Char → Option (List Char)
  | d :: cs => if d = c then some cs else none
  | [] => none

def isLeapYear (year : Nat) : Bool := year % 4 == 0 && (year % 100 != 0 || year % 400 == 0)

def daysInMonth (year month : Nat) : Nat :=
  if month = 2 then if isLeapYear year then 29 else 28
  else if month = 4 ∨ month = 6 ∨ month = 9 ∨ month = 11 then 30
  else 31

/-- A date, in its canonical form. -/
def date? : Reader (List Char)
  | cs => do
    let (year, rest) ← fixedDigits? 4 cs
    let (month, rest) ← twoDigits? 12 (← skipChar? '-' rest)
    let (day, rest) ← twoDigits? (daysInMonth year month) (← skipChar? '-' rest)
    if month = 0 ∨ day = 0 then none
    some (Time.padded 4 year ++ '-' :: Time.padded 2 month ++ '-' :: Time.padded 2 day, rest)

/-- The digits after a point, cut to nine places. A fraction of zero keeps one digit. -/
def secondFraction? : Reader (List Char)
  | '.' :: cs =>
    let digits := cs.takeWhile Char.isDigit
    if digits.isEmpty then none
    else
      let kept := ((digits.take 9).reverse.dropWhile (· == '0')).reverse
      some ('.' :: (if kept.isEmpty then ['0'] else kept), cs.dropWhile Char.isDigit)
  | cs => some ([], cs)

/-- The seconds of a time of day after its minutes. A minute may have a leap second. -/
def seconds? (d : Dialect) (cs : List Char) : Option (List Char × List Char) :=
  match skipChar? ':' cs with
  | some rest => do
    let (second, rest) ← twoDigits? 60 rest
    let (fraction, rest) ← secondFraction? rest
    some (':' :: Time.padded 2 second ++ fraction, rest)
  | none => if d.shortTimes then some ([], cs) else none

/-- A time of day, in its canonical form. -/
def timeOfDay? (d : Dialect) : Reader (List Char)
  | cs => do
    let (hour, rest) ← twoDigits? 23 cs
    let (minute, rest) ← twoDigits? 59 (← skipChar? ':' rest)
    let (seconds, rest) ← seconds? d rest
    some (Time.padded 2 hour ++ ':' :: Time.padded 2 minute ++ seconds, rest)

/-- An offset from universal time, to the end of the text, in its canonical form. -/
def offset? : List Char → Option (List Char)
  | [] => some []
  | c :: cs =>
    if (c = 'Z' ∨ c = 'z') ∧ cs = [] then some ['Z']
    else if c = '+' ∨ c = '-' then do
      let (hour, rest) ← twoDigits? 23 cs
      let (minute, rest) ← twoDigits? 59 (← skipChar? ':' rest)
      if rest ≠ [] then none
      let sign := if hour = 0 ∧ minute = 0 then '+' else c
      some (sign :: Time.padded 2 hour ++ ':' :: Time.padded 2 minute)
    else none

/-- The canonical form of a moment. -/
def moment? (d : Dialect) (cs : List Char) : Option String :=
  match date? cs with
  | some (date, []) => some (String.ofList date)
  | some (date, c :: rest) =>
    if c = 'T' ∨ c = 't' ∨ c = ' ' then do
      let (time, rest) ← timeOfDay? d rest
      let offset ← offset? rest
      some (String.ofList (date ++ 'T' :: time ++ offset))
    else none
  | none => match timeOfDay? d cs with
    | some (time, []) => some (String.ofList time)
    | _ => none

end Audience.Toml
