import Audience.Toml.Moment

/-!
# Numbers, booleans and moments of TOML

A scalar without quotes is a run of characters up to a blank, a line end, a
comment or a character that closes or separates. `scalar?` reads one. Integers
have to fit 64 bits with a sign; underscores may stand between digits.
-/

namespace Audience.Toml

/-- A character of a scalar without quotes. -/
def isScalarChar (c : Char) : Bool :=
  c.toNat > 0x20 && c != ',' && c != ']' && c != '}' && c != '#'

/-- Digits with single underscores between them, the underscores taken out. -/
def groupedDigits? (isDigit : Char → Bool) : List Char → Option (List Char)
  | [] => none
  | [c] => if isDigit c then some [c] else none
  | c :: '_' :: cs => if isDigit c then (groupedDigits? isDigit cs).map (c :: ·) else none
  | c :: cs => if isDigit c then (groupedDigits? isDigit cs).map (c :: ·) else none

/-- Decimal digits with no zero in front of others. -/
def wholeDigits? (cs : List Char) : Option (List Char) :=
  match cs with
  | '0' :: _ :: _ => none
  | cs => groupedDigits? Char.isDigit cs

/-- A number in the given base. -/
def baseValue? (base : Nat) (cs : List Char) : Option Nat := do
  let digits ← groupedDigits? (fun c => (hexValue? c).any (· < base)) cs
  let values ← digits.mapM hexValue?
  return values.foldl (fun n d => base * n + d) 0

/-- An integer before its range is looked at. -/
def unboundedInteger? (cs : List Char) : Option Int :=
  match cs with
  | '0' :: 'x' :: cs => (baseValue? 16 cs).map Int.ofNat
  | '0' :: 'o' :: cs => (baseValue? 8 cs).map Int.ofNat
  | '0' :: 'b' :: cs => (baseValue? 2 cs).map Int.ofNat
  | cs =>
    let (negative, digits) := takeSign cs
    (wholeDigits? digits).map fun ds => if negative then -(digitsValue ds : Int) else digitsValue ds

def integer? (cs : List Char) : Option Int := (unboundedInteger? cs).bind signedWord?

/-- The exponent of a float, its letter taken. -/
def floatExponent? (cs : List Char) : Option Int :=
  let (negative, digits) := takeSign cs
  (groupedDigits? Char.isDigit digits).map fun ds =>
    if negative then -(digitsValue ds : Int) else digitsValue ds

def isExponentMark (c : Char) : Bool := c == 'e' || c == 'E'

/-- A float in digits: a whole part and then a fraction, an exponent or both. -/
def digitFloat? (negative : Bool) (cs : List Char) : Option Binary64 := do
  let mantissa := cs.takeWhile (!isExponentMark ·)
  let exponent ← match cs.dropWhile (!isExponentMark ·) with
    | [] => some none
    | _ :: tail => (floatExponent? tail).map some
  match mantissa.takeWhile (· != '.'), mantissa.dropWhile (· != '.') with
  | whole, [] =>
    let ds ← wholeDigits? whole
    let e ← exponent
    return .ofDecimal negative (digitsValue ds) e
  | whole, _ :: fraction =>
    let ds ← wholeDigits? whole
    let fs ← groupedDigits? Char.isDigit fraction
    return .ofDecimal negative (digitsValue (ds ++ fs)) (exponent.getD 0 - fs.length)

/-- A float. Digits that overflow are refused, downwards only if the dialect says so. -/
def float? (d : Dialect) (cs : List Char) : Option Binary64 :=
  let (negative, body) := takeSign cs
  if body = ['i', 'n', 'f'] then some (.infinite negative)
  else if body = ['n', 'a', 'n'] then some .nan
  else match digitFloat? negative body with
    | some (.infinite down) => if down && d.overflowsDown then some (.infinite down) else none
    | x => x

/-- The value that a scalar's characters stand for. -/
def scalarValue? (d : Dialect) (cs : List Char) : Option Value :=
  if cs = ['t', 'r', 'u', 'e'] then some (.boolean true)
  else if cs = ['f', 'a', 'l', 's', 'e'] then some (.boolean false)
  else match integer? cs with
    | some n => some (.integer n)
    | none => match float? d cs with
      | some x => some (.float x)
      | none => (moment? d cs).map .moment

/-- The characters of a scalar. A date and a time may have a space between them. -/
def takeScalar (cs : List Char) : List Char × List Char :=
  let token := cs.takeWhile isScalarChar
  let rest := cs.dropWhile isScalarChar
  match date? token, rest with
  | some (_, []), ' ' :: c :: tail =>
    if c.isDigit then
      (token ++ ' ' :: (c :: tail).takeWhile isScalarChar, (c :: tail).dropWhile isScalarChar)
    else (token, rest)
  | _, _ => (token, rest)

/-- A scalar without quotes. -/
def scalar? (d : Dialect) : Reader Value
  | cs => match takeScalar cs with
    | (token, rest) => (scalarValue? d token).map fun v => (v, rest)

end Audience.Toml
