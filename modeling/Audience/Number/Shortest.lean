import Audience.Number.Binary64

/-!
# Shortest decimal text of a double

Of the decimals that round to a double, `shortest` takes one with the fewest
digits, and among those the nearest. `Binary64.text` writes it positionally,
whatever its size, with a point only where a fraction follows.
-/

namespace Audience

namespace Binary64

/-- Whether `num / den` rounds to `m · 2^e`: it lies within half a unit of it, the ends included
when `m` is even. Below a power of two the unit is half as large. -/
def readsAs (m : Nat) (e : Int) (num den : Nat) : Bool :=
  let (value, unit) := quotient (4 * m) (e - 2)
  let (step, _) := quotient 1 (e - 2)
  -- all three over the denominator `den · unit`
  let below := if m = Nat.pow 2 52 ∧ -1074 < e then 1 else 2
  let point := num * unit
  let low := (value - below * step) * den
  let high := (value + 2 * step) * den
  if m % 2 = 0 then low ≤ point && point ≤ high else low < point && point < high

/-- The quotient `num / den` in units of `10^e`, rounded down, and the distance of it and of the
next unit from the quotient, over a common denominator. -/
def decimalNeighbours (num den : Nat) (e : Int) : Nat × Nat × Nat :=
  let (n, d) :=
    if 0 ≤ e then (num, den * Nat.pow 10 e.toNat) else (num * Nat.pow 10 (-e).toNat, den)
  (n / d, n % d, d - n % d)

/-- `digits · 10^e` as a quotient. -/
def decimalQuotient (digits : Nat) (e : Int) : Nat × Nat :=
  if 0 ≤ e then (digits * Nat.pow 10 e.toNat, 1) else (digits, Nat.pow 10 (-e).toNat)

/-- The nearest of the decimals in units of `10^e` that read as `m · 2^exponent`, if any does. -/
def decimalAt? (m : Nat) (exponent : Int) (e : Int) : Option (Nat × Int) :=
  let (num, den) := quotient m exponent
  let (low, below, above) := decimalNeighbours num den e
  let reads := fun digits =>
    let (n, d) := decimalQuotient digits e
    readsAs m exponent n d
  match reads low, reads (low + 1) with
  | true, true => some (if below < above then low else low + 1, e)
  | true, false => some (low, e)
  | false, true => some (low + 1, e)
  | false, false => none

/-- Tries finer and finer units. -/
def decimalFrom (m : Nat) (exponent : Int) : Nat → Int → Nat × Int
  | 0, _ => (m, 0)
  | tries + 1, e => match decimalAt? m exponent e with
    | some result => result
    | none => decimalFrom m exponent tries (e - 1)

/-- Digits and an exponent of ten: the shortest decimal that rounds to `m · 2^exponent`. -/
def shortest (m : Nat) (exponent : Int) : Nat × Int :=
  let (num, den) := quotient m exponent
  let places : Int := (Nat.toDigits 10 (num * Nat.pow 10 400 / den)).length - 400
  decimalFrom m exponent 18 (places - 1)

/-- Digits without the zeros they end with, and the exponent for it. -/
def dropZeros (digits : List Char) (e : Int) : List Char × Int :=
  let zeros := digits.reverse.takeWhile (· == '0')
  (digits.take (digits.length - zeros.length), e + zeros.length)

/-- `digits · 10^e` in positional notation. -/
def positional (digits : Nat) (e : Int) : List Char :=
  let (ds, e) := dropZeros (Nat.toDigits 10 digits) e
  if 0 ≤ e then ds ++ List.replicate e.toNat '0'
  else
    let places := (-e).toNat
    let padded := List.replicate (places + 1 - ds.length) '0' ++ ds
    padded.take (padded.length - places) ++ '.' :: padded.drop (padded.length - places)

/-- The text of a double. -/
def text : Binary64 → String
  | .nan => "NaN"
  | .infinite negative => if negative then "-inf" else "inf"
  | .finite negative m e =>
    let (digits, exponent) := if m = 0 then (0, 0) else shortest m e
    let body := if digits = 0 then ['0'] else positional digits exponent
    String.ofList (if negative then '-' :: body else body)

end Binary64

end Audience
