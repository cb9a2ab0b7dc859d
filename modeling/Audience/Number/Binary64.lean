/-!
# Binary floating-point numbers

A finite `Binary64` is a signed significand times a power of two. `rounded`
takes a quotient of natural numbers to the nearest such number, a tie going to
the even significand, and `ofDecimal` does so for decimal digits and an
exponent of ten: a value of at least `2^1024` is infinite, one of at most
`2^-1075` is zero. `nearest` is the same rounding to whole numbers.
-/

namespace Audience

/-- A double: not a number, an infinity, or `± significand · 2^exponent`. -/
inductive Binary64 where
  | nan
  | infinite (negative : Bool)
  | finite (negative : Bool) (significand : Nat) (exponent : Int)
deriving DecidableEq, Repr

/-- The whole number nearest to `num / den`, a tie going to the even one. -/
def nearest (num den : Nat) : Nat :=
  let q := num / den
  let r := num % den
  if den < 2 * r ∨ (2 * r = den ∧ q % 2 = 1) then q + 1 else q

namespace Binary64

def zero (negative : Bool) : Binary64 := .finite negative 0 (-1074)

/-- The quotient `num / (den · 2^e)` as a pair of whole numbers. -/
def scaled (num den : Nat) (e : Int) : Nat × Nat :=
  if 0 ≤ e then (num, den * Nat.pow 2 e.toNat) else (num * Nat.pow 2 (-e).toNat, den)

/-- The exponent at which `num / den` has 53 significant bits, or the least there is. -/
def exponentFor (num den : Nat) : Int :=
  let e : Int := max ((num.log2 : Int) - den.log2 - 53) (-1074)
  let (n, d) := scaled num den e
  if n / d < Nat.pow 2 53 then e else e + 1

/-- The significand and exponent of the double nearest to `num / den`. -/
def roundQuotient (num den : Nat) : Nat × Int :=
  let e := exponentFor num den
  let (n, d) := scaled num den e
  let m := nearest n d
  if m = Nat.pow 2 53 then (Nat.pow 2 52, e + 1) else (m, e)

/-- The double nearest to `± num / den`. -/
def rounded (negative : Bool) (num den : Nat) : Binary64 :=
  if num = 0 then zero negative
  else
    let (m, e) := roundQuotient num den
    if 971 < e then .infinite negative else .finite negative m e

/-- The double nearest to `± digits · 10^exponent`. A value out of the range of doubles by its
decimal magnitude alone is not computed. -/
def ofDecimal (negative : Bool) (digits : Nat) (exponent : Int) : Binary64 :=
  if digits = 0 then zero negative
  else
    let magnitude := (Nat.toDigits 10 digits).length + exponent
    if 310 ≤ magnitude then .infinite negative
    else if magnitude ≤ -324 then zero negative
    else if 0 ≤ exponent then rounded negative (digits * Nat.pow 10 exponent.toNat) 1
    else rounded negative digits (Nat.pow 10 (-exponent).toNat)

/-- Whether a number differs from zero; one that is no number does. -/
def isNonzero : Binary64 → Bool
  | .finite _ m _ => m != 0
  | _ => true

/-- The magnitude of a finite number as a quotient. -/
def quotient (significand : Nat) (exponent : Int) : Nat × Nat :=
  if 0 ≤ exponent then (significand * Nat.pow 2 exponent.toNat, 1)
  else (significand, Nat.pow 2 (-exponent).toNat)

/-- The natural number nearest to a number, a half going up, held between `0` and `limit`. -/
def toNatUpTo (limit : Nat) : Binary64 → Nat
  | .nan => 0
  | .infinite negative => if negative then 0 else limit
  | .finite negative m e =>
    let (num, den) := quotient m e
    if negative then 0 else min limit ((2 * num + den) / (2 * den))

end Binary64

end Audience
