import Audience.Number.Binary64

/-!
# Time

Instants, counted from the start of the clock, and spans are natural numbers
of nanoseconds. `ceilMs` is the clock's grain, a whole millisecond, rounded
up. `briefText` writes a span in its largest unit, `secondsText` in seconds to
nine places, and `ofSeconds?` reads a number of seconds.
-/

namespace Audience

namespace Time

def perMicrosecond : Nat := 1000

def perMillisecond : Nat := 1000000

def perSecond : Nat := 1000000000

/-- The longest wait at a stretch, thirty years: who asks for more is woken then. -/
def longestWait : Nat := 30 * 365 * 24 * 3600 * perSecond

theorem longestWait_pos : 0 < longestWait := by decide

/-- The first whole millisecond not before an instant. -/
def ceilMs (t : Nat) : Nat :=
  if t % perMillisecond = 0 then t else (t / perMillisecond + 1) * perMillisecond

theorem le_ceilMs (t : Nat) : t ≤ ceilMs t := by
  unfold ceilMs perMillisecond; split <;> omega

theorem ceilMs_lt (t : Nat) : ceilMs t < t + perMillisecond := by
  unfold ceilMs perMillisecond; split <;> omega

theorem ceilMs_mod (t : Nat) : ceilMs t % perMillisecond = 0 := by
  unfold ceilMs perMillisecond; split <;> omega

theorem ceilMs_eq_self {t : Nat} (h : t % perMillisecond = 0) : ceilMs t = t := by
  simp [ceilMs, h]

theorem ceilMs_mono {s t : Nat} (h : s ≤ t) : ceilMs s ≤ ceilMs t := by
  unfold ceilMs perMillisecond; split <;> split <;> omega

/-- A number below `10 ^ width` with zeros in front up to `width` digits. -/
def padded (width n : Nat) : List Char :=
  let digits := Nat.toDigits 10 n
  List.replicate (width - digits.length) '0' ++ digits

/-- A fraction of `10 ^ places` parts after a point, without the zeros it ends with. -/
def fractionText (places parts : Nat) : List Char :=
  if parts = 0 then []
  else '.' :: ((padded places parts).reverse.dropWhile (· == '0')).reverse

/-- A span in the unit of `10 ^ places` nanoseconds. -/
def inUnit (places : Nat) (unit : String) (t : Nat) : String :=
  let parts := Nat.pow 10 places
  String.ofList (Nat.toDigits 10 (t / parts) ++ fractionText places (t % parts)) ++ unit

/-- A span in the largest of `s`, `ms`, `µs` and `ns` that it fills. -/
def briefText (t : Nat) : String :=
  if perSecond ≤ t then inUnit 9 "s" t
  else if perMillisecond ≤ t then inUnit 6 "ms" t
  else if perMicrosecond ≤ t then inUnit 3 "µs" t
  else inUnit 0 "ns" t

/-- A span in seconds to nine places. -/
def secondsText (t : Nat) : String :=
  String.ofList (Nat.toDigits 10 (t / perSecond) ++ '.' :: padded 9 (t % perSecond))

/-- Seconds are counted in 64 bits. -/
def limit : Nat := Nat.pow 2 64 * perSecond

/-- A number of seconds to the nearest nanosecond, a tie going to the even one. Refuses negative
numbers, infinities and spans past the limit. -/
def ofSeconds? : Binary64 → Option Nat
  | .finite negative m e =>
    if negative && m != 0 then none
    else if 64 < e then none
    else
      let (num, den) := Binary64.quotient m e
      let t := nearest (num * perSecond) den
      if t < limit then some t else none
  | _ => none

end Time

end Audience
