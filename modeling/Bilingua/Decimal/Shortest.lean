import Bilingua.Decimal.Binary64
import Bilingua.Text.Basic

/-!
# The shortest decimal

A finite binary number is written with the fewest decimal digits that still read back as the same
number; of two such decimals the nearer one is taken, and the greater one of two that are equally
near. The digits are written positionally, without an exponent, and with at least one decimal.
-/

namespace Bilingua.Decimal

/-- The reals that round to a positive number: from `low / den` to `high / den`, around
`value / den`. -/
structure Interval where
  low : Nat
  value : Nat
  high : Nat
  den : Nat
  /-- The ends belong to the interval. -/
  closed : Bool

/-- The interval of `m * 2 ^ e`. Below a power of two the neighbours lie closer. -/
def Interval.of (m : Nat) (e : Int) : Interval :=
  let below := if 2 * m = Binary64.mantissaBound && Binary64.minExponent < e then 1 else 2
  let up := Nat.pow 2 (e - 2).toNat
  { low := (4 * m - below) * up
    value := 4 * m * up
    high := (4 * m + 2) * up
    den := Nat.pow 2 (2 - e).toNat
    closed := m % 2 = 0 }

namespace Interval

def holds (i : Interval) (c : Nat) (u : Int) : Bool :=
  let x := c * Nat.pow 10 u.toNat * i.den
  let scale := Nat.pow 10 (-u).toNat
  if i.closed then i.low * scale ≤ x && x ≤ i.high * scale
  else i.low * scale < x && x < i.high * scale

def leading (i : Interval) : Int :=
  if i.den ≤ i.value then (Nat.toDigits 10 (i.value / i.den)).length - 1
  else -((List.range 400).findIdx fun k => i.den ≤ i.value * Nat.pow 10 k)

/-- The decimal of the interval in units of `10 ^ u`, if one of the value's two neighbours on that
grid lies in the interval. -/
def onGrid? (i : Interval) (u : Int) : Option Nat :=
  let num := i.value * Nat.pow 10 (-u).toNat
  let den := i.den * Nat.pow 10 u.toNat
  let c := num / den
  match i.holds c u, i.holds (c + 1) u with
  | true, true => some (if 2 * (num % den) < den then c else c + 1)
  | true, false => some c
  | false, true => some (c + 1)
  | false, false => none

def shortest (i : Interval) : Nat × Int :=
  let first := i.leading
  ((List.range 17).findSome? fun (k : Nat) => (i.onGrid? (first - k)).map fun c => (c, first - k)).getD
    (0, 0)

end Interval

/-- The decimal `digits * 10 ^ exponent` with at least one digit on each side of the point. -/
def positional (digits : Text) (exponent : Int) : Text :=
  let whole := digits ++ List.replicate exponent.toNat '0'
  let places := (-exponent).toNat
  let padded := List.replicate (places + 1 - whole.length) '0' ++ whole
  let cut := padded.length - places
  padded.take cut ++ ['.'] ++ if places = 0 then ['0'] else padded.drop cut

def withoutTrailingZeros (digits : Text) (exponent : Int) : Text × Int :=
  let kept := (digits.reverse.dropWhile (· == '0')).reverse
  (kept, exponent + (digits.length - kept.length : Nat))

def Binary64.text : Binary64 → Text
  | .nan => "NaN".toList
  | .infinite negative => (if negative then ['-'] else []) ++ "inf".toList
  | .finite negative m e =>
    (if negative then ['-'] else []) ++
      if m = 0 then "0.0".toList
      else
        let (c, u) := (Interval.of m e).shortest
        let (digits, u) := withoutTrailingZeros (Text.ofNat c) u
        positional digits u

end Bilingua.Decimal
