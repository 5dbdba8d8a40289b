import Bilingua.Decimal.Binary64
import Bilingua.Toml.Strings

/-!
# Numbers and moments of TOML texts

Digits may be set apart by single underscores. Integers have 64 bits with sign and may be written
in base sixteen, eight or two; a float has a fraction, an exponent or both. A date or a time must
be one of the calendar and the clock, where a minute may have a sixtieth second.
-/

namespace Bilingua.Toml

open Decimal (Binary64)

/-! ## Digits -/

/-- More digits, each with at most one underscore before it. -/
def moreDigits (isDigit : Char → Bool) : Reader Text
  | '_' :: c :: t => if isDigit c then push c (moreDigits isDigit t) else none
  | c :: t => if isDigit c then push c (moreDigits isDigit t) else some ([], c :: t)
  | [] => some ([], [])

def someDigits (isDigit : Char → Bool) : Reader Text
  | c :: t => if isDigit c then push c (moreDigits isDigit t) else none
  | [] => none

def numeral (base : Nat) (digits : Text) : Nat :=
  digits.foldl (fun n c => base * n + (hexDigit? c).getD 0) 0

/-- A sign, of which `true` means minus. -/
def sign : Text → Bool × Text
  | '+' :: t => (false, t)
  | '-' :: t => (true, t)
  | t => (false, t)

/-- Decimal digits that start with zero only if that is all. -/
def unsignedDecimal : Reader Text
  | '0' :: t => some (['0'], t)
  | t => someDigits Char.isDigit t

/-! ## Integers -/

def minInteger : Int := -9223372036854775808

def maxInteger : Int := 9223372036854775807

def inBounds? (i : Int) : Option Int := if minInteger ≤ i && i ≤ maxInteger then some i else none

/-- The digits of an integer in a base, after the mark of the base. -/
def basedInteger (base : Nat) (isDigit : Char → Bool) : Reader Int := fun t =>
  (someDigits isDigit t).bind fun (digits, t) =>
    (inBounds? (numeral base digits)).map fun i => (i, t)

def isOctalDigit (c : Char) : Bool := '0' ≤ c && c ≤ '7'

def isBinaryDigit (c : Char) : Bool := c == '0' || c == '1'

def integer : Reader Int
  | '0' :: 'x' :: t => basedInteger 16 (fun c => (hexDigit? c).isSome) t
  | '0' :: 'o' :: t => basedInteger 8 isOctalDigit t
  | '0' :: 'b' :: t => basedInteger 2 isBinaryDigit t
  | t =>
    let (negative, t) := sign t
    (unsignedDecimal t).bind fun (digits, t) =>
      let n : Int := numeral 10 digits
      (inBounds? (if negative then -n else n)).map fun i => (i, t)

/-! ## Floats -/

def exponent : Reader Int
  | c :: t =>
    if c = 'e' || c = 'E' then
      let (negative, t) := sign t
      (someDigits Char.isDigit t).map fun (digits, t) =>
        let n : Int := numeral 10 digits
        (if negative then -n else n, t)
    else none
  | [] => none

/-- A fraction part, as its digits, with an optional exponent part; or an exponent part alone. -/
def fractionAndExponent : Reader (Text × Int)
  | '.' :: t =>
    (someDigits Char.isDigit t).map fun (fraction, t) =>
      match exponent t with
      | some (e, t) => ((fraction, e), t)
      | none => ((fraction, 0), t)
  | t => (exponent t).map fun (e, t) => (([], e), t)

/-- A float in digits. One that would be positive infinity is refused. -/
def decimalFloat : Reader Binary64 := fun t =>
  let (negative, t) := sign t
  (unsignedDecimal t).bind fun (whole, t) =>
    (fractionAndExponent t).bind fun ((fraction, e), t) =>
      let x := Binary64.ofDecimal negative (numeral 10 (whole ++ fraction)) (e - fraction.length)
      if x = .infinite false then none else some (x, t)

def namedFloat : Reader Binary64 := fun t =>
  let (negative, t) := sign t
  match t with
  | 'i' :: 'n' :: 'f' :: t => some (.infinite negative, t)
  | 'n' :: 'a' :: 'n' :: t => some (.nan, t)
  | _ => none

def float : Reader Binary64 := fun t => decimalFloat t <|> namedFloat t

/-! ## Moments -/

def fixedDigits (width : Nat) : Reader Nat := fun t =>
  let digits := t.take width
  if digits.length = width && digits.all Char.isDigit then some (numeral 10 digits, t.drop width)
  else none

/-- A number of two digits between two bounds. -/
def twoDigits (least greatest : Nat) : Reader Nat := fun t =>
  (fixedDigits 2 t).filter fun (n, _) => least ≤ n && n ≤ greatest

def mark (c : Char) : Text → Option Text
  | [] => none
  | d :: t => if c = d then some t else none

def isLeapYear (year : Nat) : Bool := year % 4 == 0 && (year % 100 != 0 || year % 400 == 0)

def daysInMonth (year month : Nat) : Nat :=
  if month = 2 then if isLeapYear year then 29 else 28
  else if month ∈ [4, 6, 9, 11] then 30
  else 31

def date (t : Text) : Option Text := do
  let (year, t) ← fixedDigits 4 t
  let t ← mark '-' t
  let (month, t) ← twoDigits 1 12 t
  let t ← mark '-' t
  let (_, t) ← twoDigits 1 (daysInMonth year month) t
  return t

def skipFraction : Text → Text
  | '.' :: c :: t => if c.isDigit then t.dropWhile Char.isDigit else '.' :: c :: t
  | t => t

def time (t : Text) : Option Text := do
  let (_, t) ← twoDigits 0 23 t
  let t ← mark ':' t
  let (_, t) ← twoDigits 0 59 t
  let t ← mark ':' t
  let (_, t) ← twoDigits 0 60 t
  return skipFraction t

def hoursAndMinutes (t : Text) : Option Text := do
  let (_, t) ← twoDigits 0 23 t
  let t ← mark ':' t
  let (_, t) ← twoDigits 0 59 t
  return t

def offset : Text → Option Text
  | 'Z' :: t | 'z' :: t => some t
  | '+' :: t | '-' :: t => hoursAndMinutes t
  | t => some t

def afterDate : Text → Text
  | c :: t =>
    if c = 'T' || c = 't' || c = ' ' then ((time t).bind offset).getD (c :: t) else c :: t
  | [] => []

def moment : Reader Text := fun t =>
  ((date t).map afterDate <|> time t).map fun rest => (t.take (t.length - rest.length), rest)

end Bilingua.Toml
