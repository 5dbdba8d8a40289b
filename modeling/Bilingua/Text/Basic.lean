/-!
# Texts

A text is the list of its characters (Unicode scalar values). Columns, spans and lengths count
characters, so positions in a text are positions in the list.
-/

namespace Bilingua

/-- A piece of source text or of output: its characters in order. -/
abbrev Text := List Char

namespace Text

/-- The text without a given start, or `none` if it does not start so. -/
def dropStart? : Text → Text → Option Text
  | t, [] => some t
  | [], _ :: _ => none
  | c :: t, a :: w => if a = c then dropStart? t w else none

def endsWith (t suffix : Text) : Bool := suffix.isSuffixOf t

def endsWithPeriod (t : Text) : Bool := t.getLast? == some '.'

/-- The text with one final period taken off, if it has one. -/
def dropPeriod (t : Text) : Text := if t.endsWithPeriod then t.dropLast else t

def nonempty? (t : Text) : Option Text := if t.isEmpty then none else some t

def ofNat (n : Nat) : Text := Nat.toDigits 10 n

def toNat? (t : Text) : Option Nat :=
  if t.isEmpty || !t.all Char.isDigit then none
  else some (t.foldl (fun n c => 10 * n + (c.toNat - '0'.toNat)) 0)

theorem dropStart?_eq_some {t w r : Text} : t.dropStart? w = some r ↔ t = w ++ r := by
  induction w generalizing t with
  | nil => simp [dropStart?]
  | cons a w ih =>
    cases t with
    | nil => simp [dropStart?]
    | cons c t =>
      by_cases h : a = c
      · simp [dropStart?, h, ih]
      · simp [dropStart?, h, Ne.symm h]

theorem isDigit_ofNat (n : Nat) : ∀ c ∈ ofNat n, c.isDigit = true := fun _ hc =>
  Nat.isDigit_of_mem_toDigits (by decide) (by decide) hc

theorem ofNat_inj {m n : Nat} (h : ofNat m = ofNat n) : m = n := by
  have hvalue : ∀ n, Nat.ofDigitChars 10 (ofNat n) 0 = n := fun n =>
    Nat.ofDigitChars_toDigits (by decide) (by decide)
  rw [← hvalue m, h, hvalue]

end Text

end Bilingua
