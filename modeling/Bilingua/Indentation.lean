import Bilingua.Line.Kind

/-!
# Indentation

Indentation is a number of columns. It is measured from the leading spaces and tabs of a line, a
tab going on to the next multiple of the tab size. A new line stands one tab size deeper after a
line that raises, and one less deep if it lowers itself.

Columns never exceed `maxColumn`: additions stop there, and subtractions stop at zero.
-/

namespace Bilingua.Indentation

/-- The greatest column, the greatest number of 64 bits. -/
def maxColumn : Nat := 18446744073709551615

def add (a b : Nat) : Nat := min (a + b) maxColumn

/-- The column after the leading spaces and tabs, when the ones before take `column` columns. -/
def measureFrom (tab : Nat) : Nat → Text → Nat
  | column, ' ' :: t => measureFrom tab (add column 1) t
  | column, '\t' :: t => measureFrom tab (add column (tab - column % tab)) t
  | column, _ => column

/-- The indentation of a line. A tab size of zero counts as one. -/
def measure (line : Text) (tabSize : Nat) : Nat := measureFrom (max tabSize 1) 0 line

/-- The column of a new line that starts with `current`, after a line with text `previous` that
stands at column `indent`. -/
def next (previous : Text) (indent : Nat) (current : Text) (tabSize : Nat) : Nat :=
  let raised := if (Line.classify previous).raises then add indent tabSize else indent
  if (Line.classify current).lowers then raised - tabSize else raised

def spaces (column : Nat) : Text := List.replicate column ' '

end Bilingua.Indentation
