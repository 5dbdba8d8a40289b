import Bilingua.Text.Basic
import Bilingua.Text.CodeRange

/-!
# Blanks and trimming

A blank is a character with the property `White_Space`. A line's content is what is left of it
after trimming, and its span says where the content stands on the line.
-/

namespace Bilingua.Text

/-- The code points with the property `White_Space`. -/
def blankRanges : List CodeRange :=
  [(0x9, 0xD), (0x20, 0x20), (0x85, 0x85), (0xA0, 0xA0), (0x1680, 0x1680), (0x2000, 0x200A),
   (0x2028, 0x2029), (0x202F, 0x202F), (0x205F, 0x205F), (0x3000, 0x3000)]

def isBlank (c : Char) : Bool := inRanges blankRanges c.toNat

def trimStart (t : Text) : Text := t.dropWhile isBlank

def trimEnd (t : Text) : Text := (t.reverse.dropWhile isBlank).reverse

def trim (t : Text) : Text := trimEnd (trimStart t)

/-- The columns at which the trimmed text of a line starts and ends. On a line of blanks both
stand at its end. -/
def contentSpan (line : Text) : Nat × Nat :=
  let start := (line.takeWhile isBlank).length
  (start, start + line.trim.length)

end Bilingua.Text
