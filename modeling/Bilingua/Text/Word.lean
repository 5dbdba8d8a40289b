import Bilingua.Text.Basic
import Bilingua.Text.Alphabetic
import Bilingua.Text.Mark
import Bilingua.Text.Numeric
import Bilingua.Text.Recent

/-!
# Word characters

Two classes decide where a word ends. A keyword at the start of a line must not be followed by an
alphanumeric character; a connective inside a line must stand between word boundaries. The classes
differ: a superscript two is alphanumeric but no word character, a combining mark the other way
round. Nor are they of one edition: what Unicode 17 added may be alphanumeric, but is no word
character.
-/

namespace Bilingua.Text

def isAlphanumeric (c : Char) : Bool := isAlphabetic c || isDecimalDigit c || isOtherNumber c

/-- The code points of category `Pc`. -/
def connectorRanges : List CodeRange :=
  [(0x5F, 0x5F), (0x203F, 0x2040), (0x2054, 0x2054), (0xFE33, 0xFE34), (0xFE4D, 0xFE4F),
   (0xFF3F, 0xFF3F)]

def isConnector (c : Char) : Bool := inRanges connectorRanges c.toNat

/-- The zero-width joiner or non-joiner. -/
def isJoinControl (c : Char) : Bool := inRanges [(0x200C, 0x200D)] c.toNat

def isWordChar (c : Char) : Bool :=
  (isAlphabetic c || isMark c || isDecimalDigit c || isConnector c || isJoinControl c) &&
    !isRecent c

end Bilingua.Text
