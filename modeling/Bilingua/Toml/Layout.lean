import Bilingua.Text.Basic

/-!
# Layout of TOML texts

Spaces and tabs separate what stands on one line, a line ends with a line feed or with a carriage
return and a line feed, and a comment runs to the end of its line. Control characters other than
the tab stand nowhere.

A reader takes what it looks for from the start of a text and gives back the rest.
-/

namespace Bilingua.Toml

/-- What takes a value from the start of a text, or finds none there. -/
abbrev Reader (α : Type) := Text → Option (α × Text)

def isSpace (c : Char) : Bool := c == ' ' || c == '\t'

def skipSpaces (t : Text) : Text := t.dropWhile isSpace

/-- A character that comments and strings may hold as it is. -/
def isVisible (c : Char) : Bool :=
  c == '\t' || (0x20 ≤ c.toNat && c.toNat ≤ 0x7E) || 0x80 ≤ c.toNat

def newline? : Text → Option Text
  | '\n' :: t => some t
  | '\r' :: '\n' :: t => some t
  | _ => none

def skipComment : Text → Text
  | '#' :: t => t.dropWhile isVisible
  | t => t

/-- The rest after a line of which only spaces and a comment are left. -/
def lineEnd? (t : Text) : Option Text :=
  match skipComment (skipSpaces t) with
  | [] => some []
  | rest => newline? rest

/-- The rest after spaces, line ends and comments, between the elements of an array. A comment
must end with its line. -/
def skipGap (inComment : Bool) : Text → Option Text
  | [] => if inComment then none else some []
  | c :: t =>
    if c = '\n' then skipGap false t
    else if c = '\r' then if t.head? = some '\n' then skipGap false t else none
    else if inComment then if isVisible c then skipGap true t else none
    else if isSpace c then skipGap false t
    else if c = '#' then skipGap true t
    else some (c :: t)

end Bilingua.Toml
