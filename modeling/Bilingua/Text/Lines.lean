import Bilingua.Text.Basic

/-!
# Lines of a document

A document is cut after each line break: a line feed, a carriage return, the pair of both (one
break), a vertical tab, a form feed, or one of the breaks U+0085, U+2028 and U+2029. Of a piece's
own break only a final line feed, with the carriage return before it, is taken off; the other
breaks stay at the end of the line. The empty document has no lines, and any other one more line
than it has breaks.
-/

namespace Bilingua.Text

/-- A character that ends a line by itself. The carriage return is not among them: it may be the
first half of a break. -/
def isSimpleBreak (c : Char) : Bool :=
  c == '\n' || c == '\x0b' || c == '\x0c' || c == '\u0085' || c == '\u2028' || c == '\u2029'

def consFirst (c : Char) : List Text → List Text
  | [] => [[c]]
  | s :: ss => (c :: s) :: ss

/-- The pieces of a text, each but the last with the break that ends it. -/
def segments : Text → List Text
  | [] => [[]]
  | '\r' :: '\n' :: t => ['\r', '\n'] :: segments t
  | c :: t => if c = '\r' || isSimpleBreak c then [c] :: segments t else consFirst c (segments t)

/-- A piece without a final line feed, or carriage return and line feed. -/
def dropNewline (s : Text) : Text :=
  match s.reverse with
  | '\n' :: '\r' :: r => r.reverse
  | '\n' :: r => r.reverse
  | _ => s

def lines (t : Text) : List Text := if t.isEmpty then [] else (segments t).map dropNewline

end Bilingua.Text
