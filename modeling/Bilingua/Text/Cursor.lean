import Bilingua.Text.Word

/-!
# Positions in a text, and whole words

A cursor is a position in a text: what was read, nearest character first, and what lies ahead. It
stands at a word boundary if exactly one of its two neighbours is a word character. A whole word is
a literal with a boundary at each end.

`Cursor.onward` lists the positions from a cursor on, so a search for the leftmost match is the
first success along it.
-/

namespace Bilingua.Text

/-- A position in a text. -/
structure Cursor where
  /-- The text before the position, last character first. -/
  behind : Text
  ahead : Text

namespace Cursor

def start (t : Text) : Cursor := ⟨[], t⟩

def before (p : Cursor) : Text := p.behind.reverse

def startsWord : Text → Bool
  | [] => false
  | c :: _ => isWordChar c

/-- Exactly one of the two neighbours is a word character. -/
def atBoundary (p : Cursor) : Bool := startsWord p.behind != startsWord p.ahead

def past? (w : Text) (p : Cursor) : Option Cursor :=
  (p.ahead.dropStart? w).map fun rest => ⟨w.reverseAux p.behind, rest⟩

/-- The position after a whole word that lies ahead, the first of the given ones that fits. -/
def pastWord? (ws : List Text) (p : Cursor) : Option Cursor :=
  if p.atBoundary then ws.findSome? fun w => (p.past? w).filter atBoundary else none

def onwardFrom : Text → Text → List Cursor
  | behind, [] => [⟨behind, []⟩]
  | behind, c :: t => ⟨behind, c :: t⟩ :: onwardFrom (c :: behind) t

def onward (p : Cursor) : List Cursor := onwardFrom p.behind p.ahead

/-- The positions of `onwardFrom` that are reached without crossing a line feed. -/
def sameLineFrom : Text → Text → List Cursor
  | behind, [] => [⟨behind, []⟩]
  | behind, c :: t =>
    ⟨behind, c :: t⟩ :: if c = '\n' then [] else sameLineFrom (c :: behind) t

def sameLine (p : Cursor) : List Cursor := sameLineFrom p.behind p.ahead

end Cursor

def hasWord (ws : List Text) (t : Text) : Bool :=
  (Cursor.start t).onward.any fun p => (p.pastWord? ws).isSome

/-- A whole word of `first`, then at least one character of the same line, then a whole word of
`second`. -/
def hasWordsInOrder (first second : List Text) (t : Text) : Bool :=
  (Cursor.start t).onward.any fun p =>
    match p.pastWord? first with
    | none => false
    | some q => (q.sameLine.drop 1).any fun r => (r.pastWord? second).isSome

end Bilingua.Text
