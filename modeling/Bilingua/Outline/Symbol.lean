import Bilingua.Line.Shape

/-!
# Symbols

A symbol is a named thing that one line introduces: a function, by its opener, or a variable, by
its declaration. The name of a function comes right after the opener's keyword, and its detail is
the text of its parameters; the name of a variable comes after `appelé` or `called`, and its
detail is the description before that word.
-/

namespace Bilingua

inductive SymbolKind where
  | function
  | variable
deriving DecidableEq, Repr

structure Symbol where
  name : Text
  /-- The parameters of a function, or the description of a variable. -/
  detail : Option Text
  kind : SymbolKind
  /-- All lines that belong to the symbol. -/
  range : Range
  selection : Range
deriving DecidableEq, Repr

namespace Symbol

open Text

def isNameChar (c : Char) : Bool := !isBlank c && !".,;:()".toList.contains c

/-- The name that a text starts with after blanks, and the number of those blanks. -/
def leadingName? (t : Text) : Option (Nat × Text) :=
  (nonempty? (t.trimStart.takeWhile isNameChar)).map fun name =>
    ((t.takeWhile isBlank).length, name)

/-- The parameters in the text after a function's keyword. They follow the first whole-word
connective after which, blanks apart, no line feed comes. -/
def parameters? (rest : Text) : Option Text :=
  let found := (Cursor.start rest).onward.findSome? fun p =>
    (p.pastWord? Keyword.takesParameters.spellings).bind fun q =>
      let t := q.ahead.trimStart
      if t.contains '\n' then none else some t
  found.bind fun t => nonempty? t.dropPeriod.trim

/-- The name after a form of `appelé` that lies ahead, and the number of characters of the text
before the name. Blanks stand between the two. -/
def nameAfterCalled? (p : Cursor) : Option (Nat × Text) :=
  if p.atBoundary then
    Line.calledForms.findSome? fun form =>
      (p.past? form).bind fun q =>
        (leadingName? q.ahead).bind fun (skipped, name) =>
          if skipped = 0 then none else some (q.behind.length + skipped, name)
  else none

/-- The symbol with a name that stands on line `i`, `offset` characters into the line's content. -/
def onLine (i : Nat) (line : Text) (kind : SymbolKind) (offset : Nat) (name : Text)
    (detail : Option Text) : Symbol :=
  let span := line.contentSpan
  let column := span.1 + offset
  { name, detail, kind
    range := .onLine i span
    selection := .onLine i (column, column + name.length) }

def ofFunction? (i : Nat) (line : Text) : Option Symbol :=
  ((Keyword.opener .function).after? line.trim).bind fun rest =>
    (leadingName? rest).map fun (skipped, name) =>
      onLine i line .function (line.trim.length - rest.length + skipped) name (parameters? rest)

def ofDeclaration? (i : Nat) (line : Text) : Option Symbol :=
  (Keyword.declaration.after? line.trim).bind fun rest =>
    (Cursor.start rest).onward.findSome? fun p =>
      (nameAfterCalled? p).map fun (offset, name) =>
        onLine i line .variable (line.trim.length - rest.length + offset) name
          (nonempty? p.before.trim)

def endingAt (s : Symbol) (stop : Position) : Symbol := { s with range := ⟨s.range.start, stop⟩ }

end Symbol

end Bilingua
