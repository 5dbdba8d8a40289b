import Bilingua.Finding
import Bilingua.Text.Blank

/-!
# Kinds of lines

A line's kind is decided on its trimmed text by the first of eleven rules that accepts it. A line
that no rule accepts is a plain statement if its parentheses are equal in number, and otherwise
not recognised.
-/

namespace Bilingua

inductive LineKind where
  | blank
  | comment
  | opener (construct : Construct)
  | closer (construct : Construct)
  | elseBranch
  | declaration
  | assignment
  | display
  | plain
  | unrecognized
deriving DecidableEq, Repr

namespace LineKind

/-- The line says something to the interpreter. -/
def isCode : LineKind → Bool
  | .blank | .comment => false
  | _ => true

/-- The lines after this one stand deeper. -/
def raises : LineKind → Bool
  | .opener _ | .elseBranch => true
  | _ => false

/-- The line itself stands less deep than the ones before it. -/
def lowers : LineKind → Bool
  | .closer _ | .elseBranch => true
  | _ => false

end LineKind

namespace Line

def parensBalanced (t : Text) : Bool := t.count '(' == t.count ')'

/-- The construct that a trimmed line closes: the line is exactly one of its closers. -/
def closed? (t : Text) : Option Construct :=
  Construct.all.find? fun k => Language.all.any fun l => t == k.closer l

/-- A rule gives the kind of the trimmed lines that it accepts. -/
abbrev Rule := Text → Option LineKind

def Rule.leading (k : Keyword) (kind : LineKind) : Rule := fun t =>
  if k.starts t then some kind else none

def Rule.blank : Rule := fun t => if t.isEmpty then some .blank else none

def Rule.comment : Rule := fun t => if (t.dropStart? "//".toList).isSome then some .comment else none

def Rule.opener (k : Construct) : Rule := .leading (.opener k) (.opener k)

def Rule.closer : Rule := fun t => (closed? t).map .closer

def rules : List Rule :=
  [.blank, .comment,
    .opener .function, .opener .conditional, .opener .whileLoop, .opener .forLoop,
    .closer,
    .leading .elseBranch .elseBranch, .leading .declaration .declaration,
    .leading .assignment .assignment, .leading .display .display]

def remainingKind (t : Text) : LineKind := if parensBalanced t then .plain else .unrecognized

def kindBy (table : List Rule) (t : Text) : LineKind :=
  (table.findSome? fun rule => rule t).getD (remainingKind t)

def classify (line : Text) : LineKind := kindBy rules line.trim

end Line

end Bilingua
