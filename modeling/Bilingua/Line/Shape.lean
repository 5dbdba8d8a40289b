import Bilingua.Line.Kind
import Bilingua.Text.Cursor

/-!
# Shapes of lines

Each kind of sentence has a shape: which connectives it must hold as whole words, and how it must
end. `Line.defect` is the code of a line whose shape is wrong. `Line.read` is all that a line says
by itself: its kind, its defect and whether its parentheses agree.
-/

namespace Bilingua.Line

def displayTerminators : List Text := ["line.".toList, "continue.".toList, ".".toList]

/-- `appelé` and `called`, also with a final `e`. -/
def calledForms : List Text :=
  Keyword.called.spellings ++ Keyword.called.spellings.map (· ++ ['e'])

/-- How an opener line must be written: a function names its parameters or ends its sentence, a
counting loop says from where to where, and the others just end with a period. -/
def openerShape : Construct → Text → Bool
  | .function, t => t.hasWord Keyword.takesParameters.spellings || t.endsWithPeriod
  | .conditional, t => t.endsWithPeriod
  | .whileLoop, t => t.endsWithPeriod
  | .forLoop, t =>
    t.endsWithPeriod && t.hasWordsInOrder Keyword.rangeFrom.spellings Keyword.rangeTo.spellings

def declarationShape (t : Text) : Bool := t.endsWithPeriod && t.hasWord calledForms

def assignmentShape (t : Text) : Bool := t.endsWithPeriod && t.hasWord Keyword.assignTo.spellings

def displayShape (t : Text) : Bool := displayTerminators.any t.endsWith

/-- The code that stands against a trimmed line of the kind, if its shape is wrong. -/
def defect (kind : LineKind) (t : Text) : Option Code :=
  match kind with
  | .opener k => if openerShape k t then none else some (.malformed k)
  | .declaration => if declarationShape t then none else some .malformedDeclaration
  | .assignment => if assignmentShape t then none else some .malformedAssignment
  | .display => if displayShape t then none else some .displayTerminator
  | _ => none

structure Reading where
  kind : LineKind
  defect : Option Code
  parensAgree : Bool
deriving DecidableEq, Repr

/-- The reading of a line. Parentheses in blank lines and comments do not matter. -/
def read (line : Text) : Reading :=
  let t := line.trim
  let kind := classify line
  ⟨kind, defect kind t, !kind.isCode || parensBalanced t⟩

end Bilingua.Line
