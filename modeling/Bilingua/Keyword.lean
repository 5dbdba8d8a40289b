import Bilingua.Language
import Bilingua.Text.Word

/-!
# Constructs and keywords

Four constructs open a block and are closed by a line of their own. Keywords either lead a line
(openers, `Sinon`, declarations, assignments, displays) or connect its parts (`qui prend`,
`appelé`, `de … à …`).

A line starts with a keyword if it starts with one of its spellings and the word ends there: the
next character, if any, is neither alphanumeric nor an underscore or an apostrophe.
-/

namespace Bilingua

/-- A block that is opened by one line and closed by another. -/
inductive Construct where
  | function
  | conditional
  | whileLoop
  | forLoop
deriving DecidableEq, Repr

namespace Construct

/-- The constructs in the order of reports. -/
def all : List Construct := [.function, .conditional, .whileLoop, .forLoop]

theorem mem_all (k : Construct) : k ∈ all := by cases k <;> decide

theorem filter_all_eq (k : Construct) : all.filter (· = k) = [k] := by cases k <;> rfl

def index : Construct → Nat
  | .function => 0
  | .conditional => 1
  | .whileLoop => 2
  | .forLoop => 3

def opener : Construct → Language → Text
  | .function, .french => "Crée une fonction nommée".toList
  | .function, .english => "Create a function named".toList
  | .conditional, .french => "Si".toList
  | .conditional, .english => "If".toList
  | .whileLoop, .french => "TantQue".toList
  | .whileLoop, .english => "While".toList
  | .forLoop, .french => "Pour".toList
  | .forLoop, .english => "For".toList

/-- The line that closes the construct, its period included. -/
def closer : Construct → Language → Text
  | .function, .french => "FinFonction.".toList
  | .function, .english => "EndFunction.".toList
  | .conditional, .french => "FinSi.".toList
  | .conditional, .english => "EndIf.".toList
  | .whileLoop, .french => "FinTantQue.".toList
  | .whileLoop, .english => "EndWhile.".toList
  | .forLoop, .french => "FinPour.".toList
  | .forLoop, .english => "EndFor.".toList

def label : Construct → Text
  | .function => "Fonction/Function".toList
  | .conditional => "Si/If".toList
  | .whileLoop => "TantQue/While".toList
  | .forLoop => "Pour/For".toList

def closerLabel : Construct → Text
  | .function => "FinFonction/EndFunction".toList
  | .conditional => "FinSi/EndIf".toList
  | .whileLoop => "FinTantQue/EndWhile".toList
  | .forLoop => "FinPour/EndFor".toList

end Construct

inductive Keyword where
  | opener (construct : Construct)
  | elseBranch
  | declaration
  | assignment
  | display
  | takesParameters
  | called
  | assignTo
  | rangeFrom
  | rangeTo
deriving DecidableEq, Repr

namespace Keyword

def spelling : Keyword → Language → Text
  | .opener k, l => k.opener l
  | .elseBranch, .french => "Sinon".toList
  | .elseBranch, .english => "Else".toList
  | .declaration, .french => "J'ai".toList
  | .declaration, .english => "I have".toList
  | .assignment, .french => "Assigne".toList
  | .assignment, .english => "Set".toList
  | .display, .french => "Affiche".toList
  | .display, .english => "Display".toList
  | .takesParameters, .french => "qui prend".toList
  | .takesParameters, .english => "that takes".toList
  | .called, .french => "appelé".toList
  | .called, .english => "called".toList
  | .assignTo, .french => "à".toList
  | .assignTo, .english => "to".toList
  | .rangeFrom, .french => "de".toList
  | .rangeFrom, .english => "from".toList
  | .rangeTo, .french => "à".toList
  | .rangeTo, .english => "to".toList

def spellings (k : Keyword) : List Text := Language.all.map k.spelling

/-- A character that would continue a leading keyword. -/
def continues (c : Char) : Bool := Text.isAlphanumeric c || c == '_' || c == '\''

def endsHere : Text → Bool
  | [] => true
  | c :: _ => !continues c

def afterSpelling? (w t : Text) : Option Text := (t.dropStart? w).filter endsHere

/-- The text after the keyword, if the text starts with it. -/
def after? (k : Keyword) (t : Text) : Option Text :=
  Language.all.findSome? fun l => afterSpelling? (k.spelling l) t

def starts (k : Keyword) (t : Text) : Bool := (k.after? t).isSome

/-- What a writer may begin a line with, in one language: openers, statements, then closers. -/
def offeredIn (l : Language) : List Text :=
  Construct.all.map (·.opener l) ++
    [Keyword.declaration, .assignment, .display, .elseBranch].map (·.spelling l) ++
    Construct.all.map (·.closer l)

def offered (p : Preference) : List Text := p.languages.flatMap offeredIn

end Keyword

end Bilingua
