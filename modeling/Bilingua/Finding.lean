import Bilingua.Keyword

/-!
# Findings

A finding says what is wrong and where. Its code fixes how grave it is and, for the findings that
a line alone can cause, its message; the messages about blocks also name the construct.
-/

namespace Bilingua

/-- A place in a document; lines and columns count from zero. -/
structure Position where
  line : Nat
  column : Nat
deriving DecidableEq, Repr

/-- The part of a document from `start` up to, but not including, `stop`. -/
structure Range where
  start : Position
  stop : Position
deriving DecidableEq, Repr

def Range.onLine (line : Nat) (span : Nat × Nat) : Range := ⟨⟨line, span.1⟩, ⟨line, span.2⟩⟩

inductive Severity where
  | error
  | warning
deriving DecidableEq, Repr

def Severity.text : Severity → Text
  | .error => "error".toList
  | .warning => "warning".toList

inductive Code where
  | unmatchedCloser
  | unclosedConstruct
  | malformedFunction
  | malformedConditional
  | malformedWhileLoop
  | malformedForLoop
  | malformedDeclaration
  | malformedAssignment
  | displayTerminator
  | unbalancedParentheses
  | strayElse
deriving DecidableEq, Repr

namespace Code

def text : Code → Text
  | .unmatchedCloser => "unmatched-closer".toList
  | .unclosedConstruct => "unclosed-construct".toList
  | .malformedFunction => "malformed-function".toList
  | .malformedConditional => "malformed-conditional".toList
  | .malformedWhileLoop => "malformed-while-loop".toList
  | .malformedForLoop => "malformed-for-loop".toList
  | .malformedDeclaration => "malformed-declaration".toList
  | .malformedAssignment => "malformed-assignment".toList
  | .displayTerminator => "display-terminator".toList
  | .unbalancedParentheses => "unbalanced-parentheses".toList
  | .strayElse => "stray-else".toList

def severity : Code → Severity
  | .displayTerminator | .unbalancedParentheses | .strayElse => .warning
  | _ => .error

/-- The code of an opener line that is not written as its construct asks. -/
def malformed : Construct → Code
  | .function => .malformedFunction
  | .conditional => .malformedConditional
  | .whileLoop => .malformedWhileLoop
  | .forLoop => .malformedForLoop

def message : Code → Text
  | .malformedFunction =>
    "Déclaration de fonction incorrecte : utilisez 'qui prend'/'that takes' ou terminez par un point.".toList
  | .malformedConditional =>
    "Condition Si/If incorrecte : la ligne doit se terminer par un point.".toList
  | .malformedWhileLoop =>
    "Boucle TantQue/While incorrecte : la ligne doit se terminer par un point.".toList
  | .malformedForLoop =>
    "Syntaxe Pour/For incorrecte : utilisez 'Pour ... de ... à ...' ou 'For ... from ... to ...' et terminez par un point.".toList
  | .malformedDeclaration =>
    "Déclaration de variable incorrecte : utilisez 'appelé'/'called' et terminez par un point.".toList
  | .malformedAssignment =>
    "Affectation incorrecte : utilisez 'à'/'to' et terminez par un point.".toList
  | .displayTerminator =>
    "Affichage sans terminaison : terminez par 'line.', 'continue.' ou '.'.".toList
  | .unbalancedParentheses => "Parenthèses non équilibrées.".toList
  | .strayElse => "Sinon/Else sans Si/If ouvert.".toList
  | .unmatchedCloser => "Fermeture de bloc sans ouverture correspondante.".toList
  | .unclosedConstruct => "Bloc non fermé.".toList

end Code

structure Finding where
  range : Range
  code : Code
  message : Text
deriving DecidableEq, Repr

namespace Finding

def severity (f : Finding) : Severity := f.code.severity

def isError (f : Finding) : Bool := f.severity == .error

def isWarning (f : Finding) : Bool := f.severity == .warning

def ofCode (range : Range) (code : Code) : Finding := ⟨range, code, code.message⟩

/-- A closer of `k` at a place where no block of `k` is open. -/
def unmatchedCloser (range : Range) (k : Construct) : Finding :=
  ⟨range, .unmatchedCloser, k.closerLabel ++ " sans ".toList ++ k.label ++ " correspondant.".toList⟩

/-- At the end of the document `count` blocks of `k` are open. -/
def unclosedConstruct (range : Range) (k : Construct) (count : Nat) : Finding :=
  ⟨range, .unclosedConstruct,
    Text.ofNat count ++ " bloc(s) ".toList ++ k.label ++ " non fermé(s). Fermez avec ".toList ++
      k.closer .french ++ " ou ".toList ++ k.closer .english⟩

end Finding

end Bilingua
