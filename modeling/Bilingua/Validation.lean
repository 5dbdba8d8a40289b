import Bilingua.Line.Shape
import Bilingua.Nesting

/-!
# Validation

A document is read once, line by line, with the nesting of the blocks open so far. Each line gives
the findings it causes itself: a closer without its opener, an else branch outside of any
conditional (if that is checked), a wrong shape, unequal parentheses. After the last line, each
construct with open blocks gives one finding more, on the whole of the last line.
-/

namespace Bilingua

/-- Whether an else branch outside of any conditional is reported. -/
inductive ElseCheck where
  | unchecked
  | warn
deriving DecidableEq, Repr

structure Report where
  findings : List Finding
  residue : Nesting

namespace Report

def errorCount (r : Report) : Nat := r.findings.countP Finding.isError

def warningCount (r : Report) : Nat := r.findings.countP Finding.isWarning

def hasErrors (r : Report) : Bool := r.findings.any Finding.isError

end Report

namespace Validation

/-- The finding about the place of a line among the open blocks. -/
def placement (check : ElseCheck) (n : Nesting) (range : Range) : LineKind → List Finding
  | .closer k => if n.isOpen k then [] else [.unmatchedCloser range k]
  | .elseBranch =>
    if check = .warn && !n.isOpen .conditional then [.ofCode range .strayElse] else []
  | _ => []

/-- The findings of line `i` when the blocks of `n` are open before it. -/
def lineFindings (check : ElseCheck) (n : Nesting) (i : Nat) (line : Text) : List Finding :=
  let range := Range.onLine i line.contentSpan
  let reading := Line.read line
  placement check n range reading.kind ++
    (reading.defect.map (Finding.ofCode range)).toList ++
    if reading.parensAgree then [] else [.ofCode range .unbalancedParentheses]

/-- The findings of the lines from line `i` on, and the nesting after them. -/
def scan (check : ElseCheck) : Nat → Nesting → List Text → List Finding × Nesting
  | _, n, [] => ([], n)
  | i, n, line :: lines =>
    let (later, final) := scan check (i + 1) (n.after (Line.classify line)) lines
    (lineFindings check n i line ++ later, final)

def unclosedFindings (n : Nesting) (lines : List Text) : List Finding :=
  match lines.getLast? with
  | none => []
  | some last =>
    n.residue.map fun (k, count) =>
      .unclosedConstruct (.onLine (lines.length - 1) (0, last.length)) k count

end Validation

open Validation in
def validate (check : ElseCheck) (lines : List Text) : Report :=
  let (findings, residue) := scan check 0 .none lines
  ⟨findings ++ unclosedFindings residue lines, residue⟩

end Bilingua
