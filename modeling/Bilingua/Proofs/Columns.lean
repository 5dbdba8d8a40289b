import Bilingua.Proofs.Findings
import Bilingua.Proofs.Relabelling
import Mathlib.Data.List.Forall2

/-!
# Reports and outlines without columns

Columns are the only thing that a report or an outline takes from the exact writing of a line. Lines
that agree in their reading and in what follows their leading keywords (`Line.Agree`) can stand for
each other: the findings stay the same but for their columns (`Validation.gist_validate`), and so do
the symbols and their nesting (`Outline.dropColumns_ofLines`).
-/

namespace Bilingua

/-- The lines say the same, and the same follows their leading keyword. -/
structure Line.Agree (line line' : Text) : Prop where
  read : Line.read line = Line.read line'
  after : ∀ k ∈ Keyword.leading, k.after? line.trim = k.after? line'.trim

theorem Line.Agree.refl (line : Text) : Line.Agree line line := ⟨rfl, fun _ _ => rfl⟩

theorem Line.Agree.classify {line line' : Text} (h : Line.Agree line line') :
    Line.classify line = Line.classify line' := congrArg Reading.kind h.read

theorem Line.map_read_of_agree {lines lines' : List Text}
    (h : List.Forall₂ Line.Agree lines lines') : lines.map Line.read = lines'.map Line.read := by
  induction h with
  | nil => rfl
  | cons hline _ ih => rw [List.map_cons, List.map_cons, hline.read, ih]

theorem Line.kinds_of_agree {lines lines' : List Text} (h : List.Forall₂ Line.Agree lines lines') :
    Line.kinds lines = Line.kinds lines' := by
  have hkinds : ∀ lines, Line.kinds lines = (lines.map Line.read).map Reading.kind := by
    intro lines
    rw [List.map_map]
    rfl
  rw [hkinds, hkinds, Line.map_read_of_agree h]

theorem getLast?_cases {lines lines' : List Text} (h : lines.length = lines'.length) :
    lines = [] ∧ lines' = [] ∨
      ∃ last last', lines.getLast? = some last ∧ lines'.getLast? = some last' := by
  cases lines with
  | nil => exact .inl ⟨rfl, List.eq_nil_of_length_eq_zero h.symm⟩
  | cons x xs =>
    cases lines' with
    | nil => cases h
    | cons y ys => exact .inr ⟨_, _, List.getLast?_cons, List.getLast?_cons⟩

/-! ## Findings -/

/-- What a finding says apart from its columns: its line, severity, code and message. -/
def Finding.gist (f : Finding) : Nat × Severity × Code × Text :=
  (f.range.start.line, f.severity, f.code, f.message)

namespace Validation

variable {check : ElseCheck} {n : Nesting} {i : Nat} {line line' : Text}
  {lines lines' : List Text}

theorem gist_lineFindings (h : Line.Agree line line') :
    (lineFindings check n i line).map Finding.gist =
      (lineFindings check n i line').map Finding.gist :=
  map_lineFindings check n h.read fun _ _ => rfl

theorem gist_scan (h : List.Forall₂ Line.Agree lines lines') :
    (scan check i n lines).1.map Finding.gist = (scan check i n lines').1.map Finding.gist := by
  induction h generalizing i n with
  | nil => rfl
  | cons hline _ ih =>
    rw [scan_cons, scan_cons, List.map_append, List.map_append, gist_lineFindings hline,
      hline.classify, ih]

theorem gist_unclosedFindings (h : lines.length = lines'.length) :
    (unclosedFindings n lines).map Finding.gist =
      (unclosedFindings n lines').map Finding.gist := by
  unfold unclosedFindings
  rcases getLast?_cases h with ⟨rfl, rfl⟩ | ⟨last, last', hlast, hlast'⟩
  · rfl
  · rw [hlast, hlast']
    simp only [h, List.map_map]
    rfl

theorem gist_validate (h : List.Forall₂ Line.Agree lines lines') :
    (validate check lines).findings.map Finding.gist =
      (validate check lines').findings.map Finding.gist := by
  rw [findings_validate, findings_validate, List.map_append, List.map_append, gist_scan h,
    Line.kinds_of_agree h, gist_unclosedFindings h.length_eq]

end Validation

/-! ## Symbols -/

def Position.dropColumn (p : Position) : Position := ⟨p.line, 0⟩

def Range.dropColumns (r : Range) : Range := ⟨r.start.dropColumn, r.stop.dropColumn⟩

def Symbol.dropColumns (s : Symbol) : Symbol :=
  { s with range := s.range.dropColumns, selection := s.selection.dropColumns }

namespace SymbolTree

mutual

def dropColumns : SymbolTree → SymbolTree
  | .node s cs => .node s.dropColumns (dropColumnsAll cs)

def dropColumnsAll : List SymbolTree → List SymbolTree
  | [] => []
  | t :: ts => t.dropColumns :: dropColumnsAll ts

end

mutual

theorem dropColumns_eq (t : SymbolTree) : t.dropColumns = t.mapSymbols Symbol.dropColumns := by
  match t with
  | .node s cs => rw [dropColumns, mapSymbols, dropColumnsAll_eq cs]

theorem dropColumnsAll_eq (ts : List SymbolTree) :
    dropColumnsAll ts = mapSymbolsAll Symbol.dropColumns ts := by
  match ts with
  | [] => rfl
  | t :: ts => rw [dropColumnsAll, mapSymbolsAll, dropColumns_eq t, dropColumnsAll_eq ts]

end

end SymbolTree

namespace Symbol

variable {i : Nat} {line line' : Text}

theorem dropColumns_ofLine? (h : Line.Agree line line') :
    (ofLine? i line).map dropColumns = (ofLine? i line').map dropColumns :=
  map_ofLine? h.classify h.after fun _ _ _ _ _ => rfl

theorem movesEnds_dropColumns : MovesEnds dropColumns Position.dropColumn := fun _ _ => rfl

end Symbol

namespace Outline

namespace Builder

variable {b b' : Builder} {i : Nat} {line line' : Text} {lines lines' : List Text}

def dropColumns (b : Builder) : Builder :=
  ⟨b.stack.map (Option.map SymbolTree.dropColumns), b.finished.map SymbolTree.dropColumns⟩

theorem dropColumns_eq (b : Builder) : b.dropColumns = b.mapSymbols Symbol.dropColumns := by
  have htrees : SymbolTree.dropColumns = SymbolTree.mapSymbols Symbol.dropColumns :=
    funext SymbolTree.dropColumns_eq
  rw [dropColumns, mapSymbols, htrees]

theorem dropColumns_closeMany (b : Builder) (stop : Position) (m : Nat) :
    (closeMany stop m b).dropColumns = closeMany stop.dropColumn m b.dropColumns := by
  rw [dropColumns_eq, dropColumns_eq, mapSymbols_closeMany Symbol.movesEnds_dropColumns]

/-- A line has the same effect as one that agrees with it, but for columns. -/
theorem dropColumns_step (hb : b.dropColumns = b'.dropColumns) (h : Line.Agree line line') :
    (b.step i line).dropColumns = (b'.step i line').dropColumns := by
  rw [dropColumns_eq, dropColumns_eq] at hb ⊢
  exact mapSymbols_step Symbol.movesEnds_dropColumns Symbol.movesEnds_dropColumns hb h.classify
    (Symbol.dropColumns_ofLine? h) rfl

theorem dropColumns_scan (i : Nat) (hb : b.dropColumns = b'.dropColumns)
    (h : List.Forall₂ Line.Agree lines lines') :
    (scan i b lines).dropColumns = (scan i b' lines').dropColumns := by
  induction h generalizing i b b' with
  | nil => exact hb
  | cons hline _ ih => exact ih (i + 1) (dropColumns_step hb hline)

end Builder

theorem dropColumns_ofLines {lines lines' : List Text} (h : List.Forall₂ Line.Agree lines lines') :
    (ofLines lines).symbols.map SymbolTree.dropColumns =
      (ofLines lines').symbols.map SymbolTree.dropColumns := by
  have hscan := Builder.dropColumns_scan 0 (b := .empty) rfl h
  have hstack : (Builder.empty.scan 0 lines).stack.length =
      (Builder.empty.scan 0 lines').stack.length := by
    have := congrArg (fun b : Builder => b.stack.length) hscan
    simpa [Builder.dropColumns] using this
  unfold ofLines
  rcases getLast?_cases h.length_eq with ⟨rfl, rfl⟩ | ⟨last, last', hlast, hlast'⟩
  · rfl
  · have hend := Builder.dropColumns_closeMany (Builder.empty.scan 0 lines)
      ⟨lines.length - 1, last.length⟩ (Builder.empty.scan 0 lines).stack.length
    have hend' := Builder.dropColumns_closeMany (Builder.empty.scan 0 lines')
      ⟨lines'.length - 1, last'.length⟩ (Builder.empty.scan 0 lines').stack.length
    have hsame : (Position.mk (lines.length - 1) last.length).dropColumn =
        (Position.mk (lines'.length - 1) last'.length).dropColumn := by
      rw [h.length_eq]
      rfl
    rw [hscan, hsame] at hend
    rw [← hstack] at hend'
    rw [hlast, hlast']
    simp only [← hstack]
    exact congrArg Builder.finished (hend.trans hend'.symm)

end Outline

end Bilingua
