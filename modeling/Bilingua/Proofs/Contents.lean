import Bilingua.Proofs.Findings
import Bilingua.Proofs.Relabelling
import Bilingua.Proofs.Trimming
import Mathlib.Data.List.Forall2

/-!
# Lines with the same content

A line is read by its trimmed text, and by where this stands if there is any. Lines that have both in
common (`Line.SameContent`) can stand for each other in a document, but for the last one, on whose
whole length the blocks left open are told: blanks at the ends of lines do not matter.
-/

namespace Bilingua

/-- The trimmed lines are the same, and unless they are empty they stand at the same columns. -/
structure Line.SameContent (line line' : Text) : Prop where
  trim : line.trim = line'.trim
  span : line.trim ≠ [] → line.contentSpan = line'.contentSpan

theorem Text.takeWhile_between {a b t : Text} (ha : ∀ c ∈ a, isBlank c = true) (ht : IsTrimmed t)
    (hne : t ≠ []) : (a ++ t ++ b).takeWhile isBlank = a := by
  cases t with
  | nil => exact absurd rfl hne
  | cons c t =>
    rw [List.append_assoc, List.takeWhile_append_of_pos ha, List.cons_append,
      List.takeWhile_cons_of_neg (by simp [ht.first c rfl]), List.append_nil]

namespace Line

variable {line line' b : Text}

theorem sameContent_append (line : Text) (hb : ∀ c ∈ b, Text.isBlank c = true) :
    SameContent line (line ++ b) := by
  obtain ⟨hline, hbefore, hafter⟩ := Text.contentSpan_split line
  have htrimmed := Text.isTrimmed_trim line
  have hpadded : line ++ b = line.take line.contentSpan.1 ++ line.trim ++
      (line.drop line.contentSpan.2 ++ b) := by
    rw [← List.append_assoc, ← hline]
  have hblank : ∀ c ∈ line.drop line.contentSpan.2 ++ b, Text.isBlank c = true := by
    intro c hc
    rcases List.mem_append.1 hc with hc | hc
    · exact hafter c hc
    · exact hb c hc
  have htrim : Text.trim (line ++ b) = line.trim := by
    rw [hpadded]
    exact htrimmed.trim_between hbefore hblank
  refine ⟨htrim.symm, fun hne => ?_⟩
  have hstart : line.takeWhile Text.isBlank = (line ++ b).takeWhile Text.isBlank := by
    rw [hpadded, Text.takeWhile_between hbefore htrimmed hne]
    conv_lhs => rw [hline]
    exact Text.takeWhile_between hbefore htrimmed hne
  unfold Text.contentSpan
  rw [htrim, hstart]

theorem SameContent.refl (line : Text) : SameContent line line := ⟨rfl, fun _ => rfl⟩

theorem SameContent.read (h : SameContent line line') : Line.read line = Line.read line' := by
  unfold Line.read Line.classify
  rw [h.trim]

theorem SameContent.classify (h : SameContent line line') :
    Line.classify line = Line.classify line' := congrArg Reading.kind h.read

theorem classify_of_trim_eq_nil (h : line.trim = []) : Line.classify line = .blank := by
  unfold Line.classify
  rw [h]
  rfl

/-- A line with any content has it at the same columns. -/
theorem SameContent.span_of_classify (h : SameContent line line')
    (hkind : Line.classify line ≠ .blank) : line.contentSpan = line'.contentSpan :=
  h.span fun hnil => hkind (classify_of_trim_eq_nil hnil)

end Line

namespace Validation

variable {check : ElseCheck} {n : Nesting} {i : Nat} {line line' : Text}
  {lines lines' : List Text}

theorem lineFindings_of_blank (h : line.trim = []) : lineFindings check n i line = [] := by
  unfold lineFindings Line.read
  rw [Line.classify_of_trim_eq_nil h]
  rfl

theorem lineFindings_of_sameContent (h : Line.SameContent line line') :
    lineFindings check n i line = lineFindings check n i line' := by
  by_cases hblank : line.trim = []
  · rw [lineFindings_of_blank hblank, lineFindings_of_blank (h.trim ▸ hblank)]
  · unfold lineFindings
    rw [h.read, h.span hblank]

theorem scan_of_sameContent (h : List.Forall₂ Line.SameContent lines lines') :
    scan check i n lines = scan check i n lines' := by
  induction h generalizing i n with
  | nil => rfl
  | cons hline _ ih =>
    rw [scan_cons, scan_cons, lineFindings_of_sameContent hline, hline.classify, ih]

theorem validate_of_sameContent (h : List.Forall₂ Line.SameContent lines lines')
    (hlast : lines.getLast? = lines'.getLast?) : validate check lines = validate check lines' := by
  unfold validate unclosedFindings
  rw [scan_of_sameContent h, hlast, h.length_eq]

end Validation

theorem Symbol.ofLine?_of_sameContent (i : Nat) {line line' : Text}
    (h : Line.SameContent line line') : Symbol.ofLine? i line = Symbol.ofLine? i line' := by
  by_cases hblank : Line.classify line = .blank
  · unfold Symbol.ofLine?
    rw [← h.classify, hblank]
  · have hspan := h.span_of_classify hblank
    unfold Symbol.ofLine? Symbol.ofFunction? Symbol.ofDeclaration? Symbol.onLine
    rw [h.classify, h.trim, hspan]

namespace Outline

variable {i : Nat} {line line' : Text} {lines lines' : List Text}

theorem Builder.step_of_sameContent (h : Line.SameContent line line') (b : Builder) :
    b.step i line = b.step i line' := by
  have hsymbol := Symbol.ofLine?_of_sameContent i h
  by_cases ho : Line.classify line = .opener .function
  · rw [step_opener ho, step_opener (h.classify ▸ ho), hsymbol]
  · by_cases hc : Line.classify line = .closer .function
    · rw [step_closer hc, step_closer (h.classify ▸ hc), h.span_of_classify (by simp [hc])]
    · rw [step_other ho hc, step_other (h.classify ▸ ho) (h.classify ▸ hc), hsymbol]

theorem Builder.scan_of_sameContent (h : List.Forall₂ Line.SameContent lines lines')
    (b : Builder) : b.scan i lines = b.scan i lines' := by
  induction h generalizing i b with
  | nil => rfl
  | cons hline _ ih => rw [scan, scan, step_of_sameContent hline, ih]

theorem ofLines_of_sameContent (h : List.Forall₂ Line.SameContent lines lines')
    (hlast : lines.getLast? = lines'.getLast?) : ofLines lines = ofLines lines' := by
  unfold ofLines
  rw [Builder.scan_of_sameContent h, hlast, h.length_eq]

end Outline

end Bilingua
