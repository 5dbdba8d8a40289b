import Bilingua.Proofs.Extraction

/-!
# Connectives in shapes and in symbols

The shape of a line asks for a connective anywhere in its content, as a whole word. A symbol is
taken from what follows the leading keyword: there a form of `appelé` must start a word and have a
name after blanks, and `qui prend` must be a whole word with parameters after it. A connective that
is found there is found in the whole line too. Where its word starts after a blank or the like, the
text before that does not matter; and it does not start right where the keyword ends, since a
keyword does not end before a letter (`Keyword.ne_nil_of_endsHere`).
-/

namespace Bilingua

open Text Cursor

variable {a b v w : Text} {ws : List Text}

/-- A word that starts with a character of keywords does not follow a leading keyword at once. -/
theorem Keyword.ne_nil_of_endsHere (hw : w.head?.any continues = true)
    (h : endsHere (a ++ (w ++ b)) = true) : a ≠ [] := by
  rintro rfl
  cases w with
  | nil => cases hw
  | cons c w =>
    have hcontinues : continues c = true := hw
    simp [endsHere, hcontinues] at h

/-- A whole word in a text is one whatever comes before the text, if it does not stand at its
start. -/
theorem Text.hasWord_prepend (hw : w ∈ ws) (hwhole : Whole a w b) (ha : a ≠ []) (v : Text) :
    hasWord ws (v ++ (a ++ (w ++ b))) = true :=
  hasWord_iff.2 ⟨v ++ a, w, b, hw, by simp only [List.append_assoc], hwhole.prepend ha v⟩

namespace Symbol

variable {i : Nat} {line form blanks name more detail : Text} {s : Symbol}

theorem worded_calledForm (h : form ∈ Line.calledForms) : Worded form := by
  have hall : ∀ form ∈ Line.calledForms,
      startsWord form = true ∧ startsWord form.reverse = true := by
    decide +kernel
  exact ⟨(hall form h).1, (hall form h).2⟩

theorem Called.whole (h : Called a form blanks name more) :
    Whole a form (blanks ++ (name ++ more)) :=
  ⟨h.first, (worded_calledForm h.mem_forms).atBoundary_last a
    (h.named.startsWord_eq_false h.spaced (name ++ more))⟩

theorem hasWord_of_ofDeclaration? (h : ofDeclaration? i line = some s) :
    line.trim.hasWord Line.calledForms = true := by
  obtain ⟨l, a, form, blanks, name, more, htrim, hends, hcalled, _, _⟩ :=
    ofDeclaration?_eq_some_iff.1 h
  have hletter : ∀ form ∈ Line.calledForms, form.head?.any Keyword.continues = true := by
    decide +kernel
  rw [htrim]
  exact hasWord_prepend hcalled.mem_forms hcalled.whole
    (Keyword.ne_nil_of_endsHere (hletter form hcalled.mem_forms) hends) _

theorem hasWord_of_ofFunction? (h : ofFunction? i line = some s)
    (hdetail : s.detail = some detail) :
    line.trim.hasWord Keyword.takesParameters.spellings = true := by
  obtain ⟨l, blanks, name, more, htrim, hends, _, rfl⟩ := ofFunction?_eq_some_iff.1 h
  obtain ⟨a, w, b, hw, hrest, hwhole, _, _⟩ := parameters?_eq_some hdetail
  have hletter : ∀ w ∈ Keyword.takesParameters.spellings,
      w.head?.any Keyword.continues = true := by
    decide +kernel
  rw [hrest] at htrim hends
  rw [htrim]
  exact hasWord_prepend hw hwhole (Keyword.ne_nil_of_endsHere (hletter w hw) hends) _

end Symbol

namespace Line

variable {i : Nat} {line detail : Text} {s : Symbol}

theorem defect_of_ofDeclaration? (hkind : classify line = .declaration)
    (h : Symbol.ofDeclaration? i line = some s) :
    (read line).defect =
      if line.trim.getLast? = some '.' then none else some .malformedDeclaration := by
  show defect (classify line) line.trim = _
  rw [hkind]
  simp only [defect, declarationShape, Symbol.hasWord_of_ofDeclaration? h, Bool.and_true,
    endsWithPeriod, beq_iff_eq]

theorem defect_of_ofFunction? (hkind : classify line = .opener .function)
    (h : Symbol.ofFunction? i line = some s) (hdetail : s.detail = some detail) :
    (read line).defect = none := by
  show defect (classify line) line.trim = none
  rw [hkind]
  simp only [defect, openerShape, Symbol.hasWord_of_ofFunction? h hdetail, Bool.true_or, if_true]

/-- Shapes and symbols agree on connectives. A declaration that gives a variable is wrong in its
shape only where it does not end with a period, and a function that has parameters never is. -/
theorem connectives_agree (i : Nat) (line : Text) (s : Symbol) :
    (classify line = .declaration → Symbol.ofDeclaration? i line = some s →
      ((read line).defect = some .malformedDeclaration ↔ line.trim.getLast? ≠ some '.') ∧
      (line.trim.getLast? = some '.' → (read line).defect = none)) ∧
    (classify line = .opener .function → Symbol.ofFunction? i line = some s → s.detail.isSome →
      (read line).defect = none) := by
  refine ⟨fun hkind hs => ?_, fun hkind hs hdetail => ?_⟩
  · rw [defect_of_ofDeclaration? hkind hs]
    by_cases hperiod : line.trim.getLast? = some '.'
    · simp [hperiod]
    · simp [hperiod]
  · obtain ⟨detail, hdetail⟩ := Option.isSome_iff_exists.1 hdetail
    exact defect_of_ofFunction? hkind hs hdetail

/-- A declaration that goes on after its period. Its first `appelé` is a part of a longer word. -/
def unendedDeclaration : Text := "  J'ai rappelé un nombre appelée x. Ou".toList

/-- A function with parameters and no period. Its first `qui prend` is not whole. -/
def unendedFunction : Text := "Crée une fonction nommée l'aqui prend qui prend a".toList

theorem unended_lines_agree :
    (∃ s, Symbol.ofDeclaration? 0 unendedDeclaration = some s ∧ s.name = "x".toList ∧
      classify unendedDeclaration = .declaration ∧
      (read unendedDeclaration).defect = some .malformedDeclaration) ∧
    ∃ s, Symbol.ofFunction? 0 unendedFunction = some s ∧ s.detail = some "a".toList ∧
      classify unendedFunction = .opener .function ∧ (read unendedFunction).defect = none := by
  have hdeclared : (Symbol.ofDeclaration? 0 unendedDeclaration).map Symbol.name =
      some "x".toList := by
    decide +kernel
  have hopened : (Symbol.ofFunction? 0 unendedFunction).map Symbol.detail =
      some (some "a".toList) := by
    decide +kernel
  have hdeclaration : classify unendedDeclaration = .declaration := by decide +kernel
  have hopener : classify unendedFunction = .opener .function := by decide +kernel
  obtain ⟨s, hs, hname⟩ := Option.map_eq_some_iff.1 hdeclared
  obtain ⟨s', hs', hdetail⟩ := Option.map_eq_some_iff.1 hopened
  refine ⟨⟨s, hs, hname, hdeclaration, ?_⟩, ⟨s', hs', hdetail, hopener, ?_⟩⟩
  · exact ((connectives_agree 0 unendedDeclaration s).1 hdeclaration hs).1.2 (by decide +kernel)
  · exact (connectives_agree 0 unendedFunction s').2 hopener hs' (by rw [hdetail]; rfl)

end Line

end Bilingua
