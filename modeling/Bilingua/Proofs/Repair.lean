import Bilingua.Proofs.FindingOrder

/-!
# Closing what is open

A report ends with the blocks that a document leaves open: how many of each construct, and how to
close them. Lines that close as many, in any order and either language, cause no findings of their own
as long as blocks are open (`Validation.scan_closings`), and after them none is left open.
-/

namespace Bilingua

/-- A line that closes a block: a closer of the construct in one of the languages, between blanks. -/
structure ClosingLine where
  construct : Construct
  language : Language
  before : Text
  after : Text
  blank_before : before.all Text.isBlank = true
  blank_after : after.all Text.isBlank = true

namespace ClosingLine

def text (x : ClosingLine) : Text := x.before ++ x.construct.closer x.language ++ x.after

theorem trim_text (x : ClosingLine) : x.text.trim = x.construct.closer x.language :=
  Line.isTrimmed_closer.trim_between (List.all_eq_true.1 x.blank_before)
    (List.all_eq_true.1 x.blank_after)

theorem classify_text (x : ClosingLine) : Line.classify x.text = .closer x.construct := by
  apply Line.kindBy_eq_iff.2
  exact ⟨x.language, x.trim_text⟩

end ClosingLine

namespace Validation

variable {check : ElseCheck} {n : Nesting} {i : Nat} {closings : List ClosingLine}

theorem lineFindings_closing {x : ClosingLine} (h : n.depth x.construct ≠ 0) :
    lineFindings check n i x.text = [] := by
  rw [lineFindings_closer x.classify_text, if_neg h]

/-- Closing lines that are no more than the open blocks cause no findings, and close as many. -/
theorem scan_closings (check : ElseCheck) (i : Nat)
    (h : ∀ k, closings.countP (·.construct = k) ≤ n.depth k) :
    (scan check i n (closings.map ClosingLine.text)).1 = [] ∧
    ∀ k, (n.afterAll (Line.kinds (closings.map ClosingLine.text))).depth k +
      closings.countP (·.construct = k) = n.depth k := by
  induction closings generalizing i n with
  | nil => exact ⟨rfl, fun k => rfl⟩
  | cons x closings ih =>
    have hcount : ∀ k, (x :: closings).countP (·.construct = k) =
        closings.countP (·.construct = k) + if x.construct = k then 1 else 0 := by
      intro k
      simp only [List.countP_cons, decide_eq_true_eq]
    have hopen : n.depth x.construct ≠ 0 := by
      have hle := h x.construct
      rw [hcount, if_pos rfl] at hle
      omega
    have hdepth : ∀ k, (n.after (Line.classify x.text)).depth k +
        (if x.construct = k then 1 else 0) = n.depth k := by
      intro k
      simp only [x.classify_text, Nesting.depth_after, reduceCtorEq, if_false, LineKind.closer.injEq]
      split
      · next hk =>
        rw [hk] at hopen
        omega
      · rfl
    have hle : ∀ k, closings.countP (·.construct = k) ≤ (n.after (Line.classify x.text)).depth k := by
      intro k
      have hle := h k
      have hk := hdepth k
      rw [hcount] at hle
      omega
    obtain ⟨hscan, hafter⟩ := ih (i + 1) hle
    rw [List.map_cons, scan_cons, lineFindings_closing hopen, hscan, Line.kinds_cons,
      Nesting.afterAll_cons]
    refine ⟨rfl, fun k => ?_⟩
    have hk := hdepth k
    have hlater := hafter k
    rw [hcount]
    omega

theorem filter_unclosed_validate (check : ElseCheck) (lines : List Text) :
    (validate check lines).findings.filter (·.code = .unclosedConstruct) =
      openFindings lines (validate check lines).residue := by
  have hscan : (scan check 0 .none lines).1.filter (·.code = .unclosedConstruct) = [] :=
    List.filter_eq_nil_iff.2 fun f hf => by simpa using code_ne_of_mem_scan hf
  have hend : (openFindings lines (validate check lines).residue).filter
      (·.code = .unclosedConstruct) = openFindings lines (validate check lines).residue := by
    refine List.filter_eq_self.2 fun f hf => ?_
    obtain ⟨k, _, rfl⟩ := List.mem_map.1 hf
    rfl
  rw [findings_eq_append, List.filter_append, hscan, hend, List.nil_append]

/-- The advice at the end of a report repairs the document. The findings of blocks left open name
their numbers and closers; with so many closing lines after the document, in any order, in either
language and with any blanks, nothing is left open and all other findings stay as they are. -/
theorem advice_repairs (check : ElseCheck) (lines : List Text) (closings : List ClosingLine)
    (h : ∀ k, closings.countP (·.construct = k) = (validate check lines).residue.depth k) :
    (validate check lines).findings.filter (·.code = .unclosedConstruct) =
      openFindings lines (validate check lines).residue ∧
    (validate check (lines ++ closings.map ClosingLine.text)).residue.isBalanced = true ∧
    (validate check (lines ++ closings.map ClosingLine.text)).findings =
      (validate check lines).findings.filter (·.code ≠ .unclosedConstruct) := by
  rw [residue_validate] at h
  obtain ⟨hscan, hafter⟩ := scan_closings check (0 + lines.length) fun k => (h k).le
  have hbalanced : ((Nesting.none.afterAll (Line.kinds lines)).afterAll
      (Line.kinds (closings.map ClosingLine.text))).isBalanced = true := by
    refine Nesting.isBalanced_iff.2 fun k => ?_
    have hk := hafter k
    rw [h k] at hk
    omega
  refine ⟨filter_unclosed_validate check lines, ?_, ?_⟩
  · rw [residue_validate, Line.kinds_append, Nesting.afterAll_append]
    exact hbalanced
  · rw [filter_code_validate, findings_validate, scan_append, hscan, Line.kinds_append,
      Nesting.afterAll_append, Nesting.eq_none_of_isBalanced hbalanced, unclosedFindings_none,
      List.append_nil, List.append_nil]

/-- Two conditionals and a loop without its period are left open, after a closer of nothing. -/
def unfinishedDocument : List Text :=
  ["FinSi.".toList, "Si x.".toList, "  Pour i de 1 à 2".toList, "  If y.".toList]

/-- A closer for each of them, the loop in between. -/
def unfinishedClosings : List ClosingLine :=
  [⟨.conditional, .english, "\t".toList, " ".toList, by decide, by decide⟩,
    ⟨.forLoop, .french, [], [], by decide, by decide⟩,
    ⟨.conditional, .french, "  ".toList, [], by decide, by decide⟩]

theorem unfinishedDocument_repaired :
    unfinishedClosings.map ClosingLine.text =
      ["\tEndIf. ".toList, "FinPour.".toList, "  FinSi.".toList] ∧
    ((validate .warn unfinishedDocument).findings.filter (·.code = .unclosedConstruct)).map
        Finding.message =
      ["2 bloc(s) Si/If non fermé(s). Fermez avec FinSi. ou EndIf.".toList,
        "1 bloc(s) Pour/For non fermé(s). Fermez avec FinPour. ou EndFor.".toList] ∧
    (∀ k, unfinishedClosings.countP (·.construct = k) =
      (validate .warn unfinishedDocument).residue.depth k) ∧
    (validate .warn (unfinishedDocument ++ unfinishedClosings.map ClosingLine.text)).findings.map
        Finding.code = [.unmatchedCloser, .malformedForLoop] := by
  have hcounts : ∀ k, unfinishedClosings.countP (·.construct = k) =
      (validate .warn unfinishedDocument).residue.depth k := by
    intro k
    cases k <;> decide +kernel
  obtain ⟨hadvice, _, hfindings⟩ := advice_repairs .warn unfinishedDocument unfinishedClosings hcounts
  rw [hadvice, hfindings]
  exact ⟨by decide +kernel, by decide +kernel, hcounts, by decide +kernel⟩

end Validation

end Bilingua
