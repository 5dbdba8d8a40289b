import Bilingua.Proofs.Layout
import Bilingua.Proofs.RuleOrder

/-!
# Findings in order

A line can be out of place, be of a wrong shape and have unequal parentheses, but not all at once: a
closer has neither a shape nor parentheses, an else branch has no shape, and other lines have no
place. So a line causes at most two findings, and if two, the second is about parentheses
(`Validation.lineFindings_cases`). The findings of a document come line by line, all different, and
those of the blocks left open at the end.
-/

namespace Bilingua

/-- The findings that line `i` causes: those on the line but for blocks left open. -/
def Report.causedBy (r : Report) (i : Nat) : List Finding :=
  r.findings.filter fun f => f.code ≠ .unclosedConstruct ∧ f.range.start.line = i

/-- What the findings that a line of the kind causes may be. -/
structure LineKind.Causes (kind : LineKind) (fs : List Finding) : Prop where
  silent : kind = .blank ∨ kind = .comment ∨ kind = .plain → fs = []
  unrecognized : kind = .unrecognized → fs.map Finding.code = [.unbalancedParentheses]
  closer : ∀ k, kind = .closer k → fs.length ≤ 1
  length_le : fs.length ≤ 2
  errors_le : fs.countP Finding.isError ≤ 1
  parens_last : ∀ f ∈ fs.dropLast, f.code ≠ .unbalancedParentheses

/-! ## Lines by their kind -/

theorem LineKind.isCode_eq_false {kind : LineKind} :
    kind.isCode = false ↔ kind = .blank ∨ kind = .comment := by
  cases kind <;> simp [isCode]

namespace Line

variable {line : Text} {k : Construct}

theorem read_closer (h : classify line = .closer k) : read line = ⟨.closer k, none, true⟩ := by
  obtain ⟨l, hl⟩ : Fits line.trim (.closer k) := kindBy_eq_iff.1 h
  have hparens : parensBalanced (k.closer l) = true := by cases k <;> cases l <;> decide
  simp only [read, h, hl, hparens, defect, Bool.or_true]

theorem read_plain (h : classify line = .plain) : read line = ⟨.plain, none, true⟩ := by
  obtain ⟨_, hcount⟩ : Fits line.trim .plain := kindBy_eq_iff.1 h
  have hparens : parensBalanced line.trim = true := beq_iff_eq.2 hcount
  simp only [read, h, hparens, defect, Bool.or_true]

theorem read_unrecognized (h : classify line = .unrecognized) :
    read line = ⟨.unrecognized, none, false⟩ := by
  obtain ⟨_, hcount⟩ : Fits line.trim .unrecognized := kindBy_eq_iff.1 h
  have hparens : parensBalanced line.trim = false := beq_eq_false_iff_ne.2 hcount
  simp only [read, h, hparens, defect, LineKind.isCode, Bool.not_true, Bool.or_self]

end Line

namespace Validation

variable {check : ElseCheck} {n : Nesting} {i : Nat} {line : Text} {lines : List Text}
  {k : Construct} {f : Finding}

theorem lineFindings_closer (h : Line.classify line = .closer k) :
    lineFindings check n i line =
      if n.depth k = 0 then [.unmatchedCloser (.onLine i line.contentSpan) k] else [] := by
  simp only [lineFindings, Line.read_closer h, placement_closer, Option.map_none, Option.toList_none,
    List.append_nil, if_true]

theorem lineFindings_plain (h : Line.classify line = .plain) :
    lineFindings check n i line = [] := by
  unfold lineFindings
  rw [Line.read_plain h]
  rfl

theorem lineFindings_unrecognized (h : Line.classify line = .unrecognized) :
    lineFindings check n i line =
      [.ofCode (.onLine i line.contentSpan) .unbalancedParentheses] := by
  unfold lineFindings
  rw [Line.read_unrecognized h]
  rfl

/-! ## One line -/

def firstFindings (check : ElseCheck) (n : Nesting) (i : Nat) (line : Text) : List Finding :=
  placement check n (.onLine i line.contentSpan) (Line.classify line) ++
    ((Line.read line).defect.map (Finding.ofCode (.onLine i line.contentSpan))).toList

theorem lineFindings_eq_first (check : ElseCheck) (n : Nesting) (i : Nat) (line : Text) :
    lineFindings check n i line = firstFindings check n i line ++
      if (Line.read line).parensAgree then []
      else [.ofCode (.onLine i line.contentSpan) .unbalancedParentheses] := rfl

/-- Of its place and its shape, a line has only one that can be wrong. -/
theorem length_firstFindings_le (check : ElseCheck) (n : Nesting) (i : Nat) (line : Text) :
    (firstFindings check n i line).length ≤ 1 := by
  have hdefect : (Line.read line).defect = Line.defect (Line.classify line) line.trim := rfl
  unfold firstFindings
  rw [hdefect]
  cases Line.classify line with
  | closer k =>
    rw [placement_closer]
    split <;> simp [Line.defect]
  | elseBranch =>
    rw [placement_elseBranch]
    split <;> simp [Line.defect]
  | opener k | declaration | assignment | display =>
    simp only [placement, List.nil_append, Option.length_toList]
    split <;> omega
  | _ => simp [placement, Line.defect]

theorem code_of_mem_firstFindings (h : f ∈ firstFindings check n i line) :
    f.code ≠ .unbalancedParentheses := by
  rcases List.mem_append.1 h with h | h
  · rcases mem_placement h with ⟨k, _, _, rfl⟩ | ⟨_, _, _, rfl⟩
    · exact Code.noConfusion
    · exact Code.noConfusion
  · rw [Option.mem_toList, Option.map_eq_some_iff] at h
    obtain ⟨code, hcode, rfl⟩ := h
    intro (hparens : code = .unbalancedParentheses)
    have hshape := Line.isShape_of_defect hcode
    rw [hparens] at hshape
    cases hshape

theorem lineFindings_cases (check : ElseCheck) (n : Nesting) (i : Nat) (line : Text) :
    lineFindings check n i line = [] ∨ (∃ f, lineFindings check n i line = [f]) ∨
      ∃ f, f.code ≠ .unbalancedParentheses ∧ lineFindings check n i line =
        [f, .ofCode (.onLine i line.contentSpan) .unbalancedParentheses] := by
  have hcode : ∀ f ∈ firstFindings check n i line, f.code ≠ .unbalancedParentheses :=
    fun f => code_of_mem_firstFindings
  have hlength := length_firstFindings_le check n i line
  rw [lineFindings_eq_first]
  match hfirst : firstFindings check n i line with
  | [] =>
    split
    · exact .inl rfl
    · exact .inr (.inl ⟨_, rfl⟩)
  | [f] =>
    split
    · exact .inr (.inl ⟨f, rfl⟩)
    · exact .inr (.inr ⟨f, hcode f (by simp [hfirst]), rfl⟩)
  | _ :: _ :: _ =>
    rw [hfirst] at hlength
    simp at hlength

theorem causes_lineFindings (check : ElseCheck) (n : Nesting) (i : Nat) (line : Text) :
    (Line.classify line).Causes (lineFindings check n i line) where
  silent := by
    rintro (h | h | h)
    · exact lineFindings_of_idle (.inl h)
    · exact lineFindings_of_idle (.inr h)
    · exact lineFindings_plain h
  unrecognized := by
    intro h
    rw [lineFindings_unrecognized h]
    rfl
  closer := by
    intro k h
    rw [lineFindings_closer h]
    split <;> simp
  length_le := by
    rcases lineFindings_cases check n i line with h | ⟨f, h⟩ | ⟨f, _, h⟩ <;> simp [h]
  errors_le := by
    rcases lineFindings_cases check n i line with h | ⟨f, h⟩ | ⟨f, _, h⟩
    · simp [h]
    · rw [h]
      exact List.countP_le_length
    · have hwarning : (Finding.ofCode (.onLine i line.contentSpan) .unbalancedParentheses).isError =
          false := rfl
      simp only [h, List.countP_cons, List.countP_nil, hwarning, Bool.false_eq_true, if_false]
      split <;> omega
  parens_last := by
    rcases lineFindings_cases check n i line with h | ⟨f, h⟩ | ⟨f, hcode, h⟩
    · simp [h]
    · simp [h]
    · simpa [h] using hcode

/-! ## All lines -/

theorem pairwise_scan : (scan check i n lines).1.Pairwise fun f g =>
    f.line < g.line ∨ f.line = g.line ∧ f.code ≠ g.code := by
  induction lines generalizing i n with
  | nil => exact List.Pairwise.nil
  | cons line lines ih =>
    rw [scan_cons, List.pairwise_append]
    refine ⟨?_, ih, fun f hf g hg => ?_⟩
    · have hline : ∀ f ∈ lineFindings check n i line, f.line = i := fun f =>
        line_of_mem_lineFindings
      rcases lineFindings_cases check n i line with h | ⟨f, h⟩ | ⟨f, hcode, h⟩
      · rw [h]
        exact List.Pairwise.nil
      · rw [h]
        exact List.pairwise_singleton _ f
      · rw [h] at hline ⊢
        refine List.pairwise_pair.2 (.inr ⟨?_, hcode⟩)
        rw [hline f (by simp), hline _ (List.mem_cons_of_mem _ (List.mem_singleton_self _))]
    · have hfirst := line_of_mem_lineFindings hf
      have hlater := le_line_of_mem_scan hg
      omega

/-- Each line of code has at most one error, and other lines have none. -/
theorem countP_isError_scan_le (check : ElseCheck) (n : Nesting) (i : Nat) (lines : List Text) :
    (scan check i n lines).1.countP Finding.isError ≤
      lines.countP fun line => (Line.classify line).isCode := by
  induction lines generalizing i n with
  | nil => exact Nat.le_refl 0
  | cons line lines ih =>
    have hlater := ih (n.after (Line.classify line)) (i + 1)
    have hcauses := causes_lineFindings check n i line
    rw [scan_cons, List.countP_append, List.countP_cons]
    cases hcode : (Line.classify line).isCode with
    | true =>
      have := hcauses.errors_le
      simp only [if_true]
      omega
    | false =>
      rw [lineFindings_of_idle (LineKind.isCode_eq_false.1 hcode)]
      simpa using hlater

theorem causedBy_validate (h : lines[i]? = some line) :
    (validate check lines).causedBy i =
      lineFindings check (Nesting.none.afterAll ((Line.kinds lines).take i)) i line := by
  have hsplit : (validate check lines).causedBy i = ((validate check lines).findings.filter
      (fun f => f.code ≠ .unclosedConstruct)).filter (·.line = i) := by
    rw [List.filter_filter]
    refine List.filter_congr fun f _ => ?_
    rw [Bool.and_comm]
    exact Bool.decide_and _ _
  have hscan := filter_line_scan check .none 0 i lines
  rw [Nat.zero_add, h] at hscan
  rw [hsplit, filter_code_validate, hscan]
  rfl

/-! ## The end of the document -/

/-- The findings after the last line, one for each construct with open blocks, on this line. -/
def openFindings (lines : List Text) (n : Nesting) : List Finding :=
  (Construct.all.filter n.isOpen).map fun k => .unclosedConstruct
    (.onLine (lines.length - 1) (0, (lines.getLast?.getD []).length)) k (n.depth k)

theorem unclosedFindings_eq_openFindings (lines : List Text) :
    unclosedFindings (Nesting.none.afterAll (Line.kinds lines)) lines =
      openFindings lines (Nesting.none.afterAll (Line.kinds lines)) := by
  by_cases hnil : lines = []
  · rw [hnil]
    rfl
  · unfold openFindings
    rw [unclosedFindings_of_ne_nil hnil, Nesting.residue, List.map_map]
    rfl

theorem length_openFindings_le (lines : List Text) (n : Nesting) :
    (openFindings lines n).length ≤ 4 := by
  unfold openFindings
  rw [List.length_map]
  exact List.length_filter_le _ Construct.all

theorem line_of_mem_openFindings (h : f ∈ openFindings lines n) : f.line = lines.length - 1 := by
  obtain ⟨k, _, rfl⟩ := List.mem_map.1 h
  rfl

theorem eq_of_unclosedConstruct_eq {range : Range} {k k' : Construct} {m m' : Nat}
    (h : Finding.unclosedConstruct range k m = .unclosedConstruct range k' m') : k = k' := by
  have htells := congrArg (Finding.tellsOpen k') h
  rw [Finding.tellsOpen_unclosedConstruct, Finding.tellsOpen_unclosedConstruct] at htells
  simpa using htells

theorem nodup_openFindings (lines : List Text) (n : Nesting) : (openFindings lines n).Nodup := by
  have hall : Construct.all.Nodup := by decide
  refine (hall.filter n.isOpen).map ?_
  intro k k' h
  exact eq_of_unclosedConstruct_eq h

theorem findings_eq_append (check : ElseCheck) (lines : List Text) :
    (validate check lines).findings =
      (scan check 0 .none lines).1 ++ openFindings lines (validate check lines).residue := by
  rw [findings_validate, residue_validate, unclosedFindings_eq_openFindings]

theorem pairwise_line_findings (check : ElseCheck) (lines : List Text) :
    (validate check lines).findings.Pairwise fun f g => f.line ≤ g.line := by
  rw [findings_eq_append, List.pairwise_append]
  refine ⟨pairwise_scan.imp fun h => ?_, ?_, fun f hf g hg => ?_⟩
  · omega
  · refine List.pairwise_of_forall_mem_list fun f hf g hg => ?_
    rw [line_of_mem_openFindings hf, line_of_mem_openFindings hg]
  · have hlt := line_lt_of_mem_scan hf
    have hlast := line_of_mem_openFindings hg
    omega

theorem nodup_findings (check : ElseCheck) (lines : List Text) :
    (validate check lines).findings.Nodup := by
  rw [findings_eq_append, List.nodup_append]
  refine ⟨pairwise_scan.imp fun h heq => ?_, nodup_openFindings _ _, fun f hf g hg heq => ?_⟩
  · rw [heq] at h
    rcases h with h | h
    · exact Nat.lt_irrefl _ h
    · exact h.2 rfl
  · obtain ⟨k, _, rfl⟩ := List.mem_map.1 hg
    exact code_ne_of_mem_scan hf (congrArg Finding.code heq)

theorem errorCount_le (check : ElseCheck) (lines : List Text) :
    (validate check lines).errorCount ≤
      (lines.countP fun line => (Line.classify line).isCode) + 4 := by
  unfold Report.errorCount
  rw [findings_eq_append, List.countP_append]
  have hlines := countP_isError_scan_le check .none 0 lines
  have hend := length_openFindings_le lines (validate check lines).residue
  have hcount : (openFindings lines (validate check lines).residue).countP Finding.isError ≤
      (openFindings lines (validate check lines).residue).length := List.countP_le_length
  omega

/-- The findings of a document stand in the order of their lines, no two of them are equal, and those
of the blocks left open come at the end, one for each construct that has some, in the order of the
constructs and all on the last line. Apart from these, a line causes at most two findings, with at
most one error among them, and as its kind allows; so the errors are at most four more than the lines
of code. -/
theorem findings_in_order (check : ElseCheck) (lines : List Text) :
    (validate check lines).findings.Pairwise (fun f g => f.range.start.line ≤ g.range.start.line) ∧
    (∃ caused, (∀ f ∈ caused, f.code ≠ .unclosedConstruct) ∧
      (validate check lines).findings =
        caused ++ openFindings lines (validate check lines).residue) ∧
    (openFindings lines (validate check lines).residue).length ≤ 4 ∧
    (validate check lines).findings.Nodup ∧
    (∀ i line, lines[i]? = some line →
      (Line.classify line).Causes ((validate check lines).causedBy i)) ∧
    (validate check lines).errorCount ≤
      (lines.countP fun line => (Line.classify line).isCode) + 4 := by
  refine ⟨pairwise_line_findings check lines,
    ⟨(scan check 0 .none lines).1, fun f => code_ne_of_mem_scan, findings_eq_append check lines⟩,
    length_openFindings_le _ _, nodup_findings check lines, fun i line h => ?_,
    errorCount_le check lines⟩
  rw [causedBy_validate h]
  exact causes_lineFindings _ _ _ _

/-- Two findings on the first line, one on each of the others, and a block left open. -/
def crowdedDocument : List Text :=
  ["Si (x".toList, "  FinPour.".toList, "f(x".toList, "Sinon (".toList]

theorem crowdedDocument_in_order :
    (validate .warn crowdedDocument).findings.map (fun f => (f.line, f.code)) =
      [(0, .malformedConditional), (0, .unbalancedParentheses), (1, .unmatchedCloser),
        (2, .unbalancedParentheses), (3, .unbalancedParentheses), (3, .unclosedConstruct)] ∧
    crowdedDocument[0]? = some "Si (x".toList ∧
    ((validate .warn crowdedDocument).causedBy 0).countP Finding.isError ≤ 1 ∧
    (validate .warn crowdedDocument).errorCount ≤ 4 + 4 := by
  obtain ⟨_, _, _, _, hcauses, herrors⟩ := findings_in_order .warn crowdedDocument
  have hline : crowdedDocument[0]? = some "Si (x".toList := rfl
  exact ⟨by decide +kernel, hline, (hcauses 0 _ hline).errors_le,
    Nat.le_trans herrors (by decide +kernel)⟩

end Validation

end Bilingua
