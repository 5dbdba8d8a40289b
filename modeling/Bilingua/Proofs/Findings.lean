import Bilingua.Proofs.Depth

/-!
# Findings, line by line

What validation reports falls apart by lines. `Validation.filter_line_scan` gives the findings of
one line: they are `lineFindings` under the nesting that the lines before it leave. The findings
after the last line are of a code of their own, so those of any other code come from the lines.
-/

namespace Bilingua

def Finding.line (f : Finding) : Nat := f.range.start.line

/-- The codes of lines with a wrong shape. -/
def Code.isShape : Code → Bool
  | .malformedFunction | .malformedConditional | .malformedWhileLoop | .malformedForLoop => true
  | .malformedDeclaration | .malformedAssignment | .displayTerminator => true
  | _ => false

theorem Line.isShape_of_defect {kind : LineKind} {t : Text} {code : Code}
    (h : Line.defect kind t = some code) : code.isShape = true := by
  cases kind with
  | opener k =>
    simp only [Line.defect] at h
    split at h
    · cases h
    · cases h
      cases k <;> rfl
  | declaration | assignment | display =>
    simp only [Line.defect] at h
    split at h
    · cases h
    · cases h
      rfl
  | _ => cases h

namespace Validation

variable {check : ElseCheck} {n : Nesting} {i i' j : Nat} {line line' : Text} {lines : List Text}
  {f : Finding} {code : Code}

/-! ## One line -/

theorem placement_closer {range : Range} {k : Construct} :
    placement check n range (.closer k) =
      if n.depth k = 0 then [.unmatchedCloser range k] else [] := by
  simp only [placement, Nesting.isOpen, bne_iff_ne, ne_eq, ite_not]

theorem placement_elseBranch {range : Range} :
    placement check n range .elseBranch =
      if check = .warn ∧ n.depth .conditional = 0 then [.ofCode range .strayElse] else [] := by
  simp [placement, Nesting.isOpen]

theorem mem_placement {range : Range} {kind : LineKind} (h : f ∈ placement check n range kind) :
    (∃ k, kind = .closer k ∧ n.depth k = 0 ∧ f = .unmatchedCloser range k) ∨
      kind = .elseBranch ∧ check = .warn ∧ n.depth .conditional = 0 ∧
        f = .ofCode range .strayElse := by
  cases kind with
  | closer k =>
    rw [placement_closer] at h
    split at h
    · next hk => exact .inl ⟨k, rfl, hk, List.mem_singleton.1 h⟩
    · cases h
  | elseBranch =>
    rw [placement_elseBranch] at h
    split at h
    · next hc => exact .inr ⟨rfl, hc.1, hc.2, List.mem_singleton.1 h⟩
    · cases h
  | _ => cases h

/-- Of the place of a line, the findings take nothing but their range from it. -/
theorem map_placement {α : Type} {g g' : Finding → α} {range range' : Range}
    (hg : ∀ code message, g ⟨range, code, message⟩ = g' ⟨range', code, message⟩)
    (kind : LineKind) :
    (placement check n range kind).map g = (placement check n range' kind).map g' := by
  cases kind with
  | closer k =>
    rw [placement_closer, placement_closer]
    split
    · exact congrArg (fun x => [x]) (hg _ _)
    · rfl
  | elseBranch =>
    rw [placement_elseBranch, placement_elseBranch]
    split
    · exact congrArg (fun x => [x]) (hg _ _)
    · rfl
  | _ => rfl

/-- What does not tell two places apart does not tell apart the findings of lines that read alike and
stand there. -/
theorem map_lineFindings {α : Type} (check : ElseCheck) (n : Nesting) {g g' : Finding → α}
    (hread : Line.read line = Line.read line')
    (hg : ∀ code message, g ⟨.onLine i line.contentSpan, code, message⟩ =
      g' ⟨.onLine i' line'.contentSpan, code, message⟩) :
    (lineFindings check n i line).map g = (lineFindings check n i' line').map g' := by
  simp only [lineFindings, hread, List.map_append, map_placement hg]
  congr 1
  · congr 1
    cases (Line.read line').defect with
    | none => rfl
    | some c => exact congrArg (fun x => [x]) (hg _ _)
  · split
    · rfl
    · exact congrArg (fun x => [x]) (hg _ _)

theorem mem_lineFindings :
    f ∈ lineFindings check n i line ↔
      f ∈ placement check n (.onLine i line.contentSpan) (Line.classify line) ∨
      (∃ c, (Line.read line).defect = some c ∧ f = .ofCode (.onLine i line.contentSpan) c) ∨
      (Line.read line).parensAgree = false ∧
        f = .ofCode (.onLine i line.contentSpan) .unbalancedParentheses := by
  have hkind : (Line.read line).kind = Line.classify line := rfl
  simp only [lineFindings, hkind, List.mem_append, Option.mem_toList, Option.map_eq_some_iff,
    or_assoc]
  cases (Line.read line).parensAgree <;> simp [eq_comm]

theorem line_of_mem_lineFindings (h : f ∈ lineFindings check n i line) : f.line = i := by
  rcases mem_lineFindings.1 h with hp | ⟨c, _, rfl⟩ | ⟨_, rfl⟩
  · rcases mem_placement hp with ⟨k, _, _, rfl⟩ | ⟨_, _, _, rfl⟩ <;> rfl
  · rfl
  · rfl

theorem filter_code_lineFindings (hs : code.isShape = false)
    (hp : code ≠ .unbalancedParentheses) :
    (lineFindings check n i line).filter (·.code = code) =
      (placement check n (.onLine i line.contentSpan) (Line.classify line)).filter
        (·.code = code) := by
  have hkind : (Line.read line).kind = Line.classify line := rfl
  have hdefect : (((Line.read line).defect.map
      (Finding.ofCode (.onLine i line.contentSpan))).toList).filter (·.code = code) = [] := by
    rw [List.filter_eq_nil_iff]
    intro f hf hcode
    rw [Option.mem_toList, Option.map_eq_some_iff] at hf
    obtain ⟨c, hc, rfl⟩ := hf
    have hshape := Line.isShape_of_defect hc
    rw [show c = code from of_decide_eq_true hcode, hs] at hshape
    cases hshape
  have hparens : (if (Line.read line).parensAgree then []
      else [Finding.ofCode (.onLine i line.contentSpan) .unbalancedParentheses]).filter
        (·.code = code) = [] := by
    rw [List.filter_eq_nil_iff]
    intro f hf hcode
    split at hf
    · cases hf
    · rw [List.mem_singleton.1 hf] at hcode
      exact hp (of_decide_eq_true hcode).symm
  simp only [lineFindings, hkind, List.filter_append, hdefect, hparens, List.append_nil]

/-! ## All lines -/

@[simp]
theorem scan_nil : scan check i n [] = ([], n) := rfl

@[simp]
theorem scan_cons : scan check i n (line :: lines) =
    (lineFindings check n i line ++ (scan check (i + 1) (n.after (Line.classify line)) lines).1,
      (scan check (i + 1) (n.after (Line.classify line)) lines).2) := rfl

theorem scan_snd : (scan check i n lines).2 = n.afterAll (Line.kinds lines) := by
  induction lines generalizing i n with
  | nil => rfl
  | cons line lines ih => simp [ih]

theorem le_line_of_mem_scan (h : f ∈ (scan check i n lines).1) : i ≤ f.line := by
  induction lines generalizing i n with
  | nil => cases h
  | cons line lines ih =>
    rw [scan_cons, List.mem_append] at h
    rcases h with h | h
    · rw [line_of_mem_lineFindings h]
    · have := ih h
      omega

/-- The findings on one line are those that it causes after the lines before it. -/
theorem filter_line_scan (check : ElseCheck) (n : Nesting) (i j : Nat) (lines : List Text) :
    (scan check i n lines).1.filter (·.line = i + j) =
      lines[j]?.elim []
        (lineFindings check (n.afterAll ((Line.kinds lines).take j)) (i + j)) := by
  induction lines generalizing i n j with
  | nil => simp
  | cons line lines ih =>
    rw [scan_cons, List.filter_append]
    cases j with
    | zero =>
      have hhere : (lineFindings check n i line).filter (·.line = i + 0) =
          lineFindings check n i line :=
        List.filter_eq_self.2 fun f hf => by simpa using line_of_mem_lineFindings hf
      have hlater : (scan check (i + 1) (n.after (Line.classify line)) lines).1.filter
          (·.line = i + 0) = [] :=
        List.filter_eq_nil_iff.2 fun f hf => by
          have := le_line_of_mem_scan hf
          simp
          omega
      rw [hhere, hlater]
      simp
    | succ j =>
      have hhere : (lineFindings check n i line).filter (·.line = i + (j + 1)) = [] :=
        List.filter_eq_nil_iff.2 fun f hf => by
          have := line_of_mem_lineFindings hf
          simp
          omega
      have hlater := ih (n.after (Line.classify line)) (i + 1) j
      rw [show i + 1 + j = i + (j + 1) by omega] at hlater
      rw [hhere, hlater]
      simp

theorem mem_scan :
    f ∈ (scan check i n lines).1 ↔ ∃ j line, lines[j]? = some line ∧
      f ∈ lineFindings check (n.afterAll ((Line.kinds lines).take j)) (i + j) line := by
  constructor
  · intro h
    obtain ⟨j, hj⟩ := Nat.exists_eq_add_of_le (le_line_of_mem_scan h)
    have hf : f ∈ (scan check i n lines).1.filter (·.line = i + j) :=
      List.mem_filter.2 ⟨h, by simpa using hj⟩
    rw [filter_line_scan] at hf
    cases hline : lines[j]? with
    | none => simp [hline] at hf
    | some line => exact ⟨j, line, hline, by simpa [hline] using hf⟩
  · rintro ⟨j, line, hline, hf⟩
    have hmem : f ∈ (scan check i n lines).1.filter (·.line = i + j) := by
      rw [filter_line_scan, hline]
      exact hf
    exact (List.mem_filter.1 hmem).1

/-! ## The end of the document -/

theorem code_of_mem_unclosedFindings (h : f ∈ unclosedFindings n lines) :
    f.code = .unclosedConstruct := by
  unfold unclosedFindings at h
  split at h
  · cases h
  · obtain ⟨p, _, rfl⟩ := List.mem_map.1 h
    rfl

theorem residue_validate (check : ElseCheck) (lines : List Text) :
    (validate check lines).residue = Nesting.none.afterAll (Line.kinds lines) := scan_snd

theorem findings_validate (check : ElseCheck) (lines : List Text) :
    (validate check lines).findings = (scan check 0 .none lines).1 ++
      unclosedFindings (Nesting.none.afterAll (Line.kinds lines)) lines := by
  rw [← scan_snd]
  rfl

end Validation

end Bilingua
