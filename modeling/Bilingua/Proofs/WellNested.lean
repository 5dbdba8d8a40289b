import Bilingua.Proofs.Balance

/-!
# Documents without errors

A document has no errors exactly if the blocks of each construct, taken by themselves, are balanced
and no line has a shape that is an error. Blocks of different constructs may overlap: only those of
one construct are matched with each other. The documents of the grammar `WellNested`, where blocks
lie within one another, are balanced in every construct.
-/

namespace Bilingua

/-- No closer of `k` comes before its opener, and no opener is left over. -/
structure Balanced (k : Construct) (kinds : List LineKind) : Prop where
  covered : ∀ p, p <+: kinds → p.count (.closer k) ≤ p.count (.opener k)
  settled : kinds.count (.opener k) = kinds.count (.closer k)

/-- The lines that open or close a block of `k`, by their kinds. -/
def endsOf (k : Construct) (kinds : List LineKind) : List LineKind :=
  kinds.filter fun kind => kind = .opener k ∨ kind = .closer k

def Line.Acceptable (line : Text) : Prop :=
  ∀ code, (Line.read line).defect = some code → code.severity ≠ .error

/-- A document whose blocks lie within one another. -/
inductive WellNested : List Text → Prop where
  | empty : WellNested []
  | append {xs ys : List Text} : WellNested xs → WellNested ys → WellNested (xs ++ ys)
  | line {line : Text} :
      (∀ k, Line.classify line ≠ .opener k ∧ Line.classify line ≠ .closer k) → WellNested [line]
  | block {k : Construct} {first last : Text} {body : List Text} :
      Line.classify first = .opener k → WellNested body → Line.classify last = .closer k →
      WellNested (first :: body ++ [last])

/-! ## Balanced kinds -/

section

variable {k c : Construct} {kind : LineKind} {kinds xs ys : List LineKind}

theorem balanced_endsOf_iff : Balanced k (endsOf k kinds) ↔ Balanced k kinds := by
  have ho : ∀ xs : List LineKind, (endsOf k xs).count (.opener k) = xs.count (.opener k) :=
    fun xs => List.count_filter (by simp)
  have hc : ∀ xs : List LineKind, (endsOf k xs).count (.closer k) = xs.count (.closer k) :=
    fun xs => List.count_filter (by simp)
  constructor
  · intro h
    refine ⟨fun p hp => ?_, by rw [← ho, ← hc]; exact h.settled⟩
    rw [← ho, ← hc]
    exact h.covered _ (hp.filter _)
  · intro h
    refine ⟨fun p hp => ?_, by rw [ho, hc]; exact h.settled⟩
    obtain ⟨q, hq, rfl⟩ := List.prefix_filter_iff.1 hp
    have := h.covered q hq
    rw [← ho, ← hc] at this
    exact this

theorem balanced_nil : Balanced k [] := by
  refine ⟨fun p hp => ?_, rfl⟩
  rw [List.prefix_nil.1 hp]
  exact Nat.le_refl _

theorem Balanced.append (hx : Balanced k xs) (hy : Balanced k ys) : Balanced k (xs ++ ys) := by
  constructor
  · intro p hp
    rcases List.prefix_or_prefix_of_prefix hp (List.prefix_append xs ys) with h | ⟨q, rfl⟩
    · exact hx.covered p h
    · have := hy.covered q ((List.prefix_append_right_inj xs).1 hp)
      have := hx.settled
      simp only [List.count_append]
      omega
  · simp only [List.count_append, hx.settled, hy.settled]

theorem balanced_singleton (ho : kind ≠ .opener k) (hc : kind ≠ .closer k) :
    Balanced k [kind] := by
  constructor
  · intro p hp
    rcases List.prefix_cons_iff.1 hp with rfl | ⟨t, rfl, ht⟩
    · simp
    · rw [List.prefix_nil.1 ht]
      simp [ho, hc]
  · simp [ho, hc]

theorem Balanced.block (h : Balanced k xs) :
    Balanced k (.opener c :: xs ++ [.closer c]) := by
  constructor
  · intro p hp
    rw [List.cons_append, List.prefix_cons_iff] at hp
    rcases hp with rfl | ⟨q, rfl, hq⟩
    · simp
    · rcases List.prefix_concat_iff.1 hq with rfl | hq
      · have := h.settled
        simp [List.count_cons, List.count_append]
        omega
      · have := h.covered q hq
        simp [List.count_cons]
        omega
  · have := h.settled
    simp [List.count_cons, List.count_append]
    omega

end

theorem WellNested.balanced {lines : List Text} (h : WellNested lines) (k : Construct) :
    Balanced k (Line.kinds lines) := by
  induction h with
  | empty => exact balanced_nil
  | append _ _ ihx ihy =>
    rw [Line.kinds_append]
    exact ihx.append ihy
  | line h => exact balanced_singleton (h k).1 (h k).2
  | block hfirst _ hlast ih =>
    rw [Line.kinds_append, Line.kinds_cons, hfirst, Line.kinds_cons, hlast]
    exact ih.block

theorem Report.hasErrors_eq_false {r : Report} :
    r.hasErrors = false ↔ ∀ f ∈ r.findings, f.code.severity ≠ .error := by
  simp [Report.hasErrors, Finding.isError, Finding.severity]

namespace Validation

variable {check : ElseCheck} {lines : List Text} {f : Finding}

/-! ## Where errors come from -/

theorem mem_findings_of_defect (check : ElseCheck) {line : Text} {code : Code} (hline : line ∈ lines)
    (hdefect : (Line.read line).defect = some code) :
    ∃ range, Finding.ofCode range code ∈ (validate check lines).findings := by
  obtain ⟨j, hj⟩ := List.getElem?_of_mem hline
  refine ⟨.onLine (0 + j) line.contentSpan, ?_⟩
  rw [findings_validate]
  exact List.mem_append_left _
    (mem_scan.2 ⟨j, line, hj, mem_lineFindings.2 (.inr (.inl ⟨code, hdefect, rfl⟩))⟩)

/-- An error is an unmatched closer, a block left open, or the shape of a line. -/
theorem error_cases (hf : f ∈ (validate check lines).findings)
    (herror : f.code.severity = .error) :
    (∃ k, 0 < (validate check lines).unmatched (Line.kinds lines) k) ∨
      (∃ k, (validate check lines).residue.depth k ≠ 0) ∨
      ∃ line ∈ lines, ¬ Line.Acceptable line := by
  have hmem := hf
  rw [findings_validate, List.mem_append] at hmem
  rcases hmem with hscan | hend
  · obtain ⟨j, line, hline, hlf⟩ := mem_scan.1 hscan
    rcases mem_lineFindings.1 hlf with hp | ⟨c, hc, rfl⟩ | ⟨_, rfl⟩
    · rcases mem_placement hp with ⟨k, hk, _, rfl⟩ | ⟨_, _, _, rfl⟩
      · refine .inl ⟨k, List.countP_pos_iff.2 ⟨_, hf, decide_eq_true ⟨rfl, ?_⟩⟩⟩
        rw [Line.kinds_getElem?]
        simpa [Finding.unmatchedCloser, Range.onLine, hline] using hk
      · cases herror
    · exact .inr (.inr ⟨line, List.mem_of_getElem? hline, fun h => h c hc herror⟩)
    · cases herror
  · obtain ⟨range, hlast⟩ := unclosedFindings_eq lines
    rw [hlast] at hend
    obtain ⟨k, hk, rfl⟩ := List.mem_map.1 hend
    refine .inr (.inl ⟨k, ?_⟩)
    rw [residue_validate]
    simpa [Nesting.isOpen] using (List.mem_filter.1 hk).2

theorem hasErrors_eq_false_iff_counts :
    (validate check lines).hasErrors = false ↔
      (∀ k, (validate check lines).unmatched (Line.kinds lines) k = 0 ∧
        (validate check lines).residue.depth k = 0) ∧
      ∀ line ∈ lines, Line.Acceptable line := by
  rw [Report.hasErrors_eq_false]
  constructor
  · intro h
    refine ⟨fun k => ⟨?_, ?_⟩, fun line hline code hdefect herror => ?_⟩
    · refine List.countP_eq_zero.2 fun f hf hcode => ?_
      rw [decide_eq_true_eq] at hcode
      refine h f hf ?_
      rw [hcode.1]
      rfl
    · by_contra hk
      obtain ⟨range, htold⟩ := filter_tellsOpen check lines k
      rw [if_neg hk] at htold
      have hmem := List.mem_filter.1 (htold ▸ List.mem_singleton_self _)
      exact h _ hmem.1 rfl
    · obtain ⟨range, hmem⟩ := mem_findings_of_defect check hline hdefect
      exact h _ hmem herror
  · rintro ⟨hcounts, hshape⟩ f hf herror
    rcases error_cases hf herror with ⟨k, hk⟩ | ⟨k, hk⟩ | ⟨line, hline, hbad⟩
    · have := (hcounts k).1
      omega
    · exact hk (hcounts k).2
    · exact hbad (hshape line hline)

theorem counts_eq_zero_iff {k : Construct} :
    (validate check lines).unmatched (Line.kinds lines) k = 0 ∧
        (validate check lines).residue.depth k = 0 ↔
      Balanced k (Line.kinds lines) := by
  have hsum := openers_add_unmatched check lines k
  obtain ⟨⟨p, hp, hmax⟩, hle⟩ := isGreatest_unmatched check lines k
  constructor
  · rintro ⟨hu, hr⟩
    refine ⟨fun q hq => ?_, by omega⟩
    have := hle ⟨q, hq, rfl⟩
    omega
  · intro h
    have := h.covered p hp
    have := h.settled
    omega

/-- A document has no errors exactly if each construct is balanced and no shape is an error. So
well-nested documents, in which language ever their blocks are opened and closed, have none. -/
theorem no_errors_iff (check : ElseCheck) (lines : List Text) :
    ((validate check lines).hasErrors = false ↔
      (∀ k, Balanced k (endsOf k (Line.kinds lines))) ∧
      ∀ line ∈ lines, Line.Acceptable line) ∧
    (WellNested lines → (∀ line ∈ lines, Line.Acceptable line) →
      (validate check lines).hasErrors = false ∧
      (validate check lines).residue.isBalanced = true) := by
  have hbalanced : (validate check lines).hasErrors = false ↔
      (∀ k, Balanced k (Line.kinds lines)) ∧ ∀ line ∈ lines, Line.Acceptable line := by
    rw [hasErrors_eq_false_iff_counts]
    simp only [counts_eq_zero_iff]
  constructor
  · simp only [balanced_endsOf_iff]
    exact hbalanced
  · intro hnested hshape
    refine ⟨hbalanced.2 ⟨hnested.balanced, hshape⟩, Nesting.isBalanced_iff.2 fun k => ?_⟩
    exact (counts_eq_zero_iff.2 (hnested.balanced k)).2

/-- A loop that is opened in English and closed in French, within a conditional the other way. -/
def mixedDocument : List Text :=
  ["Si x > 0.".toList, "  While x > 0.".toList, "    Assigne x to x - 1.".toList,
    "  FinTantQue.".toList, "EndIf.".toList]

theorem mixedDocument_no_errors :
    WellNested mixedDocument ∧ (∀ line ∈ mixedDocument, Line.Acceptable line) ∧
      (validate .warn mixedDocument).hasErrors = false ∧
      (validate .warn mixedDocument).residue.isBalanced = true := by
  have hbody : WellNested ["    Assigne x to x - 1.".toList] :=
    .line fun k => by cases k <;> decide
  have hloop : WellNested ["  While x > 0.".toList, "    Assigne x to x - 1.".toList,
      "  FinTantQue.".toList] :=
    .block (k := .whileLoop) (by decide) hbody (by decide)
  have hnested : WellNested mixedDocument :=
    .block (k := .conditional) (by decide) hloop (by decide)
  have hshape : ∀ line ∈ mixedDocument, Line.Acceptable line := by
    have hnone : ∀ line ∈ mixedDocument, (Line.read line).defect = none := by decide
    intro line hline code hdefect
    rw [hnone line hline] at hdefect
    cases hdefect
  exact ⟨hnested, hshape, (no_errors_iff .warn mixedDocument).2 hnested hshape⟩

end Validation

end Bilingua
