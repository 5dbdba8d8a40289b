import Bilingua.Proofs.Placement

/-!
# What is opened and what is closed

Every opener is closed or left open, and every closer closes something or is reported. So for each
construct the openers with the reported closers are as many as the closers with the open blocks
(`Validation.depth_add_unmatched`). With the depth as the greatest excess of openers among the ends
of a document, the reported closers are the greatest excess of closers among its beginnings.

The blocks left open are told after the last line, once for each construct that has some.
-/

namespace Bilingua

/-! ## The findings of the two ends of a block -/

def Finding.tellsUnmatched (k : Construct) (f : Finding) : Bool :=
  f = .unmatchedCloser f.range k

/-- The finding tells of open blocks of `k`: behind the number, its message speaks of `k`. -/
def Finding.tellsOpen (k : Construct) (f : Finding) : Bool :=
  f.code = .unclosedConstruct &&
    (" bloc(s) ".toList ++ k.label ++ " ".toList).isPrefixOf (f.message.dropWhile Char.isDigit)

theorem Finding.code_of_tellsUnmatched {k : Construct} {f : Finding}
    (h : f.tellsUnmatched k = true) : f.code = .unmatchedCloser := by
  rw [of_decide_eq_true h]
  rfl

theorem Finding.tellsUnmatched_unmatchedCloser {range : Range} {c k : Construct} :
    (Finding.unmatchedCloser range c).tellsUnmatched k = true ↔ c = k := by
  refine ⟨fun h => Finding.eq_of_unmatchedCloser_eq (of_decide_eq_true h), fun h => ?_⟩
  rw [h]
  exact decide_eq_true rfl

theorem Text.dropWhile_isDigit_ofNat (m : Nat) (t : Text) :
    (Text.ofNat m ++ ' ' :: t).dropWhile Char.isDigit = ' ' :: t := by
  rw [List.dropWhile_append_of_pos (Text.isDigit_ofNat m)]
  rfl

theorem Finding.message_unclosedConstruct (range : Range) (k : Construct) (m : Nat) :
    (Finding.unclosedConstruct range k m).message =
      Text.ofNat m ++ ' ' :: ("bloc(s) ".toList ++ k.label ++ " non fermé(s). Fermez avec ".toList ++
        k.closer .french ++ " ou ".toList ++ k.closer .english) := by
  simp [Finding.unclosedConstruct]

theorem Finding.takeWhile_isDigit_unclosedConstruct (range : Range) (k : Construct) (m : Nat) :
    (Finding.unclosedConstruct range k m).message.takeWhile Char.isDigit = Nat.toDigits 10 m := by
  rw [Finding.message_unclosedConstruct, List.takeWhile_append_of_pos (Text.isDigit_ofNat m)]
  exact List.append_nil _

theorem Finding.tellsOpen_unclosedConstruct {range : Range} {c k : Construct} {m : Nat} :
    (Finding.unclosedConstruct range c m).tellsOpen k = decide (c = k) := by
  have hcode : (Finding.unclosedConstruct range c m).code = .unclosedConstruct := rfl
  rw [Finding.tellsOpen, Finding.message_unclosedConstruct, Text.dropWhile_isDigit_ofNat, hcode]
  cases c <;> cases k <;> decide

/-- The number of findings of unmatched closers that lie on closers of `k`. -/
def Report.unmatched (r : Report) (kinds : List LineKind) (k : Construct) : Nat :=
  r.findings.countP fun f =>
    f.code = .unmatchedCloser ∧ kinds[f.range.start.line]? = some (.closer k)

namespace Validation

variable {check : ElseCheck} {n : Nesting} {i : Nat} {line : Text} {lines : List Text}
  {k : Construct} {f : Finding}

/-! ## Reported closers -/

theorem countP_lineFindings (check : ElseCheck) (n : Nesting) (i : Nat) (line : Text) (k : Construct) :
    (lineFindings check n i line).countP (Finding.tellsUnmatched k) =
      if Line.classify line = .closer k ∧ n.depth k = 0 then 1 else 0 := by
  have hcode : ∀ fs : List Finding, fs.countP (Finding.tellsUnmatched k) =
      (fs.filter (·.code = .unmatchedCloser)).countP (Finding.tellsUnmatched k) := by
    intro fs
    rw [List.countP_filter]
    refine List.countP_congr fun f _ => ⟨fun h => ?_, fun h => ?_⟩
    · simp [h, Finding.code_of_tellsUnmatched h]
    · exact (Bool.and_eq_true_iff.1 h).1
  rw [hcode, filter_code_lineFindings rfl (by decide), ← hcode]
  cases hkind : Line.classify line with
  | closer c =>
    rw [placement_closer]
    by_cases hopen : n.depth c = 0
    · simp only [hopen, if_true, List.countP_singleton, Finding.tellsUnmatched_unmatchedCloser,
        LineKind.closer.injEq]
      by_cases hc : c = k
      · subst hc
        simp [hopen]
      · simp [hc]
    · have hne : ¬ (c = k ∧ n.depth k = 0) := by
        rintro ⟨rfl, h⟩
        exact hopen h
      simp [hopen, hne]
  | elseBranch =>
    rw [placement_elseBranch]
    split
    · simp [Finding.tellsUnmatched, Finding.ofCode, Finding.unmatchedCloser]
    · rfl
  | _ => rfl

/-- What one line opens or leaves unmatched, it closes or leaves open. -/
theorem depth_add_unmatched_line (check : ElseCheck) (n : Nesting) (i : Nat) (line : Text)
    (k : Construct) :
    n.depth k + (if Line.classify line = .opener k then 1 else 0) +
        (lineFindings check n i line).countP (Finding.tellsUnmatched k) =
      (if Line.classify line = .closer k then 1 else 0) +
        (n.after (Line.classify line)).depth k := by
  rw [countP_lineFindings, Nesting.depth_after]
  by_cases ho : Line.classify line = .opener k
  · simp only [ho, if_true, reduceCtorEq, if_false, false_and]
    omega
  · by_cases hc : Line.classify line = .closer k
    · simp only [hc, if_true, reduceCtorEq, if_false, true_and]
      split <;> omega
    · simp only [ho, hc, if_false, false_and]
      omega

/-- The openers with the reported closers are as many as the closers with the open blocks. -/
theorem depth_add_unmatched (check : ElseCheck) (n : Nesting) (i : Nat) (lines : List Text)
    (k : Construct) :
    n.depth k + (Line.kinds lines).count (.opener k) +
        (scan check i n lines).1.countP (Finding.tellsUnmatched k) =
      (Line.kinds lines).count (.closer k) + (n.afterAll (Line.kinds lines)).depth k := by
  induction lines generalizing i n with
  | nil => simp
  | cons line lines ih =>
    have hline := depth_add_unmatched_line check n i line k
    have hlater := ih (n.after (Line.classify line)) (i + 1)
    rw [scan_cons, List.countP_append, Line.kinds_cons, Nesting.afterAll_cons]
    simp only [List.count_cons, beq_iff_eq]
    omega

theorem unmatched_validate :
    (validate check lines).unmatched (Line.kinds lines) k =
      (scan check 0 .none lines).1.countP (Finding.tellsUnmatched k) := by
  have hend : (unclosedFindings (Nesting.none.afterAll (Line.kinds lines)) lines).countP
      (Finding.tellsUnmatched k) = 0 := by
    rw [List.countP_eq_zero]
    intro f hf htells
    have hcode := code_of_mem_unclosedFindings hf
    rw [Finding.code_of_tellsUnmatched htells] at hcode
    cases hcode
  have hall : (validate check lines).unmatched (Line.kinds lines) k =
      (validate check lines).findings.countP (Finding.tellsUnmatched k) := by
    refine List.countP_congr fun f hf => ?_
    rw [decide_eq_true_eq]
    constructor
    · rintro ⟨hcode, hkind⟩
      obtain ⟨c, span, hc, heq⟩ := closesNothing_of_mem_on (Report.mem_on.2 ⟨hf, hcode, rfl⟩)
      rw [hc.1, Option.some_inj, LineKind.closer.injEq] at hkind
      rw [heq]
      exact Finding.tellsUnmatched_unmatchedCloser.2 hkind
    · intro htells
      have hcode := Finding.code_of_tellsUnmatched htells
      obtain ⟨c, span, hc, heq⟩ := closesNothing_of_mem_on (Report.mem_on.2 ⟨hf, hcode, rfl⟩)
      rw [heq, Finding.tellsUnmatched_unmatchedCloser] at htells
      exact ⟨hcode, htells ▸ hc.1⟩
  rw [hall, findings_validate, List.countP_append, hend, Nat.add_zero]

theorem openers_add_unmatched (check : ElseCheck) (lines : List Text) (k : Construct) :
    (Line.kinds lines).count (.opener k) +
        (validate check lines).unmatched (Line.kinds lines) k =
      (Line.kinds lines).count (.closer k) + (validate check lines).residue.depth k := by
  rw [unmatched_validate, residue_validate, ← depth_add_unmatched check .none 0 lines k,
    Nesting.depth_none, Nat.zero_add]

/-- The reported closers are the greatest excess of closers among the beginnings. -/
theorem isGreatest_unmatched (check : ElseCheck) (lines : List Text) (k : Construct) :
    IsGreatest
      {d : Int | ∃ p, p <+: Line.kinds lines ∧ d = p.count (.closer k) - p.count (.opener k)}
      ((validate check lines).unmatched (Line.kinds lines) k) := by
  have hsum := openers_add_unmatched check lines k
  rw [residue_validate] at hsum
  obtain ⟨⟨s, ⟨p, hs⟩, hmax⟩, hle⟩ := Nesting.isGreatest_depth (Line.kinds lines) k
  have hcounts : ∀ p s : List LineKind, p ++ s = Line.kinds lines →
      p.count (.opener k) + s.count (.opener k) = (Line.kinds lines).count (.opener k) ∧
      p.count (.closer k) + s.count (.closer k) = (Line.kinds lines).count (.closer k) := by
    intro p s h
    rw [← h]
    exact ⟨List.count_append.symm, List.count_append.symm⟩
  constructor
  · -- What stands before the end with the greatest excess has all of the reported closers.
    obtain ⟨ho, hc⟩ := hcounts p s hs
    exact ⟨p, ⟨s, hs⟩, by omega⟩
  · rintro d ⟨p, ⟨s, hs⟩, rfl⟩
    obtain ⟨ho, hc⟩ := hcounts p s hs
    have := hle ⟨s, ⟨p, hs⟩, rfl⟩
    omega

/-! ## Blocks left open -/

theorem code_ne_of_mem_scan (h : f ∈ (scan check i n lines).1) : f.code ≠ .unclosedConstruct := by
  obtain ⟨j, line, _, hf⟩ := mem_scan.1 h
  rcases mem_lineFindings.1 hf with hp | ⟨c, hc, rfl⟩ | ⟨_, rfl⟩
  · rcases mem_placement hp with ⟨c, _, _, rfl⟩ | ⟨_, _, _, rfl⟩
    · exact Code.noConfusion
    · exact Code.noConfusion
  · have hshape := Line.isShape_of_defect hc
    rintro (rfl : c = .unclosedConstruct)
    cases hshape
  · exact Code.noConfusion

theorem unclosedFindings_eq (lines : List Text) :
    ∃ range, unclosedFindings (Nesting.none.afterAll (Line.kinds lines)) lines =
      (Construct.all.filter (Nesting.none.afterAll (Line.kinds lines)).isOpen).map fun k =>
        .unclosedConstruct range k ((Nesting.none.afterAll (Line.kinds lines)).depth k) := by
  unfold unclosedFindings
  cases hlast : lines.getLast? with
  | none =>
    rw [List.getLast?_eq_none_iff.1 hlast]
    exact ⟨.onLine 0 (0, 0), rfl⟩
  | some last =>
    refine ⟨.onLine (lines.length - 1) (0, last.length), ?_⟩
    simp [Nesting.residue]

theorem filter_tellsOpen (check : ElseCheck) (lines : List Text) (k : Construct) :
    ∃ range, (validate check lines).findings.filter (Finding.tellsOpen k) =
      if (validate check lines).residue.depth k = 0 then []
      else [.unclosedConstruct range k ((validate check lines).residue.depth k)] := by
  obtain ⟨range, hend⟩ := unclosedFindings_eq lines
  have hscan : (scan check 0 .none lines).1.filter (Finding.tellsOpen k) = [] :=
    List.filter_eq_nil_iff.2 fun f hf htells =>
      code_ne_of_mem_scan hf (of_decide_eq_true (Bool.and_eq_true_iff.1 htells).1)
  refine ⟨range, ?_⟩
  rw [residue_validate, findings_validate, List.filter_append, hscan, List.nil_append, hend,
    List.filter_map]
  generalize Nesting.none.afterAll (Line.kinds lines) = n
  have hswap : (Construct.all.filter n.isOpen).filter (· = k) = [k].filter n.isOpen := by
    rw [← Construct.filter_all_eq k, List.filter_filter, List.filter_filter]
    exact List.filter_congr fun c _ => Bool.and_comm _ _
  simp only [Function.comp_def, Finding.tellsOpen_unclosedConstruct]
  rw [hswap]
  by_cases hk : n.depth k = 0
  · rw [if_pos hk, List.filter_cons_of_neg (by simp [Nesting.isOpen, hk])]
    rfl
  · rw [if_neg hk, List.filter_cons_of_pos (by simp [Nesting.isOpen, hk])]
    rfl

/-- The account of one construct. Its openers with the unmatched closers are as many as its closers
with the blocks left open; the former are the greatest excess of closers among the beginnings of
the document, the latter the greatest excess of openers among its ends, and they are told in one
finding, whose message starts with their number. -/
theorem construct_account (check : ElseCheck) (lines : List Text) (k : Construct) :
    (Line.kinds lines).count (.opener k) +
        (validate check lines).unmatched (Line.kinds lines) k =
      (Line.kinds lines).count (.closer k) + (validate check lines).residue.depth k ∧
    IsGreatest
      {d : Int | ∃ p, p <+: Line.kinds lines ∧ d = p.count (.closer k) - p.count (.opener k)}
      ((validate check lines).unmatched (Line.kinds lines) k) ∧
    IsGreatest
      {d : Int | ∃ s, s <:+ Line.kinds lines ∧ d = s.count (.opener k) - s.count (.closer k)}
      ((validate check lines).residue.depth k) ∧
    ((∃ f ∈ (validate check lines).findings, f.tellsOpen k) ↔
      0 < (validate check lines).residue.depth k) ∧
    (0 < (validate check lines).residue.depth k ↔
      ∃ range, (validate check lines).findings.filter (Finding.tellsOpen k) =
        [.unclosedConstruct range k ((validate check lines).residue.depth k)]) ∧
    ∀ f ∈ (validate check lines).findings, f.tellsOpen k →
      f.message.takeWhile Char.isDigit =
        Nat.toDigits 10 ((validate check lines).residue.depth k) := by
  obtain ⟨range, htold⟩ := filter_tellsOpen check lines k
  have hone : 0 < (validate check lines).residue.depth k ↔
      (validate check lines).findings.filter (Finding.tellsOpen k) ≠ [] := by
    rw [htold]
    split <;> simp <;> omega
  refine ⟨openers_add_unmatched check lines k, isGreatest_unmatched check lines k, ?_, ?_, ?_, ?_⟩
  · rw [residue_validate]
    exact Nesting.isGreatest_depth _ k
  · rw [hone, ne_eq, List.filter_eq_nil_iff]
    push Not
    rfl
  · constructor
    · intro hpos
      exact ⟨range, by rw [htold, if_neg (by omega)]⟩
    · rintro ⟨range', h⟩
      rw [hone, h]
      exact List.cons_ne_nil _ _
  · intro f hf htells
    have hmem := List.mem_filter.2 ⟨hf, htells⟩
    rw [htold] at hmem
    split at hmem
    · cases hmem
    · rw [List.mem_singleton.1 hmem, Finding.takeWhile_isDigit_unclosedConstruct]

end Validation

end Bilingua
