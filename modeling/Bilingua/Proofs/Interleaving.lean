import Bilingua.Proofs.Balance
import Mathlib.Algebra.BigOperators.Group.Multiset.Basic
import Mathlib.Tactic.Abel

/-!
# Lines in another order

Blocks of one construct do not see those of another, and a line that neither opens nor closes one is
judged by itself. So the order of lines matters only among those that open or close blocks of the
same construct, and among the lines of conditionals with their else branches if these are checked.

Validation falls into a part for each construct, a part for else branches, and one for each line. The
first two depend on some of the lines only (`Validation.countP_scan_filter`), and the last does not
depend on any order (`Validation.verdicts_scan`).
-/

namespace Bilingua

def Finding.verdict (f : Finding) : Severity × Code × Text := (f.severity, f.code, f.message)

/-- What the findings of a report say, in no order. -/
def Report.verdicts (r : Report) : Multiset (Severity × Code × Text) :=
  (r.findings.map Finding.verdict : List _)

def Line.bounds (k : Construct) (line : Text) : Bool :=
  Line.classify line = .opener k || Line.classify line = .closer k

/-- The line opens or closes a conditional, or starts an else branch. -/
def Line.branches (line : Text) : Bool :=
  Line.bounds .conditional line || Line.classify line = .elseBranch

/-- The same lines in an order that keeps, for each construct, the lines that open or close its
blocks in their order, and, if else branches are checked, also the else branches among the lines that
open or close conditionals. -/
structure Reordering (check : ElseCheck) (lines lines' : List Text) : Prop where
  perm : lines.Perm lines'
  bounds : ∀ k, lines.filter (Line.bounds k) = lines'.filter (Line.bounds k)
  branches : check = .warn → lines.filter Line.branches = lines'.filter Line.branches

namespace Nesting

variable {n m : Nesting} {k : Construct} {line : Text} {lines : List Text}

theorem depth_after_congr (h : n.depth k = m.depth k) (kind : LineKind) :
    (n.after kind).depth k = (m.after kind).depth k := by
  rw [depth_after, depth_after, h]

theorem depth_after_of_not_bounds (h : Line.bounds k line = false) :
    (n.after (Line.classify line)).depth k = n.depth k := by
  obtain ⟨ho, hc⟩ : Line.classify line ≠ .opener k ∧ Line.classify line ≠ .closer k := by
    simpa [Line.bounds] using h
  rw [depth_after, if_neg ho, if_neg hc]

/-- The depth of a construct is a matter of the lines that open or close its blocks. -/
theorem depth_afterAll_filter (h : n.depth k = m.depth k) :
    (n.afterAll (Line.kinds lines)).depth k =
      (m.afterAll (Line.kinds (lines.filter (Line.bounds k)))).depth k := by
  induction lines generalizing n m with
  | nil => exact h
  | cons line lines ih =>
    cases hb : Line.bounds k line with
    | true =>
      rw [List.filter_cons_of_pos hb, Line.kinds_cons, Line.kinds_cons, afterAll_cons, afterAll_cons]
      exact ih (depth_after_congr h _)
    | false =>
      rw [List.filter_cons_of_neg (by simp [hb]), Line.kinds_cons, afterAll_cons]
      exact ih ((depth_after_of_not_bounds hb).trans h)

end Nesting

namespace Validation

variable {check : ElseCheck} {n m : Nesting} {i j : Nat} {line : Text} {lines lines' : List Text}
  {k : Construct}

/-! ## The parts of the constructs -/

/-- Findings of which a line gives a number that depends on one depth are as many as those of some of
the lines, if the other lines give none and leave the depth as it is. -/
theorem countP_scan_filter {p : Finding → Bool} {selected : Text → Bool} (told : Text → Nat → Nat)
    (htold : ∀ n i line, (lineFindings check n i line).countP p = told line (n.depth k))
    (hother : ∀ line d, selected line = false → told line d = 0)
    (hbounds : ∀ line, selected line = false → Line.bounds k line = false)
    (lines : List Text) (i j : Nat) (h : n.depth k = m.depth k) :
    (scan check i n lines).1.countP p =
      (scan check j m (lines.filter selected)).1.countP p := by
  induction lines generalizing i j n m with
  | nil => rfl
  | cons line lines ih =>
    rw [scan_cons, List.countP_append, htold]
    cases hs : selected line with
    | true =>
      have hlater := ih (i + 1) (j + 1) (Nesting.depth_after_congr h (Line.classify line))
      rw [List.filter_cons_of_pos hs, scan_cons, List.countP_append, htold, h, hlater]
    | false =>
      have hlater := ih (i + 1) j ((Nesting.depth_after_of_not_bounds (hbounds line hs)).trans h)
      rw [List.filter_cons_of_neg (by simp [hs]), hother line _ hs, Nat.zero_add, hlater]

def tellsStray (f : Finding) : Bool := f.code = .strayElse

theorem countP_tellsStray :
    (lineFindings check n i line).countP tellsStray =
      if check = .warn ∧ Line.classify line = .elseBranch ∧ n.depth .conditional = 0 then 1
      else 0 := by
  have hplace : (lineFindings check n i line).filter tellsStray =
      (placement check n (.onLine i line.contentSpan) (Line.classify line)).filter tellsStray :=
    filter_code_lineFindings rfl (by decide)
  rw [List.countP_eq_length_filter, hplace]
  cases Line.classify line with
  | elseBranch =>
    rw [placement_elseBranch]
    by_cases hopen : check = .warn ∧ n.depth .conditional = 0
    · simp [hopen, tellsStray, Finding.ofCode]
    · simp only [if_neg hopen, true_and]
      rfl
  | closer c =>
    rw [placement_closer]
    split <;> simp [tellsStray, Finding.unmatchedCloser]
  | _ => simp [placement]

theorem countP_tellsUnmatched_filter (lines : List Text) (k : Construct) :
    (scan check 0 .none lines).1.countP (Finding.tellsUnmatched k) =
      (scan check 0 .none (lines.filter (Line.bounds k))).1.countP (Finding.tellsUnmatched k) := by
  refine countP_scan_filter
    (fun line d => if Line.classify line = .closer k ∧ d = 0 then 1 else 0)
    (fun n i line => countP_lineFindings check n i line k) (fun line d hs => if_neg ?_)
    (fun line hs => hs) lines 0 0 rfl
  rintro ⟨hc, _⟩
  simp [Line.bounds, hc] at hs

theorem countP_tellsStray_filter (check : ElseCheck) (selected : Text → Bool)
    (hselected : ∀ line, selected line = false →
      ¬ (check = .warn ∧ Line.classify line = .elseBranch))
    (hbounds : ∀ line, selected line = false → Line.bounds .conditional line = false)
    (lines : List Text) :
    (scan check 0 .none lines).1.countP tellsStray =
      (scan check 0 .none (lines.filter selected)).1.countP tellsStray :=
  countP_scan_filter
    (fun line d => if check = .warn ∧ Line.classify line = .elseBranch ∧ d = 0 then 1 else 0)
    (fun _ _ _ => countP_tellsStray)
    (fun line _ hs => if_neg fun h => hselected line hs ⟨h.1, h.2.1⟩) hbounds lines 0 0 rfl

/-- Reported else branches depend on the lines of conditionals, and there are none if they are not
checked. -/
theorem countP_tellsStray_reordering (h : Reordering check lines lines') :
    (scan check 0 .none lines).1.countP tellsStray =
      (scan check 0 .none lines').1.countP tellsStray := by
  cases check with
  | unchecked =>
    have hfilter := countP_tellsStray_filter .unchecked (Line.bounds .conditional)
      (fun line _ hwarn => by cases hwarn.1) fun line hs => hs
    rw [hfilter lines, hfilter lines', h.bounds]
  | warn =>
    have hfilter := countP_tellsStray_filter .warn Line.branches
      (fun line hs helse => by simp [Line.branches, helse.2] at hs)
      fun line hs => (Bool.or_eq_false_iff.1 hs).1
    rw [hfilter lines, hfilter lines', h.branches rfl]

theorem residue_reordering (h : Reordering check lines lines') :
    Nesting.none.afterAll (Line.kinds lines) = Nesting.none.afterAll (Line.kinds lines') :=
  Nesting.ext fun k => by
    rw [Nesting.depth_afterAll_filter rfl, h.bounds k, ← Nesting.depth_afterAll_filter rfl]

/-! ## The parts of the lines -/

def ownFindings (i : Nat) (line : Text) : List Finding :=
  ((Line.read line).defect.map (Finding.ofCode (.onLine i line.contentSpan))).toList ++
    if (Line.read line).parensAgree then []
    else [.ofCode (.onLine i line.contentSpan) .unbalancedParentheses]

/-- What a line says of itself, wherever it stands. -/
def ownVerdicts (line : Text) : Multiset (Severity × Code × Text) :=
  ((ownFindings 0 line).map Finding.verdict : List _)

/-- The verdicts of unmatched closers and stray else branches, from their numbers. -/
def placeVerdicts (unmatched : Construct → Nat) (stray : Nat) :
    Multiset (Severity × Code × Text) :=
  (Construct.all.map fun k => Multiset.replicate (unmatched k)
      (Finding.unmatchedCloser (.onLine 0 (0, 0)) k).verdict).sum +
    Multiset.replicate stray (Finding.ofCode (.onLine 0 (0, 0)) .strayElse).verdict

theorem placeVerdicts_add (u u' : Construct → Nat) (e e' : Nat) :
    placeVerdicts (fun k => u k + u' k) (e + e') = placeVerdicts u e + placeVerdicts u' e' := by
  simp only [placeVerdicts, Construct.all, Multiset.replicate_add, List.map_cons, List.map_nil,
    List.sum_cons, List.sum_nil]
  abel

theorem placeVerdicts_single (c : Construct) :
    placeVerdicts (fun k => if c = k then 1 else 0) 0 =
      {(Finding.unmatchedCloser (.onLine 0 (0, 0)) c).verdict} := by
  cases c <;> simp [placeVerdicts, Construct.all]

theorem verdicts_placement (check : ElseCheck) (n : Nesting) (range : Range) (kind : LineKind) :
    ((placement check n range kind).map Finding.verdict : List _) =
      placeVerdicts (fun k => if kind = .closer k ∧ n.depth k = 0 then 1 else 0)
        (if check = .warn ∧ kind = .elseBranch ∧ n.depth .conditional = 0 then 1 else 0) := by
  have hnothing : placeVerdicts (fun _ => 0) 0 = 0 := by simp [placeVerdicts, Construct.all]
  cases kind with
  | closer c =>
    rw [placement_closer]
    by_cases hopen : n.depth c = 0
    · have hsingle : (fun k => if LineKind.closer c = .closer k ∧ n.depth k = 0 then 1 else 0) =
          fun k => if c = k then 1 else 0 := by
        funext k
        by_cases hk : c = k
        · subst hk
          simp [hopen]
        · simp [hk]
      rw [if_pos hopen, hsingle, if_neg (by simp), placeVerdicts_single]
      rfl
    · have hzero : (fun k => if LineKind.closer c = .closer k ∧ n.depth k = 0 then 1 else 0) =
          fun _ => 0 := by
        funext k
        refine if_neg ?_
        rintro ⟨hk, hdepth⟩
        rw [LineKind.closer.injEq] at hk
        exact hopen (hk ▸ hdepth)
      rw [if_neg hopen, hzero, if_neg (by simp), hnothing]
      rfl
  | elseBranch =>
    rw [placement_elseBranch]
    by_cases hopen : check = .warn ∧ n.depth .conditional = 0
    · simp [hopen, placeVerdicts, Construct.all]
      rfl
    · simp [hopen, hnothing]
  | _ => simp [placement, hnothing]

theorem lineFindings_eq : lineFindings check n i line =
    placement check n (.onLine i line.contentSpan) (Line.classify line) ++ ownFindings i line :=
  List.append_assoc _ _ _

theorem verdict_ownFindings : (ownFindings i line).map Finding.verdict =
    (ownFindings j line).map Finding.verdict := by
  unfold ownFindings
  rw [List.map_append, List.map_append]
  congr 1
  · cases (Line.read line).defect <;> rfl
  · split <;> rfl

/-- What one line adds: what it tells of its place, in numbers, and what it says of itself. -/
theorem verdicts_lineFindings :
    ((lineFindings check n i line).map Finding.verdict : List _) =
      placeVerdicts (fun k => (lineFindings check n i line).countP (Finding.tellsUnmatched k))
        ((lineFindings check n i line).countP tellsStray) + ownVerdicts line := by
  simp only [countP_lineFindings, countP_tellsStray]
  rw [lineFindings_eq, List.map_append, ← Multiset.coe_add, verdicts_placement]
  congr 1
  exact congrArg _ verdict_ownFindings

theorem verdicts_scan :
    ((scan check i n lines).1.map Finding.verdict : List _) =
      placeVerdicts (fun k => (scan check i n lines).1.countP (Finding.tellsUnmatched k))
        ((scan check i n lines).1.countP tellsStray) + (lines.map ownVerdicts).sum := by
  induction lines generalizing i n with
  | nil => simp [placeVerdicts, Construct.all]
  | cons line lines ih =>
    simp only [scan_cons, List.map_append, ← Multiset.coe_add, List.countP_append,
      placeVerdicts_add, List.map_cons, List.sum_cons]
    rw [verdicts_lineFindings, ih]
    abel

theorem verdicts_unclosedFindings (lines : List Text) :
    (unclosedFindings (Nesting.none.afterAll (Line.kinds lines)) lines).map Finding.verdict =
      (Nesting.none.afterAll (Line.kinds lines)).residue.map fun p =>
        (Finding.unclosedConstruct (.onLine 0 (0, 0)) p.1 p.2).verdict := by
  obtain ⟨range, hend⟩ := unclosedFindings_eq lines
  rw [hend, Nesting.residue, List.map_map, List.map_map]
  rfl

theorem verdicts_reordering (h : Reordering check lines lines') :
    (validate check lines).verdicts = (validate check lines').verdicts := by
  have hunmatched : ∀ k, (scan check 0 .none lines).1.countP (Finding.tellsUnmatched k) =
      (scan check 0 .none lines').1.countP (Finding.tellsUnmatched k) := fun k => by
    rw [countP_tellsUnmatched_filter, h.bounds k, ← countP_tellsUnmatched_filter]
  have hown : (lines.map ownVerdicts).sum = (lines'.map ownVerdicts).sum :=
    (h.perm.map ownVerdicts).sum_eq
  unfold Report.verdicts
  rw [findings_validate, findings_validate, List.map_append, List.map_append,
    verdicts_unclosedFindings, verdicts_unclosedFindings, residue_reordering h,
    ← Multiset.coe_add, ← Multiset.coe_add, verdicts_scan, verdicts_scan,
    countP_tellsStray_reordering h, hown]
  simp only [hunmatched]

end Validation

/-! ## Counts -/

theorem Report.errorCount_eq (r : Report) :
    r.errorCount = r.verdicts.countP fun v => v.1 = .error := by
  unfold errorCount verdicts
  rw [Multiset.coe_countP, List.countP_map]
  rfl

theorem Report.warningCount_eq (r : Report) :
    r.warningCount = r.verdicts.countP fun v => v.1 = .warning := by
  unfold warningCount verdicts
  rw [Multiset.coe_countP, List.countP_map]
  rfl

/-- The order of lines does not matter across constructs: if the lines that open or close blocks of
the same construct stay in their order, and checked else branches among those of conditionals, then
the same blocks are left open and the findings say the same, up to their order. -/
theorem reordering_keeps (check : ElseCheck) (lines lines' : List Text)
    (h : Reordering check lines lines') :
    (validate check lines).residue = (validate check lines').residue ∧
    (validate check lines).errorCount = (validate check lines').errorCount ∧
    (validate check lines).warningCount = (validate check lines').warningCount ∧
    (validate check lines).verdicts = (validate check lines').verdicts := by
  have hverdicts := Validation.verdicts_reordering h
  refine ⟨?_, ?_, ?_, hverdicts⟩
  · rw [Validation.residue_validate, Validation.residue_validate, Validation.residue_reordering h]
  · rw [Report.errorCount_eq, Report.errorCount_eq, hverdicts]
  · rw [Report.warningCount_eq, Report.warningCount_eq, hverdicts]

/-- A conditional and a loop that overlap, each with a closer too many or too few. -/
def braidedDocument : List Text :=
  ["Si x.".toList, "FinPour.".toList, "  Pour i de 1 à 2.".toList, "Sinon".toList,
    "  J'ai (un nombre appelé y.".toList, "FinSi.".toList, "FinSi.".toList]

def sortedDocument : List Text :=
  ["FinPour.".toList, "  Pour i de 1 à 2.".toList, "  J'ai (un nombre appelé y.".toList,
    "Si x.".toList, "Sinon".toList, "FinSi.".toList, "FinSi.".toList]

theorem braidedDocument_reordering :
    Reordering .warn braidedDocument sortedDocument ∧
    (validate .warn sortedDocument).errorCount = 3 ∧
    (validate .warn braidedDocument).errorCount = 3 ∧
    (validate .warn braidedDocument).warningCount = 1 ∧
    (validate .warn braidedDocument).verdicts = (validate .warn sortedDocument).verdicts := by
  have h : Reordering .warn braidedDocument sortedDocument :=
    ⟨by decide +kernel, fun k => by cases k <;> decide +kernel, fun _ => by decide +kernel⟩
  obtain ⟨_, herrors, hwarnings, hverdicts⟩ :=
    reordering_keeps .warn braidedDocument sortedDocument h
  have hcount : (validate .warn sortedDocument).errorCount = 3 := by decide +kernel
  rw [herrors, hwarnings]
  exact ⟨h, hcount, hcount, by decide +kernel, hverdicts⟩

end Bilingua
