import Bilingua.Proofs.Checks
import Bilingua.Proofs.Findings

/-!
# Else branches, checked or not

Of all settings, validation looks at one: whether an else branch outside of any conditional is
reported. If it is, the report has a warning for each such branch among its other findings, which are
the ones of the unchecked document (`Validation.filter_validate`). So no setting has a part in what is
an error, nor in how a check of files ends.
-/

namespace Bilingua

/-- A finding that is there whether else branches are checked or not. -/
def Finding.isSteady (f : Finding) : Bool := f.code ≠ .strayElse

theorem Finding.isSteady_iff {f : Finding} : f.isSteady = true ↔ f.code ≠ .strayElse :=
  decide_eq_true_iff

theorem Finding.isSteady_of_isError {f : Finding} (h : f.isError = true) : f.isSteady = true := by
  refine Finding.isSteady_iff.2 fun hcode => ?_
  rw [Finding.isError, Finding.severity, hcode] at h
  cases h

namespace Validation

variable {check : ElseCheck} {n : Nesting} {i : Nat} {line : Text} {lines : List Text}

/-! ## The steady findings -/

theorem filter_placement (range : Range) (kind : LineKind) :
    (placement check n range kind).filter Finding.isSteady = placement .unchecked n range kind := by
  cases kind with
  | closer k =>
    rw [placement_closer, placement_closer]
    split <;> rfl
  | elseBranch =>
    have hunchecked : placement .unchecked n range .elseBranch = [] := rfl
    rw [placement_elseBranch, hunchecked]
    split <;> rfl
  | _ => rfl

theorem filter_lineFindings :
    (lineFindings check n i line).filter Finding.isSteady = lineFindings .unchecked n i line := by
  simp only [lineFindings, List.filter_append, filter_placement]
  congr 1
  · congr 1
    refine List.filter_eq_self.2 fun f hf => ?_
    rw [Option.mem_toList, Option.map_eq_some_iff] at hf
    obtain ⟨code, hcode, rfl⟩ := hf
    refine Finding.isSteady_iff.2 fun (hstray : code = .strayElse) => ?_
    have hshape := Line.isShape_of_defect hcode
    rw [hstray] at hshape
    cases hshape
  · split <;> rfl

/-- The nesting does not depend on what is reported, so neither do the findings further down. -/
theorem filter_scan :
    (scan check i n lines).1.filter Finding.isSteady = (scan .unchecked i n lines).1 := by
  induction lines generalizing i n with
  | nil => rfl
  | cons line lines ih => rw [scan_cons, scan_cons, List.filter_append, filter_lineFindings, ih]

theorem filter_validate (check : ElseCheck) (lines : List Text) :
    (validate check lines).findings.filter Finding.isSteady = (validate .unchecked lines).findings := by
  have hend : (unclosedFindings (Nesting.none.afterAll (Line.kinds lines)) lines).filter
      Finding.isSteady = unclosedFindings (Nesting.none.afterAll (Line.kinds lines)) lines := by
    refine List.filter_eq_self.2 fun f hf => ?_
    rw [Finding.isSteady_iff, code_of_mem_unclosedFindings hf]
    decide
  rw [findings_validate, findings_validate, List.filter_append, filter_scan, hend]

theorem filter_isError_validate (check : ElseCheck) (lines : List Text) :
    (validate check lines).findings.filter Finding.isError =
      (validate .unchecked lines).findings.filter Finding.isError := by
  rw [← filter_validate check, List.filter_filter]
  refine List.filter_congr fun f _ => ?_
  cases herror : f.isError with
  | false => rfl
  | true => rw [Finding.isSteady_of_isError herror]; rfl

theorem isSteady_of_mem_validate {f : Finding} (h : f ∈ (validate .unchecked lines).findings) :
    f.isSteady = true := by
  rw [← filter_validate .unchecked] at h
  exact List.of_mem_filter h

theorem hasErrors_validate (check : ElseCheck) (lines : List Text) :
    (validate check lines).hasErrors = (validate .unchecked lines).hasErrors := by
  have hany : ∀ r : Report, r.hasErrors = (r.findings.filter Finding.isError).any Finding.isError :=
    fun r => by simp [Report.hasErrors, List.any_filter]
  rw [hany, hany, filter_isError_validate]

end Validation

namespace Command

/-! ## The exit code -/

theorem filter_isError_findingsAt (s s' : Settings) (host : Host) (path : Path) :
    (findingsAt s host path).filter Finding.isError =
      (findingsAt s' host path).filter Finding.isError := by
  unfold findingsAt
  split
  · exact (Validation.filter_isError_validate ..).trans (Validation.filter_isError_validate ..).symm
  · rfl

theorem counted_isError (s s' : Settings) (host : Host) (paths : List Path) :
    counted s host Finding.isError paths = counted s' host Finding.isError paths := by
  simp only [counted, List.countP_eq_length_filter, filter_isError_findingsAt s s']

theorem code_check (s s' : Settings) (host : Host) (files : List Path) (format : Format) :
    (check s host files format).code = (check s' host files format).code := by
  rcases readable_or_first host files with hall | ⟨before, path, later, e, rfl, hbefore, he⟩
  · cases format with
    | text => rw [check_text s hall, check_text s' hall, counted_isError s s']
    | json =>
      by_cases htext : ∀ path ∈ files, path.text?.isSome
      · rw [check_json s hall htext, check_json s' hall htext, counted_isError s s']
      · push Not at htext
        obtain ⟨path, hpath, hnone⟩ := htext
        have htext? := Option.not_isSome_iff_eq_none.1 hnone
        rw [check_json_of_not_text s hall hpath htext?, check_json_of_not_text s' hall hpath htext?]
  · obtain ⟨htext, hjson⟩ := check_of_unreadable s hbefore he later
    obtain ⟨htext', hjson'⟩ := check_of_unreadable s' hbefore he later
    cases format with
    | text => rw [htext, htext']
    | json => rw [hjson, hjson']

end Command

open Validation in
/-- No setting changes what is an error. Two settings give the same blocks left open, the same errors
and the same findings but for else branches outside of any conditional, which are reported only where
they are checked; so whether there are errors and how a check of files ends is the same too. -/
theorem errors_under_settings (s s' : Settings) (text : Text) :
    (s.report text).residue = (s'.report text).residue ∧
    (s.report text).findings.filter Finding.isError =
      (s'.report text).findings.filter Finding.isError ∧
    (s.report text).findings.filter (·.code ≠ .strayElse) =
      (s'.report text).findings.filter (·.code ≠ .strayElse) ∧
    (∀ f ∈ (s.report text).findings, f.code = .strayElse → s.elseCheck = .warn) ∧
    (s.report text).hasErrors = (s'.report text).hasErrors ∧
    ∀ host files format,
      (Command.check s host files format).code = (Command.check s' host files format).code := by
  refine ⟨?_, ?_, ?_, fun f hf hcode => ?_, ?_, Command.code_check s s'⟩
  · exact (residue_validate ..).trans (residue_validate ..).symm
  · exact (filter_isError_validate ..).trans (filter_isError_validate ..).symm
  · exact (filter_validate ..).trans (filter_validate ..).symm
  · cases hcheck : s.elseCheck with
    | warn => rfl
    | unchecked =>
      rw [Settings.report, hcheck] at hf
      exact absurd hcode (Finding.isSteady_iff.1 (isSteady_of_mem_validate hf))
  · exact (hasErrors_validate ..).trans (hasErrors_validate ..).symm

/-- An else branch of nothing, between a closer of nothing and a line without its full stop. -/
def strayElseText : Text := "FinSi.\nSinon.\nAffiche x\nTantQue x.".toList

/-- Settings that differ from the default ones in everything. -/
def warningSettings : Settings := ⟨8, .french, "python3".toList, .warn⟩

theorem strayElseText_errors :
    Finding.ofCode (.onLine 1 (0, 6)) .strayElse ∈ (warningSettings.report strayElseText).findings ∧
    (warningSettings.report strayElseText).findings.filter (·.code ≠ .strayElse) =
      (Settings.default.report strayElseText).findings ∧
    (Settings.default.report strayElseText).hasErrors = true ∧
    (warningSettings.report strayElseText).hasErrors = true := by
  have hdefault : (Settings.default.report strayElseText).hasErrors = true := by decide +kernel
  obtain ⟨-, -, hsteady, -, herrors, -⟩ :=
    errors_under_settings warningSettings .default strayElseText
  refine ⟨by decide +kernel, ?_, hdefault, herrors.trans hdefault⟩
  rw [hsteady]
  decide +kernel

end Bilingua
