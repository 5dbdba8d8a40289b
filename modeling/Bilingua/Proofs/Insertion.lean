import Bilingua.Proofs.Pairing

/-!
# An opener put in

Two documents that differ by one opener have the same blocks open up to it and one more of its
construct after it. They differ by this one block until the first closer that closes nothing in the
shorter document: in the longer one it closes the block, and from there on nothing is different
(`Validation.scan_opening`). If there is no such closer, the block is left open.
-/

namespace Bilingua

def Report.unmatchedClosers (r : Report) : List Finding :=
  r.findings.filter (·.code = .unmatchedCloser)

/-- The finding tells of a closer of `k`, on line `p` or a later one, that closes nothing. -/
def Finding.tellsUnmatchedFrom (p : Nat) (k : Construct) (f : Finding) : Bool :=
  f.tellsUnmatched k && decide (p ≤ f.line)

/-! ## One block more -/

namespace Nesting

variable {n : Nesting} {k : Construct} {kind : LineKind}

theorem closing_opening (n : Nesting) (k : Construct) : (n.opening k).closing k = n := by
  ext c
  simp only [depth_closing, depth_opening]
  split <;> omega

theorem closing_of_depth_eq_zero (h : n.depth k = 0) : n.closing k = n := by
  ext c
  rw [depth_closing]
  split
  · next hc => rw [hc, h]
  · rfl

/-- A line leaves the one block more as it is, unless it is the closer that closes it. -/
theorem after_opening (h : kind = .closer k → n.depth k ≠ 0) :
    (n.opening k).after kind = (n.after kind).opening k := by
  ext c
  simp only [depth_after, depth_opening]
  by_cases hc : c = k
  · subst hc
    by_cases hkind : kind = .closer c
    · have := h hkind
      simp only [hkind, reduceCtorEq, if_true, if_false]
      omega
    · simp only [hkind, if_true, if_false]
      split <;> omega
  · simp only [hc, if_false]

end Nesting

namespace Validation

variable {check : ElseCheck} {n : Nesting} {i p : Nat} {line : Text} {lines xs ys : List Text}
  {c k : Construct}

def unmatchedScan (check : ElseCheck) (i : Nat) (n : Nesting) (lines : List Text) : List Finding :=
  (scan check i n lines).1.filter (·.code = .unmatchedCloser)

theorem unmatched_of_closer (h : Line.classify line = .closer c) :
    (lineFindings check n i line).filter (·.code = .unmatchedCloser) =
      if n.depth c = 0 then [.unmatchedCloser (.onLine i line.contentSpan) c] else [] := by
  rw [filter_code_lineFindings rfl (by decide), h, placement_closer]
  split <;> rfl

theorem unmatched_of_other (h : ∀ c, Line.classify line ≠ .closer c) :
    (lineFindings check n i line).filter (·.code = .unmatchedCloser) = [] := by
  rw [filter_code_lineFindings rfl (by decide), List.filter_eq_nil_iff]
  intro f hf hcode
  rcases mem_placement hf with ⟨c, hc, _, _⟩ | ⟨_, _, _, rfl⟩
  · exact h c hc
  · cases hcode

theorem unmatchedScan_cons : unmatchedScan check i n (line :: lines) =
    (lineFindings check n i line).filter (·.code = .unmatchedCloser) ++
      unmatchedScan check (i + 1) (n.after (Line.classify line)) lines := by
  unfold unmatchedScan
  rw [scan_cons, List.filter_append]

/-- A line that does not close the one block more is reported as without it. -/
theorem unmatched_opening (h : Line.classify line = .closer k → n.depth k ≠ 0) :
    (lineFindings check (n.opening k) i line).filter (·.code = .unmatchedCloser) =
      (lineFindings check n i line).filter (·.code = .unmatchedCloser) := by
  by_cases hcloser : ∃ c, Line.classify line = .closer c
  · obtain ⟨c, hc⟩ := hcloser
    rw [unmatched_of_closer hc, unmatched_of_closer hc, Nesting.depth_opening]
    by_cases hck : c = k
    · subst hck
      rw [if_pos rfl, if_neg (Nat.succ_ne_zero _), if_neg (h hc)]
    · rw [if_neg hck]
  · push Not at hcloser
    rw [unmatched_of_other hcloser, unmatched_of_other hcloser]

theorem not_tellsUnmatchedFrom (check : ElseCheck) (i p : Nat)
    (h : Line.classify line = .closer k → n.depth k ≠ 0) :
    ∀ f ∈ (lineFindings check n i line).filter (·.code = .unmatchedCloser),
      ¬ f.tellsUnmatchedFrom p k = true := by
  intro f hf htells
  have htold := (Bool.and_eq_true_iff.1 htells).1
  have hcount := countP_lineFindings check n i line k
  rw [if_neg (fun hc => h hc.1 hc.2), List.countP_eq_zero] at hcount
  exact hcount f (List.mem_filter.1 hf).1 htold

/-- With one block more, the first closer of its construct that is reported without it is not reported
any more, and no other; and the block is left open if there is no such closer. -/
theorem scan_opening (check : ElseCheck) (n : Nesting) (lines : List Text) (k : Construct)
    (hp : p ≤ i) :
    unmatchedScan check i (n.opening k) lines =
      (unmatchedScan check i n lines).eraseP (Finding.tellsUnmatchedFrom p k) ∧
    (n.opening k).afterAll (Line.kinds lines) =
      if (unmatchedScan check i n lines).any (Finding.tellsUnmatchedFrom p k)
      then n.afterAll (Line.kinds lines)
      else (n.afterAll (Line.kinds lines)).opening k := by
  induction lines generalizing i n with
  | nil => exact ⟨rfl, rfl⟩
  | cons line lines ih =>
    rw [unmatchedScan_cons, unmatchedScan_cons, Line.kinds_cons, Nesting.afterAll_cons,
      Nesting.afterAll_cons]
    by_cases h : Line.classify line = .closer k ∧ n.depth k = 0
    · -- Here the two nestings become the same.
      obtain ⟨hc, hdepth⟩ := h
      have hopen : (n.opening k).depth k ≠ 0 := by
        rw [Nesting.depth_opening, if_pos rfl]
        exact Nat.succ_ne_zero _
      have htells : (Finding.unmatchedCloser (.onLine i line.contentSpan) k).tellsUnmatchedFrom p k =
          true :=
        Bool.and_eq_true_iff.2
          ⟨Finding.tellsUnmatched_unmatchedCloser.2 rfl, decide_eq_true hp⟩
      have hafter : (n.opening k).after (.closer k) = n := Nesting.closing_opening n k
      have hstays : n.after (.closer k) = n := Nesting.closing_of_depth_eq_zero hdepth
      rw [unmatched_of_closer hc, unmatched_of_closer hc, if_neg hopen, if_pos hdepth, hc, hafter,
        hstays, List.nil_append, List.singleton_append, List.eraseP_cons_of_pos htells,
        List.any_cons, htells]
      exact ⟨rfl, rfl⟩
    · have hkeeps : Line.classify line = .closer k → n.depth k ≠ 0 := fun hc hdepth => h ⟨hc, hdepth⟩
      have hnone := not_tellsUnmatchedFrom check i p hkeeps
      obtain ⟨hscan, hafter⟩ := ih (n.after (Line.classify line)) (hp.trans (Nat.le_succ i))
      have hany : ((lineFindings check n i line).filter (·.code = .unmatchedCloser)).any
          (Finding.tellsUnmatchedFrom p k) = false := List.any_eq_false.2 hnone
      rw [unmatched_opening hkeeps, Nesting.after_opening hkeeps, hscan, hafter,
        List.eraseP_append_right _ hnone, List.any_append, hany, Bool.false_or]
      exact ⟨rfl, rfl⟩

/-! ## The document with the opener -/

theorem unmatchedClosers_validate (check : ElseCheck) (lines : List Text) :
    (validate check lines).unmatchedClosers = unmatchedScan check 0 .none lines := by
  have hend : (unclosedFindings (Nesting.none.afterAll (Line.kinds lines)) lines).filter
      (·.code = .unmatchedCloser) = [] :=
    List.filter_eq_nil_iff.2 fun f hf => by simp [code_of_mem_unclosedFindings hf]
  unfold Report.unmatchedClosers unmatchedScan
  rw [findings_validate, List.filter_append, hend, List.append_nil]

theorem unmatchedScan_append : unmatchedScan check i n (xs ++ ys) = unmatchedScan check i n xs ++
    unmatchedScan check (i + xs.length) (n.afterAll (Line.kinds xs)) ys := by
  unfold unmatchedScan
  rw [scan_append, List.filter_append]

theorem unmatchedScan_renumber (check : ElseCheck) (n : Nesting) {f : Nat → Nat} {i' : Nat}
    (hf : Moves f i i' lines.length) :
    unmatchedScan check i' n lines = (unmatchedScan check i n lines).map (Finding.renumber f) := by
  unfold unmatchedScan
  rw [scan_renumber hf, List.filter_map]
  rfl

theorem moves_makeRoom (p count : Nat) : Moves (makeRoom p) p (p + 1) count := by
  intro j _
  rw [Nat.add_comm p j, makeRoom_add]
  omega

theorem validate_insert (check : ElseCheck) (xs ys : List Text) (hk : Line.classify line = .opener k) :
    (validate check (xs ++ line :: ys)).unmatchedClosers =
      ((validate check (xs ++ ys)).unmatchedClosers.eraseP
        (Finding.tellsUnmatchedFrom xs.length k)).map (Finding.renumber (makeRoom xs.length)) ∧
    (validate check (xs ++ line :: ys)).residue =
      if (validate check (xs ++ ys)).unmatchedClosers.any (Finding.tellsUnmatchedFrom xs.length k)
      then (validate check (xs ++ ys)).residue
      else (validate check (xs ++ ys)).residue.opening k := by
  have hbefore : ∀ f ∈ unmatchedScan check 0 .none xs,
      ¬ f.tellsUnmatchedFrom xs.length k = true := by
    intro f hf htells
    have hlt := line_lt_of_mem_scan (List.mem_filter.1 hf).1
    have hle := of_decide_eq_true (Bool.and_eq_true_iff.1 htells).2
    omega
  have hfirst := unmatchedScan_renumber check .none (makeRoom_before xs.length)
  have hshort : (validate check (xs ++ ys)).unmatchedClosers = unmatchedScan check 0 .none xs ++
      unmatchedScan check xs.length (Nesting.none.afterAll (Line.kinds xs)) ys := by
    rw [unmatchedClosers_validate, unmatchedScan_append, Nat.zero_add]
  have hlong : (validate check (xs ++ line :: ys)).unmatchedClosers =
      unmatchedScan check 0 .none xs ++ unmatchedScan check (xs.length + 1)
        ((Nesting.none.afterAll (Line.kinds xs)).opening k) ys := by
    rw [unmatchedClosers_validate, unmatchedScan_append, unmatchedScan_cons,
      unmatched_of_other (by simp [hk]), hk, List.nil_append, Nat.zero_add]
    rfl
  obtain ⟨hscan, hafter⟩ := scan_opening check (Nesting.none.afterAll (Line.kinds xs)) ys k
    (Nat.le_refl xs.length)
  constructor
  · rw [hlong, hshort, List.eraseP_append_right _ hbefore, List.map_append, ← hfirst,
      unmatchedScan_renumber check _ (moves_makeRoom xs.length ys.length), hscan]
  · rw [hshort, List.any_append, List.any_eq_false.2 hbefore, Bool.false_or, residue_validate,
      residue_validate, Line.kinds_append, Line.kinds_append, Line.kinds_cons, hk,
      Nesting.afterAll_append, Nesting.afterAll_append, Nesting.afterAll_cons]
    exact hafter

end Validation

/-- What an opener does where it is put in. If a closer of its construct is reported from there on,
the first such closer is not reported any more, and all other findings of closers and the blocks left
open stay, under the new numbers of the lines. If none is, all these findings stay and one block more
of the construct is left open. -/
theorem opener_inserted (check : ElseCheck) (lines : List Text) (p : Nat) (opener : Text)
    (k : Construct) (hp : p ≤ lines.length) (hk : Line.classify opener = .opener k) :
    ((∃ f ∈ (validate check lines).unmatchedClosers, f.tellsUnmatchedFrom p k = true) →
      (validate check (lines.insertIdx p opener)).unmatchedClosers =
        ((validate check lines).unmatchedClosers.eraseP (Finding.tellsUnmatchedFrom p k)).map
          (Finding.renumber (makeRoom p)) ∧
      (validate check (lines.insertIdx p opener)).residue = (validate check lines).residue) ∧
    ((∀ f ∈ (validate check lines).unmatchedClosers, f.tellsUnmatchedFrom p k = false) →
      (validate check (lines.insertIdx p opener)).unmatchedClosers =
        (validate check lines).unmatchedClosers.map (Finding.renumber (makeRoom p)) ∧
      ∀ c, (validate check (lines.insertIdx p opener)).residue.depth c =
        (validate check lines).residue.depth c + if c = k then 1 else 0) := by
  obtain ⟨xs, ys, rfl, rfl, hinsert⟩ := List.exists_of_modifyTailIdx (List.cons opener) hp
  have hsplit : (xs ++ ys).insertIdx xs.length opener = xs ++ opener :: ys := hinsert
  obtain ⟨hclosers, hresidue⟩ := Validation.validate_insert check xs ys hk
  rw [hsplit, hclosers, hresidue]
  constructor
  · intro hreported
    rw [if_pos (List.any_eq_true.2 hreported)]
    exact ⟨rfl, rfl⟩
  · intro hnone
    have hnot : ∀ f ∈ (validate check (xs ++ ys)).unmatchedClosers,
        ¬ f.tellsUnmatchedFrom xs.length k = true := fun f hf => by simp [hnone f hf]
    rw [List.eraseP_of_forall_not hnot, if_neg fun hany => by
      obtain ⟨f, hf, htells⟩ := List.any_eq_true.1 hany
      exact hnot f hf htells]
    refine ⟨rfl, fun c => ?_⟩
    rw [Nesting.depth_opening]
    split <;> rfl

/-- Closers of nothing, before and after a loop with a closer too many. -/
def overclosedDocument : List Text :=
  ["FinSi.".toList, "Pour i de 1 à 2.".toList, "EndIf.".toList, "FinPour.".toList,
    "  FinPour.".toList, "  FinSi.".toList]

/-- A conditional put in before the loop takes the closer inside of it; a loop of the other sort put
in there is left open. -/
theorem overclosedDocument_opener_inserted :
    ((validate .warn overclosedDocument).unmatchedClosers.map fun f => (f.line, f.message)) =
      [(0, "FinSi/EndIf sans Si/If correspondant.".toList),
        (2, "FinSi/EndIf sans Si/If correspondant.".toList),
        (4, "FinPour/EndFor sans Pour/For correspondant.".toList),
        (5, "FinSi/EndIf sans Si/If correspondant.".toList)] ∧
    ((validate .warn (overclosedDocument.insertIdx 1 "Si x.".toList)).unmatchedClosers.map
        fun f => (f.line, f.message)) =
      [(0, "FinSi/EndIf sans Si/If correspondant.".toList),
        (5, "FinPour/EndFor sans Pour/For correspondant.".toList),
        (6, "FinSi/EndIf sans Si/If correspondant.".toList)] ∧
    (validate .warn (overclosedDocument.insertIdx 1 "While x.".toList)).residue.depth .whileLoop =
      1 := by
  obtain ⟨hreported, _⟩ := opener_inserted .warn overclosedDocument 1 "Si x.".toList .conditional
    (by decide) (by decide +kernel)
  obtain ⟨_, hnone⟩ := opener_inserted .warn overclosedDocument 1 "While x.".toList .whileLoop
    (by decide) (by decide +kernel)
  refine ⟨by decide +kernel, ?_, ?_⟩
  · rw [(hreported (by decide +kernel)).1]
    decide +kernel
  · rw [(hnone (by decide +kernel)).2 .whileLoop]
    decide +kernel

end Bilingua
