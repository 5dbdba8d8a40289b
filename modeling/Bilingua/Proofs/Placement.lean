import Bilingua.Proofs.Findings

/-!
# Lines out of place

A closer is reported if no block of its construct is open, and an else branch if no conditional is.
Both can be told from the kinds of the lines alone, without a count that is carried along: look at
the stretches of lines that end at the line, and compare the openers with the closers in each.
-/

namespace Bilingua

/-- Line `i` closes a block of `k`, and each stretch of lines that ends with it has more closers
than openers of `k`. -/
def ClosesNothing (kinds : List LineKind) (i : Nat) (k : Construct) : Prop :=
  kinds[i]? = some (.closer k) ∧
    ∀ j ≤ i, ((kinds.take (i + 1)).drop j).count (.opener k) <
      ((kinds.take (i + 1)).drop j).count (.closer k)

/-- Line `i` is an else branch, and no stretch of lines that ends before it has more openers than
closers of conditionals. -/
def ElseOfNothing (kinds : List LineKind) (i : Nat) : Prop :=
  kinds[i]? = some .elseBranch ∧
    ∀ j ≤ i, ((kinds.take i).drop j).count (.opener .conditional) ≤
      ((kinds.take i).drop j).count (.closer .conditional)

section

variable {kinds : List LineKind} {i : Nat} {k : Construct}

/-- The ends of the lines before a line are the stretches from a line up to it. -/
theorem forall_suffix_take_iff {p : List LineKind → Prop} (hi : i < kinds.length) :
    (∀ s, s <:+ kinds.take i → p s) ↔ ∀ j ≤ i, p ((kinds.take i).drop j) := by
  constructor
  · intro h j _
    exact h _ (List.drop_suffix j _)
  · intro h s hs
    have hlen : (kinds.take i).length = i := List.length_take_of_le (Nat.le_of_lt hi)
    rw [List.suffix_iff_eq_drop.1 hs]
    exact h _ (by omega)

theorem closesNothing_iff :
    ClosesNothing kinds i k ↔
      kinds[i]? = some (.closer k) ∧ (Nesting.none.afterAll (kinds.take i)).depth k = 0 := by
  refine and_congr_right fun hk => ?_
  have hi : i < kinds.length := (List.getElem?_eq_some_iff.1 hk).1
  rw [Nesting.depth_afterAll_eq_zero, forall_suffix_take_iff hi]
  -- The line itself is one closer more at the end of each stretch.
  have htake : kinds.take (i + 1) = kinds.take i ++ [.closer k] := by
    rw [List.take_add_one, hk]
    rfl
  refine forall_congr' fun j => forall_congr' fun hj => ?_
  have hlen : (kinds.take i).length = i := List.length_take_of_le (Nat.le_of_lt hi)
  rw [htake, List.drop_append_of_le_length (by omega)]
  simp only [List.count_append, List.count_singleton_self,
    List.count_singleton, beq_iff_eq, reduceCtorEq, if_false]
  omega

theorem elseOfNothing_iff :
    ElseOfNothing kinds i ↔
      kinds[i]? = some .elseBranch ∧
        (Nesting.none.afterAll (kinds.take i)).depth .conditional = 0 := by
  refine and_congr_right fun hk => ?_
  have hi : i < kinds.length := (List.getElem?_eq_some_iff.1 hk).1
  rw [Nesting.depth_afterAll_eq_zero, forall_suffix_take_iff hi]

end

def Report.on (r : Report) (code : Code) (i : Nat) : List Finding :=
  r.findings.filter fun f => f.code = code ∧ f.range.start.line = i

theorem Report.mem_on {r : Report} {code : Code} {i : Nat} {f : Finding} :
    f ∈ r.on code i ↔ f ∈ r.findings ∧ f.code = code ∧ f.range.start.line = i := by
  simp [Report.on]

theorem Report.on_eq (r : Report) (code : Code) (i : Nat) :
    r.on code i = (r.findings.filter (·.line = i)).filter (·.code = code) := by
  rw [List.filter_filter]
  exact List.filter_congr fun f _ => Bool.decide_and _ _

theorem Finding.eq_of_unmatchedCloser_eq {range range' : Range} {k k' : Construct}
    (h : Finding.unmatchedCloser range k = .unmatchedCloser range' k') : k = k' := by
  have hm : k.closerLabel ++ " sans ".toList ++ k.label ++ " correspondant.".toList =
      k'.closerLabel ++ " sans ".toList ++ k'.label ++ " correspondant.".toList :=
    congrArg Finding.message h
  revert hm
  cases k <;> cases k' <;> decide

namespace Validation

variable {check : ElseCheck} {lines : List Text} {i : Nat} {code : Code}

/-- A finding about the place of a line is decided by its kind and the nesting before it. -/
theorem on_validate (hs : code.isShape = false) (hp : code ≠ .unbalancedParentheses)
    (hu : code ≠ .unclosedConstruct) :
    (validate check lines).on code i = lines[i]?.elim [] fun line =>
      (placement check (Nesting.none.afterAll ((Line.kinds lines).take i))
        (.onLine i line.contentSpan) (Line.classify line)).filter (·.code = code) := by
  have hscan := filter_line_scan check .none 0 i lines
  rw [Nat.zero_add] at hscan
  have hend : ((unclosedFindings (Nesting.none.afterAll (Line.kinds lines)) lines).filter
      (·.line = i)).filter (·.code = code) = [] :=
    List.filter_eq_nil_iff.2 fun f hf => by
      simpa [code_of_mem_unclosedFindings (List.mem_filter.1 hf).1] using hu.symm
  rw [Report.on_eq, findings_validate, List.filter_append, List.filter_append, hend,
    List.append_nil, hscan]
  cases lines[i]? with
  | none => rfl
  | some line => exact filter_code_lineFindings hs hp

theorem on_unmatchedCloser (check : ElseCheck) {k : Construct}
    (h : ClosesNothing (Line.kinds lines) i k) :
    ∃ span, (validate check lines).on .unmatchedCloser i =
      [.unmatchedCloser (.onLine i span) k] := by
  obtain ⟨hk, hdepth⟩ := closesNothing_iff.1 h
  rw [Line.kinds_getElem?, Option.map_eq_some_iff] at hk
  obtain ⟨line, hline, hk⟩ := hk
  refine ⟨line.contentSpan, ?_⟩
  rw [on_validate rfl (by decide) (by decide), hline]
  simp [hk, placement_closer, hdepth, Finding.unmatchedCloser]

theorem on_strayElse (h : ElseOfNothing (Line.kinds lines) i) :
    ∃ span, (validate .warn lines).on .strayElse i = [.ofCode (.onLine i span) .strayElse] := by
  obtain ⟨hk, hdepth⟩ := elseOfNothing_iff.1 h
  rw [Line.kinds_getElem?, Option.map_eq_some_iff] at hk
  obtain ⟨line, hline, hk⟩ := hk
  refine ⟨line.contentSpan, ?_⟩
  rw [on_validate rfl (by decide) (by decide), hline]
  simp [hk, placement_elseBranch, hdepth, Finding.ofCode]

theorem out_of_place_of_mem_on {f : Finding} (hs : code.isShape = false)
    (hp : code ≠ .unbalancedParentheses) (hu : code ≠ .unclosedConstruct)
    (h : f ∈ (validate check lines).on code i) :
    (∃ k span, ClosesNothing (Line.kinds lines) i k ∧
        f = .unmatchedCloser (.onLine i span) k) ∨
      ElseOfNothing (Line.kinds lines) i ∧ f.code = .strayElse := by
  rw [on_validate hs hp hu] at h
  cases hline : lines[i]? with
  | none => simp [hline] at h
  | some line =>
    rw [hline, Option.elim_some] at h
    have hkind : (Line.kinds lines)[i]? = some (Line.classify line) := by
      rw [Line.kinds_getElem?, hline]
      rfl
    rcases mem_placement (List.mem_filter.1 h).1 with ⟨k, hk, hdepth, rfl⟩ | ⟨hk, _, hdepth, rfl⟩
    · exact .inl ⟨k, line.contentSpan, closesNothing_iff.2 ⟨hk ▸ hkind, hdepth⟩, rfl⟩
    · exact .inr ⟨elseOfNothing_iff.2 ⟨hk ▸ hkind, hdepth⟩, rfl⟩

theorem closesNothing_of_mem_on {f : Finding}
    (h : f ∈ (validate check lines).on .unmatchedCloser i) :
    ∃ k span, ClosesNothing (Line.kinds lines) i k ∧
      f = .unmatchedCloser (.onLine i span) k := by
  rcases out_of_place_of_mem_on rfl (by decide) (by decide) h with hc | ⟨_, hcode⟩
  · exact hc
  · rw [(Report.mem_on.1 h).2.1] at hcode
    cases hcode

theorem elseOfNothing_of_mem_on {f : Finding}
    (h : f ∈ (validate check lines).on .strayElse i) : ElseOfNothing (Line.kinds lines) i := by
  rcases out_of_place_of_mem_on rfl (by decide) (by decide) h with ⟨k, span, _, rfl⟩ | ⟨he, _⟩
  · have hcode := (Report.mem_on.1 h).2.1
    cases hcode
  · exact he

/-- Which lines are out of place is a matter of the kinds of the lines: an unmatched closer ends
only stretches with more closers than openers, and it is reported once, with its construct; a stray
else branch follows only stretches with no more openers than closers of conditionals. -/
theorem out_of_place_iff (check : ElseCheck) (lines : List Text) (i : Nat) :
    ((∃ f ∈ (validate check lines).findings,
        f.code = .unmatchedCloser ∧ f.range.start.line = i) ↔
      ∃ k, ClosesNothing (Line.kinds lines) i k) ∧
    (∀ k, ClosesNothing (Line.kinds lines) i k ↔
      ∃ span, (validate check lines).on .unmatchedCloser i =
        [.unmatchedCloser (.onLine i span) k]) ∧
    ((∃ f ∈ (validate .warn lines).findings, f.code = .strayElse ∧ f.range.start.line = i) ↔
      ElseOfNothing (Line.kinds lines) i) := by
  simp only [← Report.mem_on]
  refine ⟨⟨?_, ?_⟩, fun k => ⟨on_unmatchedCloser check, ?_⟩, ⟨?_, ?_⟩⟩
  · rintro ⟨f, hf⟩
    obtain ⟨k, _, hk, _⟩ := closesNothing_of_mem_on hf
    exact ⟨k, hk⟩
  · rintro ⟨k, hk⟩
    obtain ⟨span, hon⟩ := on_unmatchedCloser check hk
    exact ⟨.unmatchedCloser (.onLine i span) k, by rw [hon]; exact List.mem_singleton_self _⟩
  · rintro ⟨span, hon⟩
    have hf : Finding.unmatchedCloser (.onLine i span) k ∈
        (validate check lines).on .unmatchedCloser i := by
      rw [hon]
      exact List.mem_singleton_self _
    obtain ⟨k', span', hk', heq⟩ := closesNothing_of_mem_on hf
    rw [Finding.eq_of_unmatchedCloser_eq heq]
    exact hk'
  · rintro ⟨f, hf⟩
    exact elseOfNothing_of_mem_on hf
  · intro h
    obtain ⟨span, hon⟩ := on_strayElse h
    exact ⟨.ofCode (.onLine i span) .strayElse, by rw [hon]; exact List.mem_singleton_self _⟩

end Validation

end Bilingua
