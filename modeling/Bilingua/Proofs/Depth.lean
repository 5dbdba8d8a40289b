import Bilingua.Validation
import Mathlib.Order.Bounds.Basic

/-!
# Depth along a document

`Line.kinds lines` is all that the nesting of a document depends on, and `Nesting.afterAll` is the
nesting after lines of some kinds. A depth is cut off at zero, so it forgets closers that met
nothing. `Nesting.depth_afterAll_le` says what it is all the same, without a running count: the
greatest excess of openers over closers among the stretches that reach up to the end.
-/

namespace Bilingua

def Line.kinds (lines : List Text) : List LineKind := lines.map Line.classify

@[simp]
theorem Line.kinds_nil : Line.kinds [] = [] := rfl

@[simp]
theorem Line.kinds_cons (line : Text) (lines : List Text) :
    Line.kinds (line :: lines) = Line.classify line :: Line.kinds lines := rfl

@[simp]
theorem Line.kinds_append (xs ys : List Text) :
    Line.kinds (xs ++ ys) = Line.kinds xs ++ Line.kinds ys := List.map_append

theorem Line.kinds_getElem? (lines : List Text) (i : Nat) :
    (Line.kinds lines)[i]? = lines[i]?.map Line.classify := List.getElem?_map

theorem Line.kinds_of_getElem? {lines : List Text} {i : Nat} {line : Text}
    (h : lines[i]? = some line) : (Line.kinds lines)[i]? = some (Line.classify line) := by
  rw [Line.kinds_getElem?, h]
  rfl

namespace Nesting

theorem isBalanced_iff {n : Nesting} : n.isBalanced = true ↔ ∀ k, n.depth k = 0 := by
  constructor
  · intro h k
    have := List.all_eq_true.1 h k (Construct.mem_all k)
    simpa [isOpen] using this
  · intro h
    exact List.all_eq_true.2 fun k _ => by simp [isOpen, h k]

theorem depth_after (n : Nesting) (kind : LineKind) (k : Construct) :
    (n.after kind).depth k =
      if kind = .opener k then n.depth k + 1
      else if kind = .closer k then n.depth k - 1
      else n.depth k := by
  cases kind with
  | opener c => simp [after, depth_opening, eq_comm]
  | closer c => simp [after, depth_closing, eq_comm]
  | _ => simp [after]

def afterAll (n : Nesting) (kinds : List LineKind) : Nesting := kinds.foldl after n

@[simp]
theorem afterAll_nil (n : Nesting) : n.afterAll [] = n := rfl

@[simp]
theorem afterAll_cons (n : Nesting) (kind : LineKind) (kinds : List LineKind) :
    n.afterAll (kind :: kinds) = (n.after kind).afterAll kinds := rfl

/-- One line before others that stay within a bound by themselves. -/
theorem depth_after_add_le {n : Nesting} {kind : LineKind} {k : Construct} {o c m : Nat}
    (h : o ≤ c + m) :
    (n.after kind).depth k + o ≤ c + m ↔
      n.depth k + (o + if kind = .opener k then 1 else 0) ≤
        (c + if kind = .closer k then 1 else 0) + m := by
  rw [depth_after]
  by_cases ho : kind = .opener k
  · simp only [ho, if_true, reduceCtorEq, if_false]
    omega
  · by_cases hc : kind = .closer k
    · -- At depth zero nothing is taken off, but then the bound holds anyway.
      simp only [hc, if_true, reduceCtorEq, if_false]
      omega
    · simp only [ho, hc, if_false]
      omega

/-- A depth stays below a bound if neither the start with all of the lines nor any of their ends
goes beyond it. -/
theorem depth_afterAll_le {n : Nesting} {kinds : List LineKind} {k : Construct} {m : Nat} :
    (n.afterAll kinds).depth k ≤ m ↔
      n.depth k + kinds.count (.opener k) ≤ kinds.count (.closer k) + m ∧
        ∀ s, s <:+ kinds → s.count (.opener k) ≤ s.count (.closer k) + m := by
  induction kinds generalizing n with
  | nil => simp
  | cons kind kinds ih =>
    rw [afterAll_cons, ih]
    simp only [List.suffix_cons_iff, forall_eq_or_imp, List.count_cons, beq_iff_eq]
    constructor
    · rintro ⟨h, hs⟩
      rw [depth_after_add_le (hs kinds List.suffix_rfl)] at h
      exact ⟨h, by omega, hs⟩
    · rintro ⟨h, _, hs⟩
      exact ⟨(depth_after_add_le (hs kinds List.suffix_rfl)).2 h, hs⟩

theorem depth_none_afterAll_le (kinds : List LineKind) (k : Construct) (m : Nat) :
    (none.afterAll kinds).depth k ≤ m ↔
      ∀ s, s <:+ kinds → s.count (.opener k) ≤ s.count (.closer k) + m := by
  rw [depth_afterAll_le, depth_none, Nat.zero_add]
  exact ⟨fun h => h.2, fun h => ⟨h kinds List.suffix_rfl, h⟩⟩

/-- The depth is the greatest excess of openers over closers among the ends of a document. -/
theorem isGreatest_depth (kinds : List LineKind) (k : Construct) :
    IsGreatest {d : Int | ∃ s, s <:+ kinds ∧ d = s.count (.opener k) - s.count (.closer k)}
      ((none.afterAll kinds).depth k) := by
  have hle := (depth_none_afterAll_le kinds k _).1 (Nat.le_refl _)
  constructor
  · rcases Nat.eq_zero_or_pos ((none.afterAll kinds).depth k) with h0 | hpos
    · exact ⟨[], List.nil_suffix, by simp [h0]⟩
    · -- A smaller bound fails, and the end where it fails has all of the depth.
      have hfail : ¬ (none.afterAll kinds).depth k ≤ (none.afterAll kinds).depth k - 1 := by omega
      rw [depth_none_afterAll_le] at hfail
      push Not at hfail
      obtain ⟨s, hs, hlt⟩ := hfail
      have := hle s hs
      exact ⟨s, hs, by omega⟩
  · rintro d ⟨s, hs, rfl⟩
    have := hle s hs
    omega

theorem depth_afterAll_eq_zero {kinds : List LineKind} {k : Construct} :
    (none.afterAll kinds).depth k = 0 ↔
      ∀ s, s <:+ kinds → s.count (.opener k) ≤ s.count (.closer k) := by
  rw [← Nat.le_zero, depth_none_afterAll_le]
  rfl

end Nesting

end Bilingua
