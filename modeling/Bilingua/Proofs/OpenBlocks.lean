import Bilingua.Proofs.Depth
import Mathlib.Order.WellFounded

/-!
# Open blocks and their ends

A closer ends the innermost open block of its construct. `openBlocks` keeps the open blocks of one
construct as a stack of the lines that open them, and `mem_openBlocks_iff` says which ones these are
without a stack: a block ends at the first line up to which, from its opener on, there are as many
openers as closers (`Matches`), and it is open until then.
-/

namespace Bilingua

def stretch (kinds : List LineKind) (i m : Nat) : List LineKind := (kinds.take m).drop i

/-- The lines after line `i` up to which, from line `i` on, there are as many openers as closers. -/
def evenLines (k : Construct) (kinds : List LineKind) (i : Nat) : Set Nat :=
  {j | i < j ∧ j < kinds.length ∧
    (stretch kinds i (j + 1)).count (.opener k) = (stretch kinds i (j + 1)).count (.closer k)}

/-- The block of `k` that line `i` opens ends at line `j`. -/
def Matches (k : Construct) (kinds : List LineKind) (i j : Nat) : Prop :=
  IsLeast (evenLines k kinds i) j

/-- The lines whose blocks of `k` are open before line `m`, innermost first. -/
def openBlocks (k : Construct) (kinds : List LineKind) : Nat → List Nat
  | 0 => []
  | m + 1 =>
    if kinds[m]? = some (.opener k) then m :: openBlocks k kinds m
    else if kinds[m]? = some (.closer k) then (openBlocks k kinds m).tail
    else openBlocks k kinds m

variable {k : Construct} {kinds : List LineKind} {i j m m' : Nat}

theorem count_stretch_succ (h : i ≤ m) (kind : LineKind) :
    (stretch kinds i (m + 1)).count kind =
      (stretch kinds i m).count kind + if kinds[m]? = some kind then 1 else 0 := by
  unfold stretch
  rw [List.take_add_one, List.drop_append, List.count_append]
  congr 1
  rcases Nat.lt_or_ge m kinds.length with hm | hm
  · rw [List.length_take_of_le (Nat.le_of_lt hm), Nat.sub_eq_zero_of_le h,
      List.getElem?_eq_getElem hm]
    simp [List.count_singleton]
  · simp [List.getElem?_eq_none hm]

theorem stretch_self (kinds : List LineKind) (i : Nat) : stretch kinds i i = [] :=
  List.drop_eq_nil_of_le (List.length_take_le i kinds)

/-! ## The stack of open blocks -/

theorem openBlocks_opener (h : kinds[m]? = some (.opener k)) :
    openBlocks k kinds (m + 1) = m :: openBlocks k kinds m := by
  rw [openBlocks, if_pos h]

theorem openBlocks_closer (h : kinds[m]? = some (.closer k)) :
    openBlocks k kinds (m + 1) = (openBlocks k kinds m).tail := by
  rw [openBlocks, if_neg (by simp [h]), if_pos h]

theorem openBlocks_other (ho : kinds[m]? ≠ some (.opener k)) (hc : kinds[m]? ≠ some (.closer k)) :
    openBlocks k kinds (m + 1) = openBlocks k kinds m := by
  rw [openBlocks, if_neg ho, if_neg hc]

/-- What a line does to the open blocks: it opens one, ends the innermost, or leaves them. -/
theorem openBlocks_succ_cases (k : Construct) (kinds : List LineKind) (m : Nat) :
    kinds[m]? = some (.opener k) ∧ openBlocks k kinds (m + 1) = m :: openBlocks k kinds m ∨
      kinds[m]? = some (.closer k) ∧ openBlocks k kinds (m + 1) = (openBlocks k kinds m).tail ∨
      kinds[m]? ≠ some (.opener k) ∧ kinds[m]? ≠ some (.closer k) ∧
        openBlocks k kinds (m + 1) = openBlocks k kinds m := by
  by_cases ho : kinds[m]? = some (.opener k)
  · exact .inl ⟨ho, openBlocks_opener ho⟩
  · by_cases hc : kinds[m]? = some (.closer k)
    · exact .inr (.inl ⟨hc, openBlocks_closer hc⟩)
    · exact .inr (.inr ⟨ho, hc, openBlocks_other ho hc⟩)

theorem mem_openBlocks_succ (h : i ∈ openBlocks k kinds (m + 1)) :
    i = m ∧ kinds[m]? = some (.opener k) ∨ i ∈ openBlocks k kinds m := by
  rcases openBlocks_succ_cases k kinds m with ⟨ho, heq⟩ | ⟨_, heq⟩ | ⟨_, _, heq⟩
  · rw [heq, List.mem_cons] at h
    exact h.imp_left fun hi => ⟨hi, ho⟩
  · rw [heq] at h
    exact .inr (List.mem_of_mem_tail h)
  · rw [heq] at h
    exact .inr h

theorem opener_of_mem_openBlocks (h : i ∈ openBlocks k kinds m) :
    i < m ∧ kinds[i]? = some (.opener k) := by
  induction m with
  | zero => cases h
  | succ m ih =>
    rcases mem_openBlocks_succ h with ⟨rfl, ho⟩ | h
    · exact ⟨Nat.lt_succ_self i, ho⟩
    · exact ⟨Nat.lt_succ_of_lt (ih h).1, (ih h).2⟩

theorem mem_openBlocks_of_le (h : i ∈ openBlocks k kinds m') (hi : i < m) (hm : m ≤ m') :
    i ∈ openBlocks k kinds m := by
  induction m', hm using Nat.le_induction with
  | base => exact h
  | succ m' hm ih =>
    rcases mem_openBlocks_succ h with ⟨rfl, _⟩ | h
    · omega
    · exact ih h

/-- Below an open block lie the blocks that were open before it. -/
theorem openBlocks_of_suffix {rest : List Nat} (h : i :: rest <:+ openBlocks k kinds m) :
    rest = openBlocks k kinds i := by
  induction m with
  | zero => cases List.suffix_nil.1 h
  | succ m ih =>
    rcases openBlocks_succ_cases k kinds m with ⟨_, heq⟩ | ⟨_, heq⟩ | ⟨_, _, heq⟩
    · rw [heq, List.suffix_cons_iff] at h
      rcases h with h | h
      · obtain ⟨rfl, rfl⟩ := List.cons_eq_cons.1 h
        rfl
      · exact ih h
    · rw [heq] at h
      exact ih (h.trans (List.tail_suffix _))
    · rw [heq] at h
      exact ih h

theorem pairwise_openBlocks (k : Construct) (kinds : List LineKind) (m : Nat) :
    (openBlocks k kinds m).Pairwise (· > ·) := by
  induction m with
  | zero => exact .nil
  | succ m ih =>
    rcases openBlocks_succ_cases k kinds m with ⟨_, heq⟩ | ⟨_, heq⟩ | ⟨_, _, heq⟩
    · rw [heq]
      exact .cons (fun i hi => (opener_of_mem_openBlocks hi).1) ih
    · rw [heq]
      exact ih.tail
    · rw [heq]
      exact ih

/-! ## Where blocks end -/

/-- From an open block on, the openers exceed the closers by that block and those within it. -/
theorem count_of_openBlocks (inner : List Nat) {rest : List Nat}
    (h : openBlocks k kinds m = inner ++ i :: rest) :
    (stretch kinds i m).count (.opener k) =
      (stretch kinds i m).count (.closer k) + inner.length + 1 := by
  induction m generalizing inner with
  | zero => cases List.append_eq_nil_iff.1 h.symm |>.2
  | succ m ih =>
    have him : i ≤ m := by
      have hmem : i ∈ openBlocks k kinds (m + 1) := by simp [h]
      have := (opener_of_mem_openBlocks hmem).1
      omega
    rw [count_stretch_succ him, count_stretch_succ him]
    rcases openBlocks_succ_cases k kinds m with ⟨ho, heq⟩ | ⟨hc, heq⟩ | ⟨ho, hc, heq⟩
    · rw [heq] at h
      cases inner with
      | nil =>
        obtain ⟨rfl, _⟩ := List.cons_eq_cons.1 h
        simp [ho, stretch_self]
      | cons a inner =>
        obtain ⟨rfl, hlater⟩ := List.cons_eq_cons.1 h
        have := ih inner hlater
        simp only [ho, if_true, Option.some_inj, reduceCtorEq, if_false, List.length_cons]
        omega
    · rw [heq] at h
      cases hstack : openBlocks k kinds m with
      | nil => simp [hstack] at h
      | cons a stack =>
        rw [hstack, List.tail_cons] at h
        have := ih (a :: inner) (by rw [hstack, h, List.cons_append])
        simp only [hc, if_true, Option.some_inj, reduceCtorEq, if_false, List.length_cons] at this ⊢
        omega
    · rw [heq] at h
      have := ih inner h
      simp only [ho, hc, if_false]
      omega

theorem not_mem_evenLines (h : i ∈ openBlocks k kinds (j + 1)) : j ∉ evenLines k kinds i := by
  rintro ⟨_, _, heven⟩
  obtain ⟨inner, rest, hstack⟩ := List.append_of_mem h
  have := count_of_openBlocks inner hstack
  omega

theorem matches_of_closer {rest : List Nat} (hc : kinds[j]? = some (.closer k))
    (h : openBlocks k kinds j = i :: rest) : Matches k kinds i j := by
  have hmem : i ∈ openBlocks k kinds j := by simp [h]
  have hi := (opener_of_mem_openBlocks hmem).1
  constructor
  · refine ⟨hi, (List.getElem?_eq_some_iff.1 hc).1, ?_⟩
    have := count_of_openBlocks [] h
    rw [count_stretch_succ (Nat.le_of_lt hi), count_stretch_succ (Nat.le_of_lt hi)]
    simp only [hc, if_true, Option.some_inj, reduceCtorEq, if_false, List.length_nil] at this ⊢
    omega
  · intro j' hj'
    by_contra hlt
    exact not_mem_evenLines (mem_openBlocks_of_le hmem (Nat.lt_succ_of_lt hj'.1) (by omega)) hj'

theorem closer_of_not_mem (h : i ∈ openBlocks k kinds m) (h' : i ∉ openBlocks k kinds (m + 1)) :
    kinds[m]? = some (.closer k) ∧ openBlocks k kinds m = i :: openBlocks k kinds i := by
  rcases openBlocks_succ_cases k kinds m with ⟨_, heq⟩ | ⟨hc, heq⟩ | ⟨_, _, heq⟩
  · exact absurd (heq ▸ List.mem_cons_of_mem m h) h'
  · refine ⟨hc, ?_⟩
    cases hstack : openBlocks k kinds m with
    | nil => simp [hstack] at h
    | cons a stack =>
      rw [heq, hstack, List.tail_cons] at h'
      rw [hstack, List.mem_cons] at h
      obtain rfl := h.resolve_right h'
      rw [← openBlocks_of_suffix ⟨[], hstack.symm⟩]
  · exact absurd (heq ▸ h) h'

/-- The blocks that are open before a line, without a stack: those that do not end before it. -/
theorem mem_openBlocks_iff :
    i ∈ openBlocks k kinds m ↔
      i < m ∧ kinds[i]? = some (.opener k) ∧ ∀ j, Matches k kinds i j → m ≤ j := by
  constructor
  · intro h
    obtain ⟨hi, ho⟩ := opener_of_mem_openBlocks h
    refine ⟨hi, ho, fun j hj => ?_⟩
    by_contra hlt
    exact not_mem_evenLines (mem_openBlocks_of_le h (Nat.lt_succ_of_lt hj.1.1) (by omega)) hj.1
  · rintro ⟨hi, ho, hend⟩
    induction m, Nat.succ_le_of_lt hi using Nat.le_induction with
    | base => exact openBlocks_opener ho ▸ List.mem_cons_self
    | succ m hm ih =>
      have hopen := ih (by omega) fun j hj => Nat.le_of_succ_le (hend j hj)
      by_contra hclosed
      obtain ⟨hc, hstack⟩ := closer_of_not_mem hopen hclosed
      have := hend m (matches_of_closer hc hstack)
      omega

/-- The line where a block ends is a closer, and the block is the innermost one there. -/
theorem Matches.closer (h : Matches k kinds i j) (ho : kinds[i]? = some (.opener k)) :
    kinds[j]? = some (.closer k) ∧ openBlocks k kinds j = i :: openBlocks k kinds i := by
  have hopen : i ∈ openBlocks k kinds j :=
    mem_openBlocks_iff.2 ⟨h.1.1, ho, fun j' hj' => (h.unique hj').le⟩
  have hclosed : i ∉ openBlocks k kinds (j + 1) := fun hmem => by
    have := (mem_openBlocks_iff.1 hmem).2.2 j h
    omega
  exact closer_of_not_mem hopen hclosed

theorem Matches.exists_of_inner (h : Matches k kinds i j) (ho : kinds[i]? = some (.opener k))
    (hi : i < m) (hj : m < j) (hm : kinds[m]? = some (.opener k)) :
    ∃ j' < j, Matches k kinds m j' := by
  have hclosed : m ∉ openBlocks k kinds j := by
    rw [(h.closer ho).2, List.mem_cons]
    rintro (heq | hmem)
    · omega
    · have := (opener_of_mem_openBlocks hmem).1
      omega
  rw [mem_openBlocks_iff] at hclosed
  push Not at hclosed
  obtain ⟨j', hmatch, hlt⟩ := hclosed hj hm
  exact ⟨j', hlt, hmatch⟩

theorem evenLines_eq_empty (h : ∀ j, ¬ Matches k kinds i j) : evenLines k kinds i = ∅ := by
  by_contra hne
  obtain ⟨j, hj, hmin⟩ := wellFounded_lt.has_min _ (Set.nonempty_iff_ne_empty.2 hne)
  exact h j ⟨hj, fun j' hj' => Nat.le_of_not_lt (hmin j' hj')⟩

end Bilingua
