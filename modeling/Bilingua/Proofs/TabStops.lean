import Bilingua.Proofs.Extraction
import Bilingua.Proofs.Reindentation
import Mathlib.Order.Bounds.Basic

/-!
# Tab stops

The width of an indentation has no bound: a space is one column, and a tab goes on to the next tab
stop, the least multiple of the tab size to the right of where it starts (`Indentation.Spans`). What
is measured is this width, or the greatest column if the width is beyond it. A tab at the greatest
column does not start where it would without the bound, but whatever it adds, it stays there.

So an indentation can be replaced by as many spaces as it measures, and the spaces that bring a line
to a column measure that column again.
-/

namespace Bilingua.Indentation

def isIndent (c : Char) : Bool := c == ' ' || c == '\t'

/-- Spaces and tabs that start at one column end at another. -/
inductive Spans (tab : Nat) : Nat → Text → Nat → Prop where
  | nil (column : Nat) : Spans tab column [] column
  | space {column stop : Nat} {run : Text} (h : Spans tab (column + 1) run stop) :
      Spans tab column (' ' :: run) stop
  | tab {column tabStop stop : Nat} {run : Text}
      (hnext : IsLeast {m | tab ∣ m ∧ column < m} tabStop) (h : Spans tab tabStop run stop) :
      Spans tab column ('\t' :: run) stop

variable {tab column tabSize indent : Nat} {run rest line previous current : Text} {c : Char}

theorem isIndent_iff : isIndent c = true ↔ c = ' ' ∨ c = '\t' := by simp [isIndent]

/-! ## Widths -/

/-- Where a tab goes on to. -/
theorem isLeast_tabStop (htab : 0 < tab) (column : Nat) :
    IsLeast {m | tab ∣ m ∧ column < m} (column + (tab - column % tab)) := by
  have hmod := Nat.mod_lt column htab
  have hsplit := Nat.mod_add_div column tab
  refine ⟨⟨⟨column / tab + 1, ?_⟩, by omega⟩, ?_⟩
  · rw [Nat.mul_add, Nat.mul_one]
    omega
  · rintro m ⟨⟨k, rfl⟩, hlt⟩
    -- A smaller multiple would be at most the one at or before the column.
    have hk : column / tab < k := Nat.div_lt_of_lt_mul hlt
    have hle := Nat.mul_le_mul_left tab hk
    rw [Nat.mul_succ] at hle
    omega

theorem exists_spans (htab : 0 < tab) (hrun : ∀ c ∈ run, isIndent c = true) (column : Nat) :
    ∃ stop, Spans tab column run stop := by
  induction run generalizing column with
  | nil => exact ⟨column, .nil column⟩
  | cons c run ih =>
    obtain ⟨hc, hlater⟩ := List.forall_mem_cons.1 hrun
    rcases isIndent_iff.1 hc with rfl | rfl
    · obtain ⟨stop, h⟩ := ih hlater (column + 1)
      exact ⟨stop, .space h⟩
    · obtain ⟨stop, h⟩ := ih hlater (column + (tab - column % tab))
      exact ⟨stop, .tab (isLeast_tabStop htab column) h⟩

theorem widthFrom_of_stops (h : ∀ c, rest.head? = some c → isIndent c = false) :
    widthFrom tab column rest = column :=
  widthFrom_of_head? (fun hspace => absurd (h _ hspace) (by decide))
    fun htab => absurd (h _ htab) (by decide)

theorem Spans.widthFrom_eq {stop : Nat} (h : Spans tab column run stop) (htab : 0 < tab)
    (hrest : ∀ c, rest.head? = some c → isIndent c = false) :
    widthFrom tab column (run ++ rest) = stop := by
  induction h with
  | nil column => exact widthFrom_of_stops hrest
  | space _ ih => exact ih
  | tab hnext _ ih =>
    rw [List.cons_append, widthFrom, ← hnext.unique (isLeast_tabStop htab _), ih]

theorem width_spaces (hrest : ∀ c, rest.head? = some c → isIndent c = false) :
    width (spaces column ++ rest) tabSize = column := by
  rw [width, widthFrom_spaces, widthFrom_of_stops hrest, Nat.zero_add]

theorem le_widthFrom (tab column : Nat) (line : Text) : column ≤ widthFrom tab column line := by
  fun_induction widthFrom tab column line with
  | case1 column t ih => omega
  | case2 column t ih => omega
  | case3 column t => exact Nat.le_refl _

theorem widthFrom_le_append (tab column : Nat) (rest : Text) (hrun : ∀ c ∈ run, isIndent c = true) :
    widthFrom tab column run ≤ widthFrom tab column (run ++ rest) := by
  induction run generalizing column with
  | nil => exact le_widthFrom tab column rest
  | cons c run ih =>
    obtain ⟨hc, hlater⟩ := List.forall_mem_cons.1 hrun
    rcases isIndent_iff.1 hc with rfl | rfl
    · exact ih _ hlater
    · exact ih _ hlater

/-! ## Measured columns -/

theorem measure_le (line : Text) (tabSize : Nat) : measure line tabSize ≤ maxColumn := by
  rw [measure_eq_min]
  exact Nat.min_le_right _ _

theorem measure_spaces (hcolumn : column ≤ maxColumn)
    (hrest : ∀ c, rest.head? = some c → isIndent c = false) :
    measure (spaces column ++ rest) tabSize = column := by
  rw [measure_eq (by rwa [width_spaces hrest]), width_spaces hrest]

theorem next_le (h : indent ≤ maxColumn) : next previous indent current tabSize ≤ maxColumn := by
  have hraised : (if (Line.classify previous).raises then add indent tabSize else indent) ≤
      maxColumn := by
    split
    · exact Nat.min_le_right _ _
    · exact h
  simp only [next]
  split
  · omega
  · exact hraised

/-- What is measured of a line, for every tab size, with zero as one. Each line has leading spaces
and tabs and these have a width; the line measures this width, or the greatest column if that is
less, and as much with that many spaces in place of them. A line whose first spaces and tabs measure
the greatest column measures it too. The spaces that bring a line to a column measure this column,
and no new line is brought to another column than one that can be measured. -/
theorem measure_capped_width :
    (∀ (line : Text) (tabSize : Nat), ∃ run rest width, line = run ++ rest ∧
      Text.Run isIndent run rest ∧ Spans (max tabSize 1) 0 run width) ∧
    (∀ (run rest : Text) (tabSize width : Nat), Text.Run isIndent run rest →
      Spans (max tabSize 1) 0 run width →
      measure (run ++ rest) tabSize = min maxColumn width ∧
      ∀ tabSize', measure (spaces (measure (run ++ rest) tabSize) ++ rest) tabSize' =
        measure (run ++ rest) tabSize) ∧
    (∀ (run rest : Text) (tabSize : Nat), (∀ c ∈ run, isIndent c = true) →
      measure run tabSize = maxColumn → measure (run ++ rest) tabSize = maxColumn) ∧
    (∀ (column tabSize : Nat) (rest : Text), column ≤ maxColumn →
      (∀ c, rest.head? = some c → isIndent c = false) →
      measure (spaces column ++ rest) tabSize = column) ∧
    ∀ (previous current : Text) (indent tabSize : Nat), indent ≤ maxColumn →
      next previous indent current tabSize ≤ maxColumn := by
  have hpos : ∀ tabSize, 0 < max tabSize 1 := fun tabSize => by omega
  refine ⟨fun line tabSize => ?_, fun run rest tabSize w hrun hw => ⟨?_, fun tabSize' => ?_⟩,
    fun run rest tabSize hrun hgreatest => ?_, fun column tabSize rest => measure_spaces,
    fun previous current indent tabSize => next_le⟩
  · have hrun := Text.run_takeWhile isIndent line
    obtain ⟨w, hw⟩ := exists_spans (hpos tabSize) hrun.all 0
    exact ⟨_, _, w, List.takeWhile_append_dropWhile.symm, hrun, hw⟩
  · rw [measure_eq_min, width, hw.widthFrom_eq (hpos tabSize) hrun.stops, Nat.min_comm]
  · exact measure_spaces (measure_le _ _) hrun.stops
  · have hle := widthFrom_le_append (max tabSize 1) 0 rest hrun
    rw [measure_eq_min, width] at hgreatest ⊢
    omega

/-- Two spaces and a tab are as wide as the tab, and the next tab goes on to the next stop. -/
theorem tabbedLine_measure :
    Text.Run isIndent "  \t \t".toList "x".toList ∧ Spans 4 0 "  \t \t".toList 8 ∧
    measure "  \t \tx".toList 4 = 8 ∧ measure (spaces 8 ++ "x".toList) 3 = 8 ∧
    measure "\t".toList maxColumn = maxColumn ∧
    measure "\t \tx".toList maxColumn = maxColumn ∧
    next "Si x.".toList maxColumn "y".toList 4 ≤ maxColumn := by
  obtain ⟨_, hmeasure, hgreatest, hspaces, hnext⟩ := measure_capped_width
  have hrun : Text.Run isIndent "  \t \t".toList "x".toList := by
    constructor
    · exact List.all_eq_true.1 (by decide)
    · rintro c ⟨⟩
      decide
  have hspans : Spans 4 0 "  \t \t".toList 8 :=
    .space (.space (.tab (isLeast_tabStop (by decide) 2)
      (.space (.tab (isLeast_tabStop (by decide) 5) (.nil 8)))))
  refine ⟨hrun, hspans, (hmeasure _ _ 4 8 hrun hspans).1, ?_, by decide, ?_, ?_⟩
  · exact hspaces 8 3 _ (by decide) hrun.stops
  · exact hgreatest "\t".toList " \tx".toList maxColumn (List.all_eq_true.1 (by decide)) (by decide)
  · exact hnext _ _ maxColumn 4 (Nat.le_refl _)

end Bilingua.Indentation
