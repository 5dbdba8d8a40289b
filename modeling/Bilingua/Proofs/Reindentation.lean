import Bilingua.Analysis
import Bilingua.Proofs.Placement
import Bilingua.Proofs.Trimming

/-!
# Indentation and nesting

The column of a new line comes from the line before it alone, the nesting of a line from all lines
before it. In a document whose closers and else branches stand in their place the two agree: when it
is indented anew from its first line on, each line stands one tab size to the right for each open
block, and one less if it lowers itself.

`Settings.indentAfter_place` is the step from one line to the next. Columns are bounded on both
sides, but within such a document no bound is ever met (`Indentation.Exact`).
-/

namespace Bilingua

/-! ## Columns without bounds -/

namespace Indentation

/-- `measureFrom` without a greatest column. -/
def widthFrom (tab : Nat) : Nat → Text → Nat
  | column, ' ' :: t => widthFrom tab (column + 1) t
  | column, '\t' :: t => widthFrom tab (column + (tab - column % tab)) t
  | column, _ => column

def width (line : Text) (tabSize : Nat) : Nat := widthFrom (max tabSize 1) 0 line

/-- No bound on columns is met where `current` comes after `previous`: measuring and raising stay
within the greatest column, and lowering does not stop at zero. -/
structure Exact (previous current : Text) (tabSize : Nat) : Prop where
  measured : width previous tabSize ≤ maxColumn
  raised : (Line.classify previous).raises = true → width previous tabSize + tabSize ≤ maxColumn
  lowered : (Line.classify current).lowers = true →
    tabSize ≤ width previous tabSize + (Line.classify previous).raises.toNat * tabSize

/-- The line with its text moved to a column, by spaces. -/
def place (column : Nat) (line : Text) : Text := spaces column ++ line.trim

variable {tab column tabSize : Nat} {line previous current t : Text}

/-- Measuring goes by the exact width up to the greatest column, and stops there. -/
theorem measureFrom_min (tab column : Nat) (t : Text) :
    measureFrom tab (min column maxColumn) t = min (widthFrom tab column t) maxColumn := by
  fun_induction widthFrom tab column t with
  | case1 column t ih =>
    rw [measureFrom, ← ih, add]
    congr 1
    omega
  | case2 column t ih =>
    rw [measureFrom, ← ih, add]
    congr 1
    -- A tab goes by the column that it starts from, which is exact until the bound is met.
    rcases Nat.le_total column maxColumn with h | h
    · rw [Nat.min_eq_left h]
    · rw [Nat.min_eq_right h]
      omega
  | case3 column t hspace htab => rw [measureFrom] <;> assumption

theorem measure_eq_min (line : Text) (tabSize : Nat) :
    measure line tabSize = min (width line tabSize) maxColumn :=
  measureFrom_min (max tabSize 1) 0 line

theorem measure_eq (h : width line tabSize ≤ maxColumn) : measure line tabSize = width line tabSize :=
  (measure_eq_min line tabSize).trans (Nat.min_eq_left h)

theorem widthFrom_spaces (n : Nat) :
    widthFrom tab column (spaces n ++ t) = widthFrom tab (column + n) t := by
  induction n generalizing column with
  | zero => rfl
  | succ n ih =>
    rw [spaces, List.replicate_succ, List.cons_append, widthFrom, ← spaces, ih]
    congr 1
    omega

theorem widthFrom_of_head? (hspace : t.head? ≠ some ' ') (htab : t.head? ≠ some '\t') :
    widthFrom tab column t = column := by
  fun_cases widthFrom tab column t with
  | case1 t => exact absurd rfl hspace
  | case2 t => exact absurd rfl htab
  | case3 t => rfl

theorem widthFrom_of_isTrimmed (h : Text.IsTrimmed t) : widthFrom tab column t = column :=
  widthFrom_of_head? (fun hspace => absurd (h.first ' ' hspace) (by decide))
    fun htab => absurd (h.first '\t' htab) (by decide)

theorem width_place : width (place column line) tabSize = column := by
  rw [width, place, widthFrom_spaces, widthFrom_of_isTrimmed (Text.isTrimmed_trim line),
    Nat.zero_add]

theorem trim_place : (place column line).trim = line.trim := by
  have hspaces : ∀ c ∈ spaces column, Text.isBlank c = true := by
    intro c hc
    rw [List.eq_of_mem_replicate hc]
    decide
  have := (Text.isTrimmed_trim line).trim_between hspaces (b := []) (by simp)
  rwa [List.append_nil] at this

theorem classify_place : Line.classify (place column line) = Line.classify line := by
  unfold Line.classify
  rw [trim_place]

theorem Exact.next_eq (h : Exact previous current tabSize) :
    next previous (measure previous tabSize) current tabSize =
      width previous tabSize + (Line.classify previous).raises.toNat * tabSize -
        (Line.classify current).lowers.toNat * tabSize := by
  have hadd : (if (Line.classify previous).raises then add (width previous tabSize) tabSize
      else width previous tabSize) =
      width previous tabSize + (Line.classify previous).raises.toNat * tabSize := by
    split
    · next hr => rw [add, Nat.min_eq_left (h.raised hr), hr, Bool.toNat_true, Nat.one_mul]
    · next hr => simp [hr]
  simp only [next, measure_eq h.measured, hadd]
  cases (Line.classify current).lowers <;> simp

end Indentation

/-! ## The open blocks of all constructs -/

namespace Nesting

def total (n : Nesting) : Nat := n.functions + n.conditionals + n.whileLoops + n.forLoops

/-- A line of the kind is in its place: there is a block that a closer closes, and a conditional
around an else branch. -/
def Admits (n : Nesting) : LineKind → Prop
  | .closer k => n.depth k ≠ 0
  | .elseBranch => n.depth .conditional ≠ 0
  | _ => True

variable {n : Nesting} {kind : LineKind}

@[simp]
theorem total_none : none.total = 0 := rfl

theorem depth_le_total (n : Nesting) (k : Construct) : n.depth k ≤ n.total := by
  unfold total
  cases k <;> simp only [depth] <;> omega

theorem lowers_le_total (h : n.Admits kind) : kind.lowers.toNat ≤ n.total := by
  cases kind with
  | closer k =>
    have hopen : n.depth k ≠ 0 := h
    have := n.depth_le_total k
    simp only [LineKind.lowers, Bool.toNat_true]
    omega
  | elseBranch =>
    have hopen : n.depth .conditional ≠ 0 := h
    have := n.depth_le_total .conditional
    simp only [LineKind.lowers, Bool.toNat_true]
    omega
  | _ => exact Nat.zero_le _

/-- A line that is in its place first lowers itself and then raises the lines after it. -/
theorem total_after (h : n.Admits kind) :
    (n.after kind).total = n.total - kind.lowers.toNat + kind.raises.toNat := by
  cases kind with
  | opener k =>
    unfold total
    cases k <;> simp only [after, opening, LineKind.lowers, LineKind.raises, Bool.toNat_true,
      Bool.toNat_false] <;> omega
  | closer k =>
    unfold total
    cases k <;> simp only [Admits, depth] at h <;>
      simp only [after, closing, LineKind.lowers, LineKind.raises, Bool.toNat_true,
        Bool.toNat_false] <;> omega
  | elseBranch =>
    have := lowers_le_total h
    simp only [after, LineKind.lowers, LineKind.raises, Bool.toNat_true] at *
    omega
  | _ => rfl

end Nesting

namespace Validation

def totalBefore (lines : List Text) (i : Nat) : Nat :=
  (validate .warn (lines.take i)).residue.total

theorem totalBefore_eq (lines : List Text) (i : Nat) :
    totalBefore lines i = (Nesting.none.afterAll ((Line.kinds lines).take i)).total := by
  rw [totalBefore, residue_validate, Line.kinds, Line.kinds, List.map_take]

/-- Where nothing is reported out of place, each line is in its place. -/
theorem admits_of_findings {lines : List Text} {i : Nat} {line : Text}
    (h : ∀ f ∈ (validate .warn lines).findings,
      f.code ≠ .unmatchedCloser ∧ f.code ≠ .strayElse)
    (hline : lines[i]? = some line) :
    (Nesting.none.afterAll ((Line.kinds lines).take i)).Admits (Line.classify line) := by
  have hkind := Line.kinds_of_getElem? hline
  cases hk : Line.classify line with
  | closer k =>
    intro hdepth
    obtain ⟨span, hon⟩ := on_unmatchedCloser .warn
      (closesNothing_iff.2 ⟨hk ▸ hkind, hdepth⟩)
    have hmem := Report.mem_on.1 (hon ▸ List.mem_singleton_self _)
    exact (h _ hmem.1).1 hmem.2.1
  | elseBranch =>
    intro hdepth
    obtain ⟨span, hon⟩ := on_strayElse (elseOfNothing_iff.2 ⟨hk ▸ hkind, hdepth⟩)
    have hmem := Report.mem_on.1 (hon ▸ List.mem_singleton_self _)
    exact (h _ hmem.1).2 hmem.2.1
  | _ => trivial

end Validation

/-! ## Indenting a document anew -/

namespace Settings

open Indentation Validation

/-- The lines after `previous`, each moved to the column for a new line after the one before it. -/
def reindentAfter (s : Settings) : Text → List Text → List Text
  | _, [] => []
  | previous, line :: lines =>
    let placed := place (s.indentAfter previous line) line
    placed :: s.reindentAfter placed lines

/-- A document that is indented anew: the first line at column zero, and each next line at the
column for a new line after the one before it. -/
def reindent (s : Settings) : List Text → List Text
  | [] => []
  | line :: lines => place 0 line :: s.reindentAfter (place 0 line) lines

def columnIn (s : Settings) (n : Nesting) (line : Text) : Nat :=
  s.tabSize * (n.total - (Line.classify line).lowers.toNat)

/-- The line is in its place among the open blocks, and these fit into the columns. -/
structure Suits (s : Settings) (n : Nesting) (line : Text) : Prop where
  admits : n.Admits (Line.classify line)
  fits : s.tabSize * n.total ≤ maxColumn

variable {s : Settings} {n : Nesting} {line next : Text} {lines : List Text}

theorem columnIn_le (h : s.Suits n line) : s.columnIn n line ≤ maxColumn :=
  Nat.le_trans (Nat.mul_le_mul_left _ (Nat.sub_le _ _)) h.fits

theorem columnIn_add_raises (h : s.Suits n line) :
    s.columnIn n line + (Line.classify line).raises.toNat * s.tabSize =
      s.tabSize * (n.after (Line.classify line)).total := by
  rw [columnIn, Nesting.total_after h.admits, Nat.mul_add,
    Nat.mul_comm (Line.classify line).raises.toNat]

theorem exact_place (h : s.Suits n line) (hnext : s.Suits (n.after (Line.classify line)) next) :
    Exact (place (s.columnIn n line) line) next s.tabSize := by
  have hraised := columnIn_add_raises h
  have hfits := hnext.fits
  constructor
  · rw [width_place]
    exact columnIn_le h
  · intro hr
    rw [classify_place] at hr
    rw [hr, Bool.toNat_true, Nat.one_mul] at hraised
    rw [width_place]
    omega
  · intro hl
    have hopen := Nesting.lowers_le_total hnext.admits
    rw [hl, Bool.toNat_true] at hopen
    rw [width_place, classify_place, hraised]
    exact Nat.le_mul_of_pos_right _ hopen

theorem indentAfter_place (h : s.Suits n line)
    (hnext : s.Suits (n.after (Line.classify line)) next) :
    s.indentAfter (place (s.columnIn n line) line) next =
      s.columnIn (n.after (Line.classify line)) next := by
  rw [indentAfter, (exact_place h hnext).next_eq, width_place, classify_place,
    columnIn_add_raises h, columnIn, Nat.mul_sub, Nat.mul_comm (Line.classify next).lowers.toNat]

/-- Along a document, each line comes to stand at its column among the open blocks. -/
theorem reindentAfter_place
    (h : ∀ i l, (line :: lines)[i]? = some l →
      s.Suits (n.afterAll ((Line.kinds (line :: lines)).take i)) l) :
    place (s.columnIn n line) line :: s.reindentAfter (place (s.columnIn n line) line) lines =
      (line :: lines).mapIdx fun i l =>
        place (s.columnIn (n.afterAll ((Line.kinds (line :: lines)).take i)) l) l := by
  induction lines generalizing n line with
  | nil => rfl
  | cons next lines ih =>
    have hline : s.Suits n line := h 0 line rfl
    have hnext : s.Suits (n.after (Line.classify line)) next := h 1 next rfl
    rw [reindentAfter, indentAfter_place hline hnext, List.mapIdx_cons]
    exact congrArg _ (ih fun i l hl => h (i + 1) l hl)

/-- In a document where nothing is reported out of place and the open blocks fit into the columns,
indenting anew puts each line at one tab size for each block that is open before it, less one if it
lowers itself, and no bound on columns is met on the way. -/
theorem reindent_follows_nesting (s : Settings) (lines : List Text)
    (hplaced : ∀ f ∈ (validate .warn lines).findings,
      f.code ≠ .unmatchedCloser ∧ f.code ≠ .strayElse)
    (hfits : ∀ i < lines.length, s.tabSize * totalBefore lines i ≤ maxColumn) :
    (s.reindent lines = lines.mapIdx fun i line =>
      place (s.tabSize * (totalBefore lines i - (Line.classify line).lowers.toNat)) line) ∧
    ∀ i line, lines[i]? = some line →
      (Line.classify line).lowers.toNat ≤ totalBefore lines i ∧
      ∃ placed, (s.reindent lines)[i]? = some placed ∧ placed.trim = line.trim ∧
        measure placed s.tabSize =
          s.tabSize * (totalBefore lines i - (Line.classify line).lowers.toNat) ∧
        ∀ next, lines[i + 1]? = some next → Exact placed next s.tabSize := by
  have hsuits : ∀ i line, lines[i]? = some line →
      s.Suits (Nesting.none.afterAll ((Line.kinds lines).take i)) line := by
    intro i line hline
    refine ⟨admits_of_findings hplaced hline, ?_⟩
    rw [← totalBefore_eq]
    exact hfits i (List.getElem?_eq_some_iff.1 hline).1
  have hall : s.reindent lines = lines.mapIdx fun i line =>
      place (s.tabSize * (totalBefore lines i - (Line.classify line).lowers.toNat)) line := by
    simp only [totalBefore_eq]
    cases lines with
    | nil => rfl
    | cons line lines =>
      have hrun := reindentAfter_place hsuits
      have hzero : s.columnIn .none line = 0 := by simp [columnIn]
      rw [hzero] at hrun
      exact hrun
  refine ⟨hall, fun i line hline => ⟨?_,
    place (s.tabSize * (totalBefore lines i - (Line.classify line).lowers.toNat)) line,
    ?_, trim_place, ?_, fun next hnext => ?_⟩⟩
  · rw [totalBefore_eq]
    exact Nesting.lowers_le_total (hsuits i line hline).admits
  · rw [hall, List.getElem?_mapIdx, hline]
    rfl
  · have hle := columnIn_le (hsuits i line hline)
    rw [columnIn, ← totalBefore_eq] at hle
    rw [measure_eq (by rwa [width_place]), width_place]
  · have hafter : (Nesting.none.afterAll ((Line.kinds lines).take i)).after (Line.classify line) =
        Nesting.none.afterAll ((Line.kinds lines).take (i + 1)) := by
      rw [List.take_add_one, Line.kinds_of_getElem? hline]
      simp [Nesting.afterAll]
    have := exact_place (hsuits i line hline) (hafter ▸ hsuits (i + 1) next hnext)
    rwa [columnIn, ← totalBefore_eq] at this

/-- A function with a conditional in it, whose lines stand at odd columns. -/
def skewedDocument : List Text :=
  ["  Create a function named f.".toList, "Si x > 0.".toList, "\t// note".toList,
    "  Sinon.".toList, "".toList, "FinSi.".toList, "    EndFunction.".toList]

theorem skewedDocument_reindent :
    (∀ f ∈ (validate .warn skewedDocument).findings,
      f.code ≠ .unmatchedCloser ∧ f.code ≠ .strayElse) ∧
    (∀ i < skewedDocument.length, Settings.default.tabSize * totalBefore skewedDocument i ≤
      maxColumn) ∧
    Settings.default.reindent skewedDocument =
      ["Create a function named f.".toList, "    Si x > 0.".toList, "        // note".toList,
        "    Sinon.".toList, "        ".toList, "    FinSi.".toList, "EndFunction.".toList] := by
  have hplaced : ∀ f ∈ (validate .warn skewedDocument).findings,
      f.code ≠ .unmatchedCloser ∧ f.code ≠ .strayElse := by decide
  have hfits : ∀ i < skewedDocument.length,
      Settings.default.tabSize * totalBefore skewedDocument i ≤ maxColumn := by decide +kernel
  exact ⟨hplaced, hfits,
    (reindent_follows_nesting .default skewedDocument hplaced hfits).1.trans (by decide +kernel)⟩

end Settings

end Bilingua
