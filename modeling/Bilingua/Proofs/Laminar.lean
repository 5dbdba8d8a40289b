import Bilingua.Proofs.Enclosure
import Bilingua.Proofs.Trimming

/-!
# Ranges in the outline

The ranges of an outline are nested as its trees are: a child lies within its parent, and siblings
follow one another without sharing a line. All of it comes from where functions end and which
function a symbol belongs to: two siblings that overlapped would not be siblings, and a function
within another one ends before it, or with the document like it.
-/

namespace Bilingua

instance : LE Position where
  le p q := p.line < q.line ∨ p.line = q.line ∧ p.column ≤ q.column

/-- The place is on a line of the document, or at the end of one. -/
def Position.In (lines : List Text) (p : Position) : Prop :=
  ∃ line, lines[p.line]? = some line ∧ p.column ≤ line.length

def Range.Within (r s : Range) : Prop := s.start ≤ r.start ∧ r.stop ≤ s.stop

/-- Each tree ends on a line before those on which later ones start. -/
def SymbolTree.Apart (ts : List SymbolTree) : Prop :=
  ts.Pairwise fun t u => t.symbol.range.stop.line < u.symbol.range.start.line

/-- The range of a tree fits into the document, around its name and around its children, which are
apart. A variable has no children and takes one line. -/
structure SymbolTree.Laminar (lines : List Text) (t : SymbolTree) : Prop where
  ordered : t.symbol.range.start ≤ t.symbol.range.stop
  inside : t.symbol.range.start.In lines ∧ t.symbol.range.stop.In lines
  name : t.symbol.selection.Within t.symbol.range
  nested : ∀ c ∈ t.children, c.symbol.range.Within t.symbol.range ∧
    t.symbol.range.start.line < c.symbol.range.start.line
  siblings : Apart t.children
  single : t.symbol.kind = .variable →
    t.children = [] ∧ t.symbol.range.start.line = t.symbol.range.stop.line

namespace Position

variable {p q r : Position} {lines : List Text}

theorem le_iff : p ≤ q ↔ p.line < q.line ∨ p.line = q.line ∧ p.column ≤ q.column := Iff.rfl

theorem le_trans (hpq : p ≤ q) (hqr : q ≤ r) : p ≤ r := by
  rw [le_iff] at *
  omega

theorem le_of_line_lt (h : p.line < q.line) : p ≤ q := .inl h

theorem le_of_column_le {line a b : Nat} (h : a ≤ b) : (⟨line, a⟩ : Position) ≤ ⟨line, b⟩ :=
  .inr ⟨rfl, h⟩

theorem In.le_end {last : Text} (h : p.In lines) (hlast : lines.getLast? = some last) :
    p ≤ ⟨lines.length - 1, last.length⟩ := by
  obtain ⟨line, hline, hcolumn⟩ := h
  have hlt := (List.getElem?_eq_some_iff.1 hline).1
  rcases Nat.lt_or_ge p.line (lines.length - 1) with hbefore | hafter
  · exact le_of_line_lt hbefore
  · have heq : p.line = lines.length - 1 := by omega
    rw [heq, ← List.getLast?_eq_getElem?, hlast] at hline
    obtain rfl := Option.some_inj.1 hline
    exact .inr ⟨heq, hcolumn⟩

end Position

namespace Outline

open SymbolTree

variable {lines : List Text} {line : Text} {t u : SymbolTree}

/-! ## One symbol -/

/-- A symbol starts with the content of its line, and its name lies within this content. -/
theorem start_and_name (h : t ∈ (ofLines lines).preorder) :
    ∃ line, lines[t.startLine]? = some line ∧
      t.symbol.range.start = ⟨t.startLine, line.contentSpan.1⟩ ∧
      t.symbol.selection.Within (.onLine t.startLine line.contentSpan) := by
  obtain ⟨line, s, hline, hs, hsymbol⟩ := exists_ofLine?_of_mem_preorder h
  obtain ⟨offset, name, detail, hle, hs⟩ := Symbol.ofLine?_cases hs
  have hwithin : (Range.onLine t.startLine (line.contentSpan.1 + offset,
      line.contentSpan.1 + offset + name.length)).Within (.onLine t.startLine line.contentSpan) := by
    have hspan : line.contentSpan.2 = line.contentSpan.1 + line.trim.length := rfl
    exact ⟨Position.le_of_column_le (Nat.le_add_right _ _), Position.le_of_column_le (by omega)⟩
  refine ⟨line, hline, ?_⟩
  rw [hsymbol]
  rcases hs with ⟨_, rfl⟩ | ⟨_, rfl⟩
  · exact ⟨rfl, hwithin⟩
  · exact ⟨rfl, hwithin⟩

/-- Where a symbol ends: with the content of its own line or of its matching closer, or with the
document. -/
theorem stop_cases (h : t ∈ (ofLines lines).preorder) :
    (∃ j line, lines[j]? = some line ∧ t.symbol.range.stop = ⟨j, line.contentSpan.2⟩ ∧
      (t.symbol.kind = .variable ∧ j = t.startLine ∨
        t.symbol.kind = .function ∧ Matches .function (Line.kinds lines) t.startLine j)) ∨
      t.symbol.kind = .function ∧ (∀ j, ¬ Matches .function (Line.kinds lines) t.startLine j) ∧
        ∃ last, lines.getLast? = some last ∧
          t.symbol.range.stop = ⟨lines.length - 1, last.length⟩ := by
  have hsound := sound_of_mem_preorder h
  rcases kind_cases h with ⟨hkind, _⟩ | ⟨hkind, _⟩
  · obtain ⟨hmatched, hunmatched⟩ := hsound.function_end hkind
    by_cases hmatch : ∃ j, Matches .function (Line.kinds lines) t.startLine j
    · obtain ⟨j, hj⟩ := hmatch
      obtain ⟨line, hline, hstop⟩ := hmatched j hj
      exact .inl ⟨j, line, hline, hstop, .inr ⟨hkind, hj⟩⟩
    · push Not at hmatch
      exact .inr ⟨hkind, hmatch, hunmatched (evenLines_eq_empty hmatch)⟩
  · obtain ⟨line, hline, hstop⟩ := hsound.variable_end hkind
    exact .inl ⟨t.startLine, line, hline, hstop, .inl ⟨hkind, rfl⟩⟩

theorem stop_in (h : t ∈ (ofLines lines).preorder) : t.symbol.range.stop.In lines := by
  rcases stop_cases h with ⟨j, line, hline, hstop, _⟩ | ⟨_, _, last, hlast, hstop⟩
  · rw [hstop]
    exact ⟨line, hline, Text.contentSpan_le_length line⟩
  · rw [hstop]
    exact ⟨last, by rw [← hlast, List.getLast?_eq_getElem?], Nat.le_refl _⟩

theorem content_le_stop (h : t ∈ (ofLines lines).preorder) (hline : lines[t.startLine]? = some line) :
    ⟨t.startLine, line.contentSpan.2⟩ ≤ t.symbol.range.stop := by
  rcases stop_cases h with ⟨j, line', hline', hstop, ⟨_, rfl⟩ | ⟨_, hj⟩⟩ | ⟨_, _, last, hlast, hstop⟩
  · obtain rfl := Option.some_inj.1 (hline.symm.trans hline')
    rw [hstop]
    exact Position.le_of_column_le (Nat.le_refl _)
  · rw [hstop]
    exact Position.le_of_line_lt hj.1.1
  · rw [hstop]
    exact Position.In.le_end ⟨line, hline, Text.contentSpan_le_length line⟩ hlast

/-! ## Parents and siblings -/

theorem stop_line_of_variable (h : t ∈ (ofLines lines).preorder)
    (hkind : t.symbol.kind = .variable) : t.symbol.range.stop.line = t.startLine := by
  obtain ⟨_, _, hstop⟩ := (sound_of_mem_preorder h).variable_end hkind
  rw [hstop]

theorem stop_line_of_matches {j : Nat} (h : t ∈ (ofLines lines).preorder)
    (hkind : t.symbol.kind = .function)
    (hj : Matches .function (Line.kinds lines) t.startLine j) :
    t.symbol.range.stop.line = j := by
  obtain ⟨_, _, hstop⟩ := ((sound_of_mem_preorder h).function_end hkind).matched j hj
  rw [hstop]

/-- Within a function that ends with a closer, each symbol ends before the closer. -/
theorem stop_line_lt_of_encloses {j : Nat} (ht : t ∈ (ofLines lines).preorder)
    (hu : u ∈ (ofLines lines).preorder) (h : Encloses lines t u.startLine)
    (hj : Matches .function (Line.kinds lines) t.startLine j) : u.symbol.range.stop.line < j := by
  have hbefore := h.after j hj
  rcases kind_cases hu with ⟨hkind, ho⟩ | ⟨hkind, _⟩
  · obtain ⟨j', hlt, hj'⟩ := hj.exists_of_inner (opener_of_kind ht h.kind) h.before hbefore ho
    rwa [stop_line_of_matches hu hkind hj']
  · rwa [stop_line_of_variable hu hkind]

theorem child_stop_le (ht : t ∈ (ofLines lines).preorder) (hu : u ∈ t.children) :
    t.startLine < u.startLine ∧ u.symbol.range.stop ≤ t.symbol.range.stop := by
  have humem : u ∈ (ofLines lines).preorder := (children_sublist_preorder ht).subset hu
  have hencloses : Encloses lines t u.startLine :=
    (encloses_iff ht humem).2 (mem_of_parentLine? ((sound_of_mem_preorder ht).holds u hu)).1
  refine ⟨hencloses.before, ?_⟩
  rcases stop_cases ht with ⟨j, line, _, hstop, ⟨hkind, _⟩ | ⟨_, hj⟩⟩ | ⟨_, _, last, hlast, hstop⟩
  · cases hkind.symm.trans hencloses.kind
  · rw [hstop]
    exact Position.le_of_line_lt (stop_line_lt_of_encloses ht humem hencloses hj)
  · rw [hstop]
    exact (stop_in humem).le_end hlast

/-- A symbol ends before each later line that belongs to the same function, or to none like it. -/
theorem stop_line_lt {m : Nat} (ht : t ∈ (ofLines lines).preorder) (hlt : t.startLine < m)
    (hsame : parentLine? lines t.startLine = parentLine? lines m) :
    t.symbol.range.stop.line < m := by
  -- If the symbol were still open, it would be around the line.
  have hclosed : t.startLine ∉ openBlocks .function (Line.kinds lines) m := by
    intro hopen
    have hname : introduces lines t.startLine = true := introduces_iff.2 ⟨t, ht, rfl⟩
    cases hparent : parentLine? lines m with
    | none => exact List.find?_eq_none.1 hparent t.startLine hopen hname
    | some i =>
      have hle := le_of_parentLine? hparent hopen hname
      have hi := (opener_of_mem_openBlocks (mem_of_parentLine? (hsame.trans hparent)).1).1
      omega
  rcases kind_cases ht with ⟨hkind, ho⟩ | ⟨hkind, _⟩
  · rw [mem_openBlocks_iff] at hclosed
    push Not at hclosed
    obtain ⟨j, hj, hjm⟩ := hclosed hlt ho
    rwa [stop_line_of_matches ht hkind hj]
  · rwa [stop_line_of_variable ht hkind]

theorem apart_of_sublist {ts : List SymbolTree} {parent : Option Nat}
    (hts : ts.Sublist (ofLines lines).preorder)
    (hparent : ∀ t ∈ ts, parentLine? lines t.startLine = parent) : Apart ts :=
  ((pairwise_startLine lines).sublist hts).imp_of_mem fun ht hu hlt =>
    stop_line_lt (hts.subset ht) hlt ((hparent _ ht).trans (hparent _ hu).symm)

theorem children_of_variable (ht : t ∈ (ofLines lines).preorder)
    (hkind : t.symbol.kind = .variable) : t.children = [] := by
  refine List.eq_nil_iff_forall_not_mem.2 fun u hu => ?_
  have hopen := (mem_of_parentLine? ((sound_of_mem_preorder ht).holds u hu)).1
  rcases kind_cases ht with ⟨hkind', _⟩ | ⟨_, hdeclaration⟩
  · cases hkind.symm.trans hkind'
  · cases hdeclaration.symm.trans (opener_of_mem_openBlocks hopen).2

/-- The outline is laminar: ranges are nested as the trees are, and siblings, also at top level, are
apart. -/
theorem ranges_laminar (lines : List Text) :
    Apart (ofLines lines).symbols ∧ ∀ t ∈ (ofLines lines).preorder, t.Laminar lines := by
  refine ⟨apart_of_sublist (symbols_sublist_preorder _) fun t ht => (settled_ofLines lines t ht).2,
    fun t ht => ?_⟩
  obtain ⟨line, hline, hstart, hname⟩ := start_and_name ht
  have hcontent := content_le_stop ht hline
  have hspan : line.contentSpan.1 ≤ line.contentSpan.2 := Nat.le_add_right _ _
  constructor
  · rw [hstart]
    exact Position.le_trans (Position.le_of_column_le hspan) hcontent
  · rw [hstart]
    exact ⟨⟨line, hline, hspan.trans (Text.contentSpan_le_length line)⟩, stop_in ht⟩
  · refine ⟨?_, Position.le_trans hname.2 hcontent⟩
    rw [hstart]
    exact hname.1
  · intro u hu
    obtain ⟨hlt, hstop⟩ := child_stop_le ht hu
    exact ⟨⟨Position.le_of_line_lt hlt, hstop⟩, hlt⟩
  · exact apart_of_sublist (children_sublist_preorder ht) (sound_of_mem_preorder ht).holds
  · intro hkind
    exact ⟨children_of_variable ht hkind, (stop_line_of_variable ht hkind).symm⟩

/-- Two functions that are never closed, the second one on the last line. -/
def openDocument : List Text :=
  ["Create a function named f.".toList, "  J'ai un nombre appelé x.".toList,
    "  Crée une fonction nommée g. ".toList]

theorem openDocument_laminar :
    (ofLines openDocument).preorder.map (fun t => t.symbol.range) =
      [⟨⟨0, 0⟩, ⟨2, 30⟩⟩, ⟨⟨1, 2⟩, ⟨1, 26⟩⟩, ⟨⟨2, 2⟩, ⟨2, 30⟩⟩] ∧
    ∃ t ∈ (ofLines openDocument).preorder, t.symbol.range = ⟨⟨2, 2⟩, ⟨2, 30⟩⟩ ∧
      t.Laminar openDocument := by
  have hranges : (ofLines openDocument).preorder.map (fun t => t.symbol.range) =
      [⟨⟨0, 0⟩, ⟨2, 30⟩⟩, ⟨⟨1, 2⟩, ⟨1, 26⟩⟩, ⟨⟨2, 2⟩, ⟨2, 30⟩⟩] := by
    decide +kernel
  have hmem : (⟨⟨2, 2⟩, ⟨2, 30⟩⟩ : Range) ∈
      (ofLines openDocument).preorder.map fun t => t.symbol.range := by
    rw [hranges]
    decide
  obtain ⟨t, ht, hrange⟩ := List.mem_map.1 hmem
  exact ⟨hranges, t, ht, hrange, (ranges_laminar openDocument).2 t ht⟩

end Outline

end Bilingua
