import Bilingua.Analysis
import Bilingua.Command.Rendering
import Bilingua.Proofs.Columns
import Bilingua.Proofs.Levels
import Bilingua.Proofs.Names
import Bilingua.Proofs.Segments

/-!
# Outlines as text

An outline is rendered one symbol to a line, in preorder and indented by its level. The text keeps
all of the outline but the columns: two documents have the same text if and only if their outlines
differ in columns alone.

A line can be taken apart because each of its parts ends where it has to: the indentation at the
first letter, the name at the first blank, a number at the first character that is no digit, and the
detail at the end of the line. This relies on what symbols of a document are like
(`Symbol.OneLine`): the name has no blanks, and the detail comes from one line.
-/

namespace Bilingua

/-! ## Parts of a line -/

namespace Text

variable {p : Char → Bool} {c : Char} {w w' t t' : Text} {m n : Nat}

/-- A run of characters up to one that is not of their class is told apart from what comes then. -/
theorem append_cons_inj (hc : p c = false) (hw : ∀ d ∈ w, p d = true) (hw' : ∀ d ∈ w', p d = true)
    (h : w ++ c :: t = w' ++ c :: t') : w = w' ∧ t = t' := by
  have hstops : ∀ (u : Text) (d : Char), (c :: u).head? = some d → p d = false := by
    rintro u d ⟨⟩
    exact hc
  obtain ⟨hrun, hrest⟩ := Run.unique ⟨hw, hstops t⟩ ⟨hw', hstops t'⟩ h
  exact ⟨hrun, (List.cons.inj hrest).2⟩

theorem ofNat_append_inj (hc : c.isDigit = false) (h : ofNat m ++ c :: t = ofNat n ++ c :: t') :
    m = n ∧ t = t' := by
  obtain ⟨hdigits, hrest⟩ := append_cons_inj hc (isDigit_ofNat m) (isDigit_ofNat n) h
  exact ⟨ofNat_inj hdigits, hrest⟩

theorem word_append_inj (hw : ∀ c ∈ w, isBlank c = false) (hw' : ∀ c ∈ w', isBlank c = false)
    (h : w ++ ' ' :: t = w' ++ ' ' :: t') : w = w' ∧ t = t' :=
  append_cons_inj (p := fun c => !isBlank c) (by decide) (fun d hd => by simp [hw d hd])
    (fun d hd => by simp [hw' d hd]) h

theorem flatMap_newline_inj {ls ls' : List Text} (hls : ∀ l ∈ ls, '\n' ∉ l)
    (hls' : ∀ l ∈ ls', '\n' ∉ l) (h : ls.flatMap (· ++ ['\n']) = ls'.flatMap (· ++ ['\n'])) :
    ls = ls' := by
  have hclass : ∀ l : Text, '\n' ∉ l → ∀ d ∈ l, (d != '\n') = true := fun l hl d hd =>
    bne_iff_ne.2 fun heq => hl (heq ▸ hd)
  induction ls generalizing ls' with
  | nil =>
    cases ls' with
    | nil => rfl
    | cons l' ls' => simp at h
  | cons l ls ih =>
    cases ls' with
    | nil => simp at h
    | cons l' ls' =>
      obtain ⟨hl, hlater⟩ := List.forall_mem_cons.1 hls
      obtain ⟨hl', hlater'⟩ := List.forall_mem_cons.1 hls'
      simp only [List.flatMap_cons, List.append_assoc, List.singleton_append] at h
      obtain ⟨hline, hrest⟩ := append_cons_inj (by decide) (hclass l hl) (hclass l' hl') h
      rw [hline, ih hlater hlater' hrest]

end Text

/-! ## Symbols of one line -/

/-- What the line of a symbol relies on: its name is a name, which stands on the line where the
symbol starts, and its detail has no line feed. -/
structure Symbol.OneLine (s : Symbol) : Prop where
  isName : Symbol.IsName s.name
  selection : s.selection.start.line = s.range.start.line ∧
    s.selection.stop.line = s.range.start.line
  detail : ∀ detail, s.detail = some detail → '\n' ∉ detail

/-- Columns apart, such a symbol is its name, detail and kind and its first and last line. -/
theorem Symbol.OneLine.dropColumns_eq {s : Symbol} (h : s.OneLine) :
    s.dropColumns = ⟨s.name, s.detail, s.kind,
      ⟨⟨s.range.start.line, 0⟩, ⟨s.range.stop.line, 0⟩⟩,
      ⟨⟨s.range.start.line, 0⟩, ⟨s.range.start.line, 0⟩⟩⟩ := by
  unfold Symbol.dropColumns Range.dropColumns Position.dropColumn
  rw [h.selection.1, h.selection.2]

theorem Symbol.WrittenOn.oneLine {lines : List Text} {s : Symbol} {line : Text}
    (h : s.WrittenOn lines line) (hline : '\n' ∉ line) : s.OneLine := by
  refine ⟨h.isName, ⟨h.starts, h.covers.single.trans h.starts⟩, fun detail hdetail hmem => ?_⟩
  obtain ⟨column, hon⟩ := h.detail detail hdetail
  rw [← hon.extract, List.extract_eq_take_drop] at hmem
  exact hline (List.mem_of_mem_drop (List.mem_of_mem_take hmem))

theorem Outline.oneLine_of_mem_preorder {text : Text} {t : SymbolTree}
    (h : t ∈ (ofLines text.lines).preorder) : t.symbol.OneLine := by
  obtain ⟨line, s, hline, hs, hsymbol⟩ := exists_ofLine?_of_mem_preorder h
  rw [hsymbol]
  exact ((Symbol.writtenOn_of_ofLine? hline hs).endingAt _).oneLine
    (Text.not_mem_of_mem_lines (List.mem_of_getElem? hline))

namespace Rendering

open SymbolTree

/-! ## Lines of symbols -/

def detailText : Option Text → Text
  | none => []
  | some detail => " (".toList ++ detail ++ [')']

variable {depth depth' : Nat} {s s' : Symbol}

theorem symbolLine_eq (depth : Nat) (s : Symbol) :
    symbolLine depth s = Indentation.spaces (2 * depth) ++ (kindWord s.kind ++ ' ' :: (s.name ++
      ' ' :: '[' :: (Text.ofNat (s.range.start.line + 1) ++ '-' ::
        (Text.ofNat (s.range.stop.line + 1) ++ ']' :: detailText s.detail)))) := by
  unfold symbolLine Indentation.spaces
  cases s.detail <;> simp [detailText]

theorem symbolLine_eq_append (depth : Nat) (s : Symbol) :
    symbolLine depth s = Indentation.spaces (2 * depth) ++ symbolLine 0 s := by
  rw [symbolLine_eq, symbolLine_eq 0]
  rfl

theorem not_mem_symbolLine (h : s.OneLine) (depth : Nat) : '\n' ∉ symbolLine depth s := by
  have hspaces : '\n' ∉ Indentation.spaces (2 * depth) := fun hmem => by
    cases List.eq_of_mem_replicate hmem
  have hkind : '\n' ∉ kindWord s.kind := by cases s.kind <;> decide
  have hname : '\n' ∉ s.name := fun hmem => absurd (h.isName.chars _ hmem).1 (by decide)
  have hnumber : ∀ n, '\n' ∉ Text.ofNat n := fun n hmem => by cases Text.isDigit_ofNat n _ hmem
  have hdetail : '\n' ∉ detailText s.detail := by
    cases hd : s.detail with
    | none => simp [detailText]
    | some detail => simpa [detailText] using h.detail detail hd
  rw [symbolLine_eq]
  simp [hspaces, hkind, hname, hnumber, hdetail]

theorem detailText_inj {d d' : Option Text} (h : detailText d = detailText d') : d = d' := by
  cases d with
  | none =>
    cases d' with
    | none => rfl
    | some detail' => cases h
  | some detail =>
    cases d' with
    | none => cases h
    | some detail' => simpa [detailText] using h

theorem kindWord_inj {k k' : SymbolKind} (h : kindWord k = kindWord k') : k = k' := by
  revert h
  cases k <;> cases k' <;> decide

theorem isBlank_kindWord (k : SymbolKind) : ∀ c ∈ kindWord k, Text.isBlank c = false := by
  intro c hc
  have hall : (kindWord k).all (fun c => !Text.isBlank c) = true := by cases k <;> decide
  simpa using List.all_eq_true.1 hall c hc

/-- The indentation ends at the first letter of the kind. -/
theorem spaces_append_inj {m n : Nat} {k k' : SymbolKind} {t t' : Text}
    (h : Indentation.spaces m ++ (kindWord k ++ t) = Indentation.spaces n ++ (kindWord k' ++ t')) :
    m = n ∧ kindWord k ++ t = kindWord k' ++ t' := by
  have hrun : ∀ (m : Nat) (k : SymbolKind) (t : Text),
      Text.Run (· == ' ') (Indentation.spaces m) (kindWord k ++ t) := by
    intro m k t
    refine ⟨fun c hc => beq_iff_eq.2 (List.eq_of_mem_replicate hc), fun c hc => ?_⟩
    cases k <;> (cases hc; rfl)
  obtain ⟨hspaces, hrest⟩ := (hrun m k t).unique (hrun n k' t') h
  exact ⟨(List.replicate_inj.1 hspaces).1, hrest⟩

/-- The line of a symbol gives its level and all of the symbol but the columns. -/
theorem symbolLine_inj (hs : s.OneLine) (hs' : s'.OneLine)
    (h : symbolLine depth s = symbolLine depth' s') :
    depth = depth' ∧ s.dropColumns = s'.dropColumns := by
  rw [symbolLine_eq, symbolLine_eq] at h
  obtain ⟨hdepth, hwords⟩ := spaces_append_inj h
  obtain ⟨hkind, hnamed⟩ := Text.word_append_inj (isBlank_kindWord _) (isBlank_kindWord _) hwords
  obtain ⟨hname, hrange⟩ := Text.word_append_inj (fun c hc => (hs.isName.chars c hc).1)
    (fun c hc => (hs'.isName.chars c hc).1) hnamed
  obtain ⟨hstart, hstops⟩ := Text.ofNat_append_inj (by decide) (List.cons.inj hrange).2
  obtain ⟨hstop, hdetail⟩ := Text.ofNat_append_inj (by decide) hstops
  refine ⟨by omega, ?_⟩
  rw [hs.dropColumns_eq, hs'.dropColumns_eq, hname, detailText_inj hdetail, kindWord_inj hkind,
    Nat.succ.inj hstart, Nat.succ.inj hstop]

/-! ## Lines of outlines -/

def rowLine (row : Nat × SymbolTree) : Text := symbolLine row.1 row.2.symbol

def bareLabel (row : Nat × SymbolTree) : Nat × Symbol := (row.1, row.2.symbol.dropColumns)

mutual

theorem treeText_eq (depth : Nat) (t : SymbolTree) :
    treeText depth t = ((t.rows depth).map rowLine).flatMap (· ++ ['\n']) := by
  match t with
  | .node s cs =>
    rw [treeText, rows, forestText_eq (depth + 1) cs, List.map_cons, List.flatMap_cons]
    rfl

theorem forestText_eq (depth : Nat) (ts : List SymbolTree) :
    forestText depth ts = ((rowsAll depth ts).map rowLine).flatMap (· ++ ['\n']) := by
  match ts with
  | [] => rfl
  | t :: ts => rw [forestText, rowsAll, treeText_eq depth t, forestText_eq depth ts,
      List.map_append, List.flatMap_append]

end

theorem map_label_dropColumns (level : Nat) (ts : List SymbolTree) :
    (rowsAll level (ts.map SymbolTree.dropColumns)).map label =
      (rowsAll level ts).map bareLabel := by
  have hmap : ts.map SymbolTree.dropColumns = mapSymbolsAll Symbol.dropColumns ts := by
    rw [mapSymbolsAll_eq]
    exact List.map_congr_left fun t _ => SymbolTree.dropColumns_eq t
  rw [hmap, rowsAll_mapSymbolsAll, List.map_map]
  refine List.map_congr_left fun row _ => ?_
  obtain ⟨level, t⟩ := row
  cases t with
  | node s cs =>
    rw [Function.comp, Prod.map, mapSymbols]
    rfl

theorem map_bareLabel_eq {rows rows' : List (Nat × SymbolTree)}
    (hrows : ∀ row ∈ rows, row.2.symbol.OneLine) (hrows' : ∀ row ∈ rows', row.2.symbol.OneLine)
    (h : rows.map rowLine = rows'.map rowLine) : rows.map bareLabel = rows'.map bareLabel := by
  induction rows generalizing rows' with
  | nil =>
    obtain rfl := List.map_eq_nil_iff.1 h.symm
    rfl
  | cons row rows ih =>
    cases rows' with
    | nil => cases h
    | cons row' rows' =>
      obtain ⟨hrow, hrows⟩ := List.forall_mem_cons.1 hrows
      obtain ⟨hrow', hrows'⟩ := List.forall_mem_cons.1 hrows'
      obtain ⟨hline, hlines⟩ := List.cons.inj h
      obtain ⟨hlevel, hsymbol⟩ := symbolLine_inj hrow hrow' hline
      rw [List.map_cons, List.map_cons, ih hrows hrows' hlines, bareLabel, bareLabel, hlevel,
        hsymbol]

theorem map_rowLine (rows : List (Nat × SymbolTree)) :
    rows.map rowLine = (rows.map bareLabel).map fun q => symbolLine q.1 q.2 := by
  rw [List.map_map]
  rfl

variable {text text' : Text}

theorem oneLine_of_mem_rowsAll {level : Nat} {row : Nat × SymbolTree}
    (h : row ∈ rowsAll level (Outline.ofLines text.lines).symbols) : row.2.symbol.OneLine :=
  Outline.oneLine_of_mem_preorder (Outline.mem_preorder.2 (mem_preorderAll_of_mem_rowsAll h))

theorem not_mem_rowLine {level : Nat} {l : Text}
    (h : l ∈ (rowsAll level (Outline.ofLines text.lines).symbols).map rowLine) : '\n' ∉ l := by
  obtain ⟨row, hrow, rfl⟩ := List.mem_map.1 h
  exact not_mem_symbolLine (oneLine_of_mem_rowsAll hrow) _

theorem dropColumns_eq_of_outlineText
    (h : outlineText (Outline.ofLines text.lines) = outlineText (Outline.ofLines text'.lines)) :
    (Outline.ofLines text.lines).symbols.map SymbolTree.dropColumns =
      (Outline.ofLines text'.lines).symbols.map SymbolTree.dropColumns := by
  rw [outlineText, outlineText, forestText_eq, forestText_eq] at h
  have hrows := Text.flatMap_newline_inj (fun _ => not_mem_rowLine) (fun _ => not_mem_rowLine) h
  apply eq_of_rowsAll 0
  rw [map_label_dropColumns, map_label_dropColumns]
  exact map_bareLabel_eq (fun _ => oneLine_of_mem_rowsAll) (fun _ => oneLine_of_mem_rowsAll) hrows

theorem outlineText_eq_of_dropColumns {o o' : Outline}
    (h : o.symbols.map SymbolTree.dropColumns = o'.symbols.map SymbolTree.dropColumns) :
    outlineText o = outlineText o' := by
  have hrows := congrArg (fun ts => (rowsAll 0 ts).map label) h
  simp only [map_label_dropColumns] at hrows
  rw [outlineText, outlineText, forestText_eq, forestText_eq, map_rowLine, map_rowLine, hrows]

/-- The text of an outline is faithful. It has one line for each symbol, in preorder, indented by
two spaces for each symbol around it, and no line feeds but those that end the lines. Two documents
have the same text if and only if their outlines are equal but for columns. -/
theorem outline_text_faithful :
    (∀ (s : Settings) (text : Text), ∃ lines : List Text,
      outlineText (s.outline text) = lines.flatMap (· ++ ['\n']) ∧ (∀ l ∈ lines, '\n' ∉ l) ∧
      List.Forall₂ (fun t l => ∃ n : Nat, (around (s.outline text).preorder t).encard = n ∧
        l = Indentation.spaces (2 * n) ++ symbolLine 0 t.symbol) (s.outline text).preorder lines) ∧
    ∀ (s s' : Settings) (text text' : Text),
      outlineText (s.outline text) = outlineText (s'.outline text') ↔
        (s.outline text).symbols.map SymbolTree.dropColumns =
          (s'.outline text').symbols.map SymbolTree.dropColumns := by
  refine ⟨fun s text => ⟨(rowsAll 0 (s.outline text).symbols).map rowLine, forestText_eq 0 _,
    fun _ => not_mem_rowLine, ?_⟩,
    fun s s' text text' => ⟨dropColumns_eq_of_outlineText, outlineText_eq_of_dropColumns⟩⟩
  have hnodup : (s.outline text).preorder.Nodup := Outline.nodup_preorder text.lines
  have hrows : (s.outline text).preorder = (rowsAll 0 (s.outline text).symbols).map Prod.snd := by
    rw [map_snd_rowsAll, Outline.preorder_eq_preorderAll]
  rw [Outline.preorder_eq_preorderAll] at hnodup
  nth_rewrite 2 [hrows]
  rw [List.forall₂_map_left_iff, List.forall₂_map_right_iff, List.forall₂_same]
  intro row hrow
  have hlevel := encard_around_rowsAll 0 _ hnodup hrow
  rw [Nat.cast_zero, add_zero, ← Outline.preorder_eq_preorderAll] at hlevel
  exact ⟨row.1, hlevel, symbolLine_eq_append _ _⟩

/-- A function with a name and parameters that look like the parts of a line around them. -/
def englishText : Text :=
  "Create a function named f-[1 that takes (a) [2-3.\n".toList ++
    "  I have a list called x].\nEndFunction.".toList

/-- The same symbols on the same lines, at other columns. -/
def frenchText : Text :=
  "\tCrée une fonction nommée f-[1 qui prend (a) [2-3.\r\n".toList ++
    "J'ai a list appelé x].\u2028 FinFonction.\n".toList

theorem frenchText_faithful :
    outlineText (Settings.default.outline frenchText) =
      "fonction f-[1 [1-3] ((a) [2-3)\n  variable x] [2-2] (a list)\n".toList ∧
    (Settings.default.outline englishText).symbols.map SymbolTree.dropColumns =
      (Settings.default.outline frenchText).symbols.map SymbolTree.dropColumns ∧
    ∃ lines : List Text, outlineText (Settings.default.outline frenchText) =
      lines.flatMap (· ++ ['\n']) ∧ ∀ l ∈ lines, '\n' ∉ l := by
  have hfrench : outlineText (Settings.default.outline frenchText) =
      "fonction f-[1 [1-3] ((a) [2-3)\n  variable x] [2-2] (a list)\n".toList := by
    decide +kernel
  have hsame : outlineText (Settings.default.outline englishText) =
      outlineText (Settings.default.outline frenchText) := by
    rw [hfrench]
    decide +kernel
  obtain ⟨hlines, hfaithful⟩ := outline_text_faithful
  obtain ⟨lines, htext, hbreaks, _⟩ := hlines Settings.default frenchText
  exact ⟨hfrench, (hfaithful _ _ _ _).1 hsame, lines, htext, hbreaks⟩

end Rendering

end Bilingua
