import Bilingua.Proofs.Columns
import Bilingua.Proofs.Interleaving
import Bilingua.Proofs.Pairing

/-!
# Documents laid out anew

Blanks at the ends of lines, blank lines and comments have no part in what a document says. Laid out
with others of them, it gives the same report on the same lines, under their new numbers, and the same
outline; only what ends with the document ends with the new one.

Both documents are read side by side (`Relaid.induction`): a line that was kept is read in both, and
one that was added is read in the new one alone and changes nothing there.
-/

namespace Bilingua

/-- The document laid out anew: line `i` has become line `f i`, with other blanks around its text, and
all other lines are blank or comments. -/
structure Relaid (f : Nat → Nat) (lines lines' : List Text) : Prop where
  increasing : ∀ j < lines.length, ∀ i < j, f i < f j
  kept : ∀ i < lines.length, lines'[f i]?.map Text.trim = lines[i]?.map Text.trim
  added : ∀ i' < lines'.length, (∀ i < lines.length, f i ≠ i') →
    (Line.kinds lines')[i']? = some .blank ∨ (Line.kinds lines')[i']? = some .comment

/-- The line says nothing. -/
def Line.Idle (line : Text) : Prop := Line.classify line = .blank ∨ Line.classify line = .comment

/-- A finding of the one layout and the one that stands for it in the other. Blocks left open are told
of on the last line, whichever that is; any other finding stays with its line. -/
structure Finding.Relaid (f : Nat → Nat) (x x' : Finding) : Prop where
  verdict : x'.verdict = x.verdict
  lines : x.code ≠ .unclosedConstruct →
    x'.range.start.line = f x.range.start.line ∧ x'.range.stop.line = f x.range.stop.line

/-- A symbol of the one layout and the one that stands for it in the other. It starts with the same
line, and if a closer ends it, it ends with the same closer. -/
structure Symbol.Relaid (f : Nat → Nat) (kinds : List LineKind) (s s' : Symbol) : Prop where
  name : s'.name = s.name
  detail : s'.detail = s.detail
  kind : s'.kind = s.kind
  start : s'.range.start.line = f s.range.start.line
  stop : s.kind = .function → (∃ j, Matches .function kinds s.range.start.line j) →
    s'.range.stop.line = f s.range.stop.line

inductive SymbolTree.Alike (R : Symbol → Symbol → Prop) : SymbolTree → SymbolTree → Prop where
  | node {s s' : Symbol} {cs cs' : List SymbolTree} :
      R s s' → List.Forall₂ (Alike R) cs cs' → Alike R (.node s cs) (.node s' cs')

/-! ## Side by side -/

theorem Line.agree_of_trim_eq {line line' : Text} (h : line.trim = line'.trim) :
    Line.Agree line line' := by
  refine ⟨?_, fun k _ => by rw [h]⟩
  unfold Line.read Line.classify
  rw [h]

namespace Relaid

variable {f : Nat → Nat} {lines lines' : List Text} {i i' : Nat}

theorem exists_kept (h : Relaid f lines lines') (hi : i < lines.length) :
    ∃ line line', lines[i]? = some line ∧ lines'[f i]? = some line' ∧ line.trim = line'.trim := by
  have hkept := h.kept i hi
  rw [List.getElem?_eq_getElem hi, Option.map_some, Option.map_eq_some_iff] at hkept
  obtain ⟨line', hline', htrim⟩ := hkept
  exact ⟨lines[i], line', List.getElem?_eq_getElem hi, hline', htrim.symm⟩

theorem lt_length (h : Relaid f lines lines') (hi : i < lines.length) : f i < lines'.length := by
  obtain ⟨_, _, _, hline', _⟩ := h.exists_kept hi
  exact (List.getElem?_eq_some_iff.1 hline').1

theorem kinds_getElem? (h : Relaid f lines lines') (hi : i < lines.length) :
    (Line.kinds lines')[f i]? = (Line.kinds lines)[i]? := by
  obtain ⟨line, line', hline, hline', htrim⟩ := h.exists_kept hi
  rw [Line.kinds_of_getElem? hline, Line.kinds_of_getElem? hline',
    (Line.agree_of_trim_eq htrim).classify]

theorem exists_added (h : Relaid f lines lines') (hi' : i' < lines'.length)
    (hnew : ∀ i < lines.length, f i ≠ i') : ∃ line', lines'[i']? = some line' ∧ Line.Idle line' := by
  refine ⟨lines'[i'], List.getElem?_eq_getElem hi', ?_⟩
  have hkind := h.added i' hi' hnew
  rwa [Line.kinds_of_getElem? (List.getElem?_eq_getElem hi'), Option.some_inj, Option.some_inj]
    at hkind

/-- The first `i` lines have become lines before line `i'`, and the others have not. -/
structure Abreast (f : Nat → Nat) (lines : List Text) (i i' : Nat) : Prop where
  le : i ≤ lines.length
  before : ∀ j < i, f j < i'
  after : ∀ j < lines.length, i ≤ j → i' ≤ f j

theorem Abreast.kept (h : Relaid f lines lines') (hi : i < lines.length)
    (ha : Abreast f lines i (f i)) : Abreast f lines (i + 1) (f i + 1) := by
  refine ⟨hi, fun j hj => ?_, fun j hj hij => h.increasing j hj i hij⟩
  rcases Nat.lt_succ_iff_lt_or_eq.1 hj with hj | rfl
  · exact Nat.lt_succ_of_lt (ha.before j hj)
  · exact Nat.lt_succ_self _

theorem Abreast.new (h : Relaid f lines lines') (ha : Abreast f lines i i')
    (hne : ¬ (i < lines.length ∧ f i = i')) : ∀ j < lines.length, f j ≠ i' := by
  rintro j hj rfl
  rcases Nat.lt_trichotomy j i with hji | rfl | hij
  · exact Nat.lt_irrefl _ (ha.before j hji)
  · exact hne ⟨hj, rfl⟩
  · have := h.increasing j hj i hij
    have := ha.after i (by omega) (Nat.le_refl i)
    omega

theorem Abreast.added (ha : Abreast f lines i i') (hnew : ∀ j < lines.length, f j ≠ i') :
    Abreast f lines i (i' + 1) :=
  ⟨ha.le, fun j hj => Nat.lt_succ_of_lt (ha.before j hj),
    fun j hj hij => Nat.lt_of_le_of_ne (ha.after j hj hij) (hnew j hj).symm⟩

theorem Abreast.eq_length (h : Relaid f lines lines') (ha : Abreast f lines i lines'.length) :
    i = lines.length := by
  by_contra hne
  have hlt := Nat.lt_of_le_of_ne ha.le hne
  have := h.lt_length hlt
  have := ha.after i hlt (Nat.le_refl i)
  omega

/-- What holds before both documents, and is kept by the two lines that stand for one another as well
as by each line that was added, holds before each such pair of lines and after both documents. -/
theorem induction {P : Nat → Nat → Prop} (h : Relaid f lines lines') (hstart : P 0 0)
    (hkept : ∀ i line line', lines[i]? = some line → lines'[f i]? = some line' →
      line.trim = line'.trim → P i (f i) → P (i + 1) (f i + 1))
    (hadded : ∀ i i' line', lines'[i']? = some line' → Line.Idle line' → P i i' → P i (i' + 1)) :
    (∀ i < lines.length, P i (f i)) ∧ P lines.length lines'.length := by
  have hread : ∀ i' ≤ lines'.length,
      ∃ i, Abreast f lines i i' ∧ (∀ j < i, P j (f j)) ∧ P i i' := by
    intro i' hi'
    induction i' with
    | zero => exact ⟨0, ⟨Nat.zero_le _, by simp, by simp⟩, by simp, hstart⟩
    | succ i' ih =>
      obtain ⟨i, ha, hpairs, hP⟩ := ih (Nat.le_of_succ_le hi')
      by_cases hpair : i < lines.length ∧ f i = i'
      · obtain ⟨hi, rfl⟩ := hpair
        obtain ⟨line, line', hline, hline', htrim⟩ := h.exists_kept hi
        refine ⟨i + 1, ha.kept h hi, fun j hj => ?_, hkept i line line' hline hline' htrim hP⟩
        rcases Nat.lt_succ_iff_lt_or_eq.1 hj with hj | rfl
        · exact hpairs j hj
        · exact hP
      · have hnew := ha.new h hpair
        obtain ⟨line', hline', hidle⟩ := h.exists_added hi' hnew
        exact ⟨i, ha.added hnew, hpairs, hadded i i' line' hline' hidle hP⟩
  obtain ⟨i, ha, hpairs, hP⟩ := hread lines'.length (Nat.le_refl _)
  obtain rfl := ha.eq_length h
  exact ⟨hpairs, hP⟩

end Relaid

/-! ## Reports -/

namespace Validation

variable {check : ElseCheck} {n : Nesting} {f : Nat → Nat} {i : Nat} {line line' : Text}
  {lines lines' : List Text}

def nestingBefore (lines : List Text) (i : Nat) : Nesting :=
  Nesting.none.afterAll (Line.kinds (lines.take i))

def findingsBefore (check : ElseCheck) (lines : List Text) (i : Nat) : List Finding :=
  (scan check 0 .none (lines.take i)).1

theorem nestingBefore_succ (h : lines[i]? = some line) :
    nestingBefore lines (i + 1) = (nestingBefore lines i).after (Line.classify line) := by
  unfold nestingBefore
  rw [List.take_add_one, h, Line.kinds_append, Nesting.afterAll_append]
  rfl

theorem findingsBefore_succ (h : lines[i]? = some line) :
    findingsBefore check lines (i + 1) =
      findingsBefore check lines i ++ lineFindings check (nestingBefore lines i) i line := by
  have hlength : (lines.take i).length = i :=
    List.length_take_of_le (Nat.le_of_lt (List.getElem?_eq_some_iff.1 h).1)
  unfold findingsBefore
  rw [List.take_add_one, h, Option.toList_some, scan_append, hlength, Nat.zero_add, scan_cons,
    scan_nil, List.append_nil]
  rfl

theorem after_of_idle (h : Line.Idle line) (n : Nesting) : n.after (Line.classify line) = n := by
  rcases h with h | h <;> rw [h] <;> rfl

theorem lineFindings_of_idle (h : Line.Idle line) : lineFindings check n i line = [] := by
  unfold lineFindings Line.read
  rcases h with h | h <;> rw [h] <;> rfl

theorem relaid_lineFindings (h : line.trim = line'.trim) :
    List.Forall₂ (Finding.Relaid f) (lineFindings check n i line)
      (lineFindings check n (f i) line') := by
  have hmap : (lineFindings check n i line).map
        (fun x => (x.verdict, f x.range.start.line, f x.range.stop.line)) =
      (lineFindings check n (f i) line').map
        (fun x => (x.verdict, x.range.start.line, x.range.stop.line)) :=
    map_lineFindings check n (Line.agree_of_trim_eq h).read fun _ _ => rfl
  rw [← List.forall₂_eq_eq_eq, List.forall₂_map_left_iff, List.forall₂_map_right_iff] at hmap
  refine hmap.imp fun x x' hx => ?_
  obtain ⟨hverdict, hlines⟩ := Prod.mk.inj hx
  obtain ⟨hstart, hstop⟩ := Prod.mk.inj hlines
  exact ⟨hverdict.symm, fun _ => ⟨hstart.symm, hstop.symm⟩⟩

theorem relaid_before (h : Relaid f lines lines') (check : ElseCheck) :
    nestingBefore lines lines.length = nestingBefore lines' lines'.length ∧
      List.Forall₂ (Finding.Relaid f) (findingsBefore check lines lines.length)
        (findingsBefore check lines' lines'.length) := by
  refine (h.induction (P := fun i i' => nestingBefore lines i = nestingBefore lines' i' ∧
    List.Forall₂ (Finding.Relaid f) (findingsBefore check lines i) (findingsBefore check lines' i'))
    ⟨rfl, .nil⟩ ?_ ?_).2
  · rintro i line line' hline hline' htrim ⟨hnesting, hfindings⟩
    rw [nestingBefore_succ hline, nestingBefore_succ hline', findingsBefore_succ hline,
      findingsBefore_succ hline', ← hnesting, (Line.agree_of_trim_eq htrim).classify]
    exact ⟨rfl, List.rel_append hfindings (relaid_lineFindings htrim)⟩
  · rintro i i' line' hline' hidle ⟨hnesting, hfindings⟩
    rw [nestingBefore_succ hline', findingsBefore_succ hline', after_of_idle hidle,
      lineFindings_of_idle hidle, List.append_nil]
    exact ⟨hnesting, hfindings⟩

theorem relaid_unclosedFindings (hne : lines ≠ []) (hne' : lines' ≠ []) :
    List.Forall₂ (Finding.Relaid f) (unclosedFindings n lines) (unclosedFindings n lines') := by
  rw [unclosedFindings_of_ne_nil hne, unclosedFindings_of_ne_nil hne', List.forall₂_map_left_iff,
    List.forall₂_map_right_iff, List.forall₂_same]
  exact fun p _ => ⟨rfl, fun hcode => absurd rfl hcode⟩

theorem relaid_validate (h : Relaid f lines lines') (check : ElseCheck) :
    (validate check lines').residue = (validate check lines).residue ∧
      List.Forall₂ (Finding.Relaid f) (validate check lines).findings
        (validate check lines').findings := by
  obtain ⟨hnesting, hfindings⟩ := relaid_before h check
  unfold nestingBefore findingsBefore at *
  rw [List.take_length, List.take_length] at hnesting hfindings
  rw [residue_validate, residue_validate, findings_validate, findings_validate, ← hnesting]
  refine ⟨rfl, List.rel_append hfindings ?_⟩
  by_cases hne : lines = []
  · -- A document without lines leaves nothing open.
    subst hne
    rw [Line.kinds_nil, Nesting.afterAll_nil, unclosedFindings_none, unclosedFindings_none]
    exact .nil
  · have hlength := h.lt_length (List.length_pos_iff.2 hne)
    exact relaid_unclosedFindings hne (List.length_pos_iff.1 (Nat.zero_lt_of_lt hlength))

end Validation

/-! ## Ends of blocks -/

section

variable {f : Nat → Nat} {lines lines' : List Text} {k : Construct} {i j : Nat}

theorem openBlocks_relaid (h : Relaid f lines lines') (hj : j < lines.length) :
    openBlocks k (Line.kinds lines') (f j) = (openBlocks k (Line.kinds lines) j).map f := by
  refine (h.induction (P := fun i i' => openBlocks k (Line.kinds lines') i' =
    (openBlocks k (Line.kinds lines) i).map f) rfl ?_ ?_).1 j hj
  · intro i line line' hline _ _ hblocks
    have hkind := h.kinds_getElem? (List.getElem?_eq_some_iff.1 hline).1
    rcases openBlocks_succ_cases k (Line.kinds lines) i with ⟨ho, heq⟩ | ⟨hc, heq⟩ | ⟨ho, hc, heq⟩
    · rw [heq, openBlocks_opener (hkind.trans ho), hblocks, List.map_cons]
    · rw [heq, openBlocks_closer (hkind.trans hc), hblocks, List.map_tail]
    · rw [heq, openBlocks_other (hkind ▸ ho) (hkind ▸ hc), hblocks]
  · intro i i' line' hline' hidle hblocks
    rw [← hblocks]
    refine openBlocks_other ?_ ?_ <;> rw [Line.kinds_of_getElem? hline'] <;>
      rcases hidle with hidle | hidle <;> simp [hidle]

/-- A block that ends with a closer ends with it in any layout. -/
theorem Matches.relaid (hij : Matches k (Line.kinds lines) i j) (h : Relaid f lines lines')
    (ho : (Line.kinds lines)[i]? = some (.opener k)) :
    Matches k (Line.kinds lines') (f i) (f j) := by
  obtain ⟨hc, hblocks⟩ := hij.closer ho
  have hj : j < lines.length := by
    have := (List.getElem?_eq_some_iff.1 hc).1
    rwa [Line.kinds, List.length_map] at this
  have hblocks' : openBlocks k (Line.kinds lines') (f j) =
      f i :: (openBlocks k (Line.kinds lines) i).map f := by
    rw [openBlocks_relaid h hj, hblocks, List.map_cons]
  exact matches_of_closer ((h.kinds_getElem? hj).trans hc) hblocks'

end

/-! ## Outlines -/

/-- The symbol without columns and without its end, under the new number of its line. -/
def Symbol.bare (f : Nat → Nat) (s : Symbol) : Symbol :=
  (s.renumber f).dropColumns.endingAt ⟨0, 0⟩

theorem Symbol.movesEnds_bare (f : Nat → Nat) :
    Symbol.MovesEnds (Symbol.bare f) fun _ => ⟨0, 0⟩ := fun _ _ => rfl

namespace SymbolTree

variable {g g' : Symbol → Symbol} {R : Symbol → Symbol → Prop}

mutual

theorem alike_of_mapSymbols (t t' : SymbolTree) (h : t.mapSymbols g = t'.mapSymbols g')
    (hR : ∀ u ∈ t.preorder, ∀ u' ∈ t'.preorder, g u.symbol = g' u'.symbol → R u.symbol u'.symbol) :
    Alike R t t' := by
  match t, t' with
  | .node s cs, .node s' cs' =>
    rw [mapSymbols, mapSymbols, node.injEq] at h
    refine .node (hR _ List.mem_cons_self _ List.mem_cons_self h.1) ?_
    exact alike_of_mapSymbolsAll cs cs' h.2 fun u hu u' hu' =>
      hR u (List.mem_cons_of_mem _ hu) u' (List.mem_cons_of_mem _ hu')

/-- Trees that a change of their symbols makes equal are alike in all that it keeps. -/
theorem alike_of_mapSymbolsAll (ts ts' : List SymbolTree)
    (h : mapSymbolsAll g ts = mapSymbolsAll g' ts')
    (hR : ∀ u ∈ preorderAll ts, ∀ u' ∈ preorderAll ts', g u.symbol = g' u'.symbol →
      R u.symbol u'.symbol) :
    List.Forall₂ (Alike R) ts ts' := by
  match ts, ts' with
  | [], [] => exact .nil
  | [], _ :: _ => cases h
  | _ :: _, [] => cases h
  | t :: ts, t' :: ts' =>
    rw [mapSymbolsAll, mapSymbolsAll, List.cons.injEq] at h
    refine .cons (alike_of_mapSymbols t t' h.1 fun u hu u' hu' => ?_)
      (alike_of_mapSymbolsAll ts ts' h.2 fun u hu u' hu' => ?_)
    · exact hR u (List.mem_append_left _ hu) u' (List.mem_append_left _ hu')
    · exact hR u (List.mem_append_right _ hu) u' (List.mem_append_right _ hu')

end

end SymbolTree

namespace Outline

variable {f : Nat → Nat} {lines lines' : List Text} {line : Text} {t t' : SymbolTree}

namespace Builder

theorem step_of_idle (h : Line.Idle line) (b : Builder) (i : Nat) : b.step i line = b := by
  unfold step
  rcases h with h | h <;> rw [h]

theorem bare_before (h : Relaid f lines lines') :
    (before lines lines.length).mapSymbols (Symbol.bare f) =
      (before lines' lines'.length).mapSymbols (Symbol.bare id) := by
  refine (h.induction (P := fun i i' => (before lines i).mapSymbols (Symbol.bare f) =
    (before lines' i').mapSymbols (Symbol.bare id)) rfl ?_ ?_).2
  · intro i line line' hline hline' htrim hb
    have hagree := Line.agree_of_trim_eq htrim
    have hsymbol : (Symbol.ofLine? i line).map (Symbol.bare f) =
        (Symbol.ofLine? (f i) line').map (Symbol.bare id) :=
      Symbol.map_ofLine? hagree.classify hagree.after fun _ _ _ _ _ => rfl
    rw [before_succ hline, before_succ hline']
    exact mapSymbols_step (Symbol.movesEnds_bare f) (Symbol.movesEnds_bare id) hb hagree.classify
      hsymbol rfl
  · intro i i' line' hline' hidle hb
    rwa [before_succ hline', step_of_idle hidle]

end Builder

theorem bare_symbols (h : Relaid f lines lines') :
    SymbolTree.mapSymbolsAll (Symbol.bare f) (ofLines lines).symbols =
      SymbolTree.mapSymbolsAll (Symbol.bare id) (ofLines lines').symbols := by
  have hbuilder := Builder.bare_before h
  unfold Builder.before at hbuilder
  rw [List.take_length, List.take_length] at hbuilder
  have hheight := congrArg (fun b : Builder => b.stack.length) hbuilder
  simp only [Builder.length_stack_mapSymbols] at hheight
  have hend := Builder.mapSymbols_closeMany (Symbol.movesEnds_bare f) (Builder.empty.scan 0 lines)
    (documentEnd lines) (Builder.empty.scan 0 lines).stack.length
  have hend' := Builder.mapSymbols_closeMany (Symbol.movesEnds_bare id)
    (Builder.empty.scan 0 lines') (documentEnd lines') (Builder.empty.scan 0 lines').stack.length
  rw [hbuilder, hheight, ← hend'] at hend
  rw [SymbolTree.mapSymbolsAll_eq, SymbolTree.mapSymbolsAll_eq, symbols_ofLines, symbols_ofLines,
    hheight]
  exact congrArg Builder.finished hend

theorem relaid_symbol (h : Relaid f lines lines') (ht : t ∈ (ofLines lines).preorder)
    (ht' : t' ∈ (ofLines lines').preorder) (hbare : t.symbol.bare f = t'.symbol.bare id) :
    Symbol.Relaid f (Line.kinds lines) t.symbol t'.symbol := by
  have hkind : t'.symbol.kind = t.symbol.kind := (congrArg Symbol.kind hbare).symm
  have hstart : t'.startLine = f t.startLine :=
    (congrArg (fun s : Symbol => s.range.start.line) hbare).symm
  refine ⟨(congrArg Symbol.name hbare).symm, (congrArg Symbol.detail hbare).symm, hkind, hstart,
    fun hfunction ⟨j, hj⟩ => ?_⟩
  have hmatch := hj.relaid h (opener_of_kind ht hfunction)
  rw [stop_line_of_matches ht hfunction hj]
  refine stop_line_of_matches ht' (hkind.trans hfunction) ?_
  rw [hstart]
  exact hmatch

theorem relaid_symbols (h : Relaid f lines lines') :
    List.Forall₂ (SymbolTree.Alike (Symbol.Relaid f (Line.kinds lines))) (ofLines lines).symbols
      (ofLines lines').symbols :=
  SymbolTree.alike_of_mapSymbolsAll _ _ (bare_symbols h) fun _ ht _ ht' =>
    relaid_symbol h (mem_preorder.2 ht) (mem_preorder.2 ht')

end Outline

open Outline in
/-- Layout does not matter. A document that is laid out anew leaves the same blocks open and has the
same findings on the same lines, but for those about blocks left open; its outline has the same trees
of symbols, which start on the same lines, and end on the same lines if a closer ends them. -/
theorem layout_keeps (f : Nat → Nat) (lines lines' : List Text) (h : Relaid f lines lines')
    (check : ElseCheck) :
    (validate check lines').residue = (validate check lines).residue ∧
    List.Forall₂ (Finding.Relaid f) (validate check lines).findings
      (validate check lines').findings ∧
    List.Forall₂ (SymbolTree.Alike (Symbol.Relaid f (Line.kinds lines))) (ofLines lines).symbols
      (ofLines lines').symbols :=
  ⟨(Validation.relaid_validate h check).1, (Validation.relaid_validate h check).2,
    relaid_symbols h⟩

/-- A function that stays open around one that does not, and then a closer of nothing. -/
def denseDocument : List Text :=
  ["Create a function named outer.".toList, "Crée une fonction nommée inner.".toList,
    "J'ai un nombre appelé x".toList, "FinFonction.".toList, "FinSi.".toList]

/-- The same with room, and with comments that would open, close and unbalance if they were read. -/
def airyDocument : List Text :=
  ["// EndFunction. (".toList, "\tCreate a function named outer.  ".toList, "".toList,
    "  Crée une fonction nommée inner.".toList, "  // Si x.".toList,
    "    J'ai un nombre appelé x\u3000".toList, "  FinFonction.".toList, "FinSi. ".toList,
    " // FinFonction. )".toList, " ".toList]

/-- Where the lines of the one document are in the other. -/
def airyLine (i : Nat) : Nat := [1, 3, 5, 6, 7].getD i 0

open Outline in
theorem airyDocument_layout :
    Relaid airyLine denseDocument airyDocument ∧
    (validate .warn airyDocument).residue = ⟨1, 0, 0, 0⟩ ∧
    List.Forall₂ (Finding.Relaid airyLine) (validate .warn denseDocument).findings
      (validate .warn airyDocument).findings ∧
    (validate .warn airyDocument).findings.map (fun x => (x.code, x.range.start.line)) =
      [(.malformedDeclaration, 5), (.unmatchedCloser, 7), (.unclosedConstruct, 9)] ∧
    List.Forall₂ (SymbolTree.Alike (Symbol.Relaid airyLine (Line.kinds denseDocument)))
      (ofLines denseDocument).symbols (ofLines airyDocument).symbols ∧
    (ofLines airyDocument).preorder.map (fun t => (t.startLine, t.symbol.range.stop.line)) =
      [(1, 9), (3, 6), (5, 5)] := by
  have hrelaid : Relaid airyLine denseDocument airyDocument :=
    ⟨by decide +kernel, by decide +kernel, by decide +kernel⟩
  obtain ⟨hresidue, hfindings, hsymbols⟩ := layout_keeps _ _ _ hrelaid .warn
  refine ⟨hrelaid, ?_, hfindings, by decide +kernel, hsymbols, by decide +kernel⟩
  rw [hresidue]
  decide +kernel

end Bilingua
