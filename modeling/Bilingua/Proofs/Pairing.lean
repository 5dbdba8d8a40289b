import Bilingua.Proofs.Composition
import Bilingua.Proofs.Laminar

/-!
# Functions in outlines and in reports

An outline pairs the closers of functions with their openers by a stack, validation by a count that
never falls below zero. The two agree on every document: the stack is as high as the count
(`Builder.length_stack_before`), a closer takes one entry off the stack unless it is reported
(`Outline.openSymbols_of_accepted`), and one that is reported is nothing to the outline
(`Outline.symbols_eraseIdx`).
-/

namespace Bilingua

/-- The number of line `j` once another line is put in before line `i`. -/
def makeRoom (i j : Nat) : Nat := if j < i then j else j + 1

theorem makeRoom_before (i : Nat) : Moves (makeRoom i) 0 0 i := by
  intro j hj
  rw [Nat.zero_add]
  exact if_pos hj

theorem makeRoom_add (i j : Nat) : makeRoom i (j + i) = j + 1 + i := by
  unfold makeRoom
  rw [if_neg (by omega)]
  omega

/-- The blocks of a construct that are open before a line are as many as its depth there. -/
theorem length_openBlocks (k : Construct) (kinds : List LineKind) (m : Nat) :
    (openBlocks k kinds m).length = (Nesting.none.afterAll (kinds.take m)).depth k := by
  induction m with
  | zero => exact (Nesting.depth_none k).symm
  | succ m ih =>
    rw [List.take_add_one, Nesting.afterAll_append]
    rcases openBlocks_succ_cases k kinds m with ⟨ho, heq⟩ | ⟨hc, heq⟩ | ⟨ho, hc, heq⟩
    · rw [heq, ho, Option.toList_some, Nesting.afterAll_cons, Nesting.afterAll_nil,
        Nesting.depth_after, if_pos rfl, ← ih, List.length_cons]
    · rw [heq, hc, Option.toList_some, Nesting.afterAll_cons, Nesting.afterAll_nil,
        Nesting.depth_after, if_neg (by simp), if_pos rfl, ← ih, List.length_tail]
    · rw [heq, ih]
      cases hkind : kinds[m]? with
      | none => rfl
      | some kind =>
        rw [hkind, ne_eq, Option.some_inj] at ho hc
        rw [Option.toList_some, Nesting.afterAll_cons, Nesting.afterAll_nil, Nesting.depth_after,
          if_neg ho, if_neg hc]

/-! ## Reported closers -/

def Report.RejectsCloser (r : Report) (i : Nat) : Prop :=
  ∃ f ∈ r.findings, f.code = .unmatchedCloser ∧ f.range.start.line = i

instance (r : Report) (i : Nat) : Decidable (r.RejectsCloser i) :=
  inferInstanceAs (Decidable (∃ f ∈ r.findings, f.code = .unmatchedCloser ∧ f.range.start.line = i))

theorem Validation.rejectsCloser_iff {check : ElseCheck} {lines : List Text} {i : Nat}
    {k : Construct} (hk : (Line.kinds lines)[i]? = some (.closer k)) :
    (validate check lines).RejectsCloser i ↔
      (Nesting.none.afterAll ((Line.kinds lines).take i)).depth k = 0 := by
  constructor
  · rintro ⟨f, hf⟩
    obtain ⟨c, _, hc, _⟩ := closesNothing_of_mem_on (Report.mem_on.2 hf)
    obtain ⟨hkind, hdepth⟩ := closesNothing_iff.1 hc
    rw [hk, Option.some_inj, LineKind.closer.injEq] at hkind
    rwa [hkind]
  · intro hdepth
    obtain ⟨span, hon⟩ := on_unmatchedCloser check (closesNothing_iff.2 ⟨hk, hdepth⟩)
    have hmem : Finding.unmatchedCloser (.onLine i span) k ∈
        (validate check lines).on .unmatchedCloser i := by
      rw [hon]
      exact List.mem_singleton_self _
    exact ⟨_, Report.mem_on.1 hmem⟩

namespace Outline

open SymbolTree

/-! ## The stack along a document -/

namespace Builder

def before (lines : List Text) (i : Nat) : Builder := empty.scan 0 (lines.take i)

/-- The symbols of the open functions, innermost first, with `none` for one without a name. -/
def openSymbols (b : Builder) : List (Option Symbol) := b.stack.map (Option.map SymbolTree.symbol)

variable {b : Builder} {lines : List Text} {line : Text} {i : Nat}

theorem length_stack_before (check : ElseCheck) (lines : List Text) (m : Nat) :
    (before lines m).stack.length = (validate check (lines.take m)).residue.depth .function := by
  rw [Validation.residue_validate]
  exact length_stack_scan 0 (lines.take m) rfl

theorem before_succ (h : lines[i]? = some line) :
    before lines (i + 1) = (before lines i).step i line := by
  have hlength : (lines.take i).length = i :=
    List.length_take_of_le (Nat.le_of_lt (List.getElem?_eq_some_iff.1 h).1)
  unfold before
  rw [List.take_add_one, h, Option.toList_some, scan_append, hlength, Nat.zero_add]
  rfl

theorem symbols_attachTo {t : SymbolTree} {stack stack' : List (Option SymbolTree)}
    (h : attachTo t stack = some stack') :
    stack'.map (Option.map SymbolTree.symbol) = stack.map (Option.map SymbolTree.symbol) := by
  induction stack generalizing stack' with
  | nil => cases h
  | cons entry stack ih =>
    cases entry with
    | none =>
      obtain ⟨later, hlater, rfl⟩ := Option.map_eq_some_iff.1 h
      rw [List.map_cons, List.map_cons, ih hlater]
    | some parent =>
      obtain rfl := Option.some_inj.1 h
      cases parent with
      | node s cs => rfl

theorem openSymbols_attach (b : Builder) (t : SymbolTree) :
    (b.attach t).openSymbols = b.openSymbols := by
  unfold attach
  split
  · next stack h => exact symbols_attachTo h
  · rfl

theorem openSymbols_close (b : Builder) (stop : Position) :
    (b.close stop).openSymbols = b.openSymbols.tail := by
  obtain ⟨stack, finished⟩ := b
  cases stack with
  | nil => rfl
  | cons entry stack =>
    cases entry with
    | none => rfl
    | some t => exact openSymbols_attach ⟨stack, finished⟩ (t.endingAt stop)

theorem close_of_stack_eq_nil (h : b.stack = []) (stop : Position) : b.close stop = b := by
  unfold close
  rw [h]

end Builder

variable {check : ElseCheck} {lines : List Text} {line : Text} {i : Nat} {f : Nat → Nat}

/-! ## Closers that are reported, and closers that are not -/

theorem line_of_closer {k : Construct} (hk : (Line.kinds lines)[i]? = some (.closer k)) :
    ∃ line, lines[i]? = some line ∧ Line.classify line = .closer k := by
  rw [Line.kinds_getElem?] at hk
  exact Option.map_eq_some_iff.1 hk

/-- A closer of a function is reported exactly if no function is on the stack. -/
theorem rejectsCloser_iff_stack (hk : (Line.kinds lines)[i]? = some (.closer .function)) :
    (validate check lines).RejectsCloser i ↔ (Builder.before lines i).stack = [] := by
  have hkinds : (Line.kinds lines).take i = Line.kinds (lines.take i) := List.map_take.symm
  rw [Validation.rejectsCloser_iff hk, hkinds, ← List.length_eq_zero_iff,
    Builder.length_stack_before check, Validation.residue_validate]

theorem openSymbols_of_accepted (hk : (Line.kinds lines)[i]? = some (.closer .function))
    (h : ¬ (validate check lines).RejectsCloser i) :
    ∃ entry, (Builder.before lines i).openSymbols =
      entry :: (Builder.before lines (i + 1)).openSymbols := by
  obtain ⟨line, hline, hkind⟩ := line_of_closer hk
  rw [rejectsCloser_iff_stack hk] at h
  obtain ⟨entry, stack, hstack⟩ := List.exists_cons_of_ne_nil h
  rw [Builder.before_succ hline, Builder.step_closer hkind, Builder.openSymbols_close]
  unfold Builder.openSymbols
  rw [hstack]
  exact ⟨_, rfl⟩

theorem before_succ_of_rejected (hk : (Line.kinds lines)[i]? = some (.closer .function))
    (h : (validate check lines).RejectsCloser i) :
    Builder.before lines (i + 1) = Builder.before lines i := by
  obtain ⟨line, hline, hkind⟩ := line_of_closer hk
  rw [Builder.before_succ hline, Builder.step_closer hkind,
    Builder.close_of_stack_eq_nil ((rejectsCloser_iff_stack hk).1 h)]

/-- Nothing ends with a closer that is reported, nor with a document whose last line is one. -/
theorem stop_line_ne_of_rejected {t : SymbolTree}
    (hk : (Line.kinds lines)[i]? = some (.closer .function))
    (h : (validate check lines).RejectsCloser i) (ht : t ∈ (ofLines lines).preorder) :
    t.symbol.range.stop.line ≠ i := by
  have hnone : openBlocks .function (Line.kinds lines) i = [] := by
    rw [← List.length_eq_zero_iff, length_openBlocks]
    exact (Validation.rejectsCloser_iff hk).1 h
  rcases stop_cases ht with ⟨j, _, _, hstop, ⟨hvariable, rfl⟩ | ⟨hfunction, hmatch⟩⟩ |
    ⟨hfunction, hopen, last, _, hstop⟩
  · rw [hstop]
    rintro rfl
    rcases kind_cases ht with ⟨_, hkind⟩ | ⟨_, hkind⟩
    · cases hk.symm.trans hkind
    · cases hk.symm.trans hkind
  · rw [hstop]
    rintro rfl
    have hblock := (hmatch.closer (opener_of_kind ht hfunction)).2
    cases hnone.symm.trans hblock
  · rw [hstop]
    rintro (rfl : lines.length - 1 = i)
    -- A function that ends with the document is open before the last line.
    have ho := opener_of_kind ht hfunction
    have hlt := (List.getElem?_eq_some_iff.1 ho).1
    have hne : t.startLine ≠ lines.length - 1 := fun heq => by
      rw [heq] at ho
      cases hk.symm.trans ho
    have hmem : t.startLine ∈ openBlocks .function (Line.kinds lines) (lines.length - 1) := by
      refine mem_openBlocks_iff.2 ⟨?_, ho, fun j hj => absurd hj (hopen j)⟩
      rw [Line.kinds, List.length_map] at hlt
      omega
    rw [hnone] at hmem
    cases hmem

/-! ## Without the closers that are reported -/

/-- Numbers that stay for all lines of a document stay in its outline. -/
theorem renumber_ofLines (hf : Moves f 0 0 lines.length) :
    (ofLines lines).symbols.map (SymbolTree.renumber f) = (ofLines lines).symbols := by
  by_cases hlines : lines = []
  · rw [hlines]
    rfl
  · have hscan : (Builder.empty.scan 0 lines).renumber f = Builder.empty.scan 0 lines :=
      (Builder.scan_renumber hf).symm
    have hend : (documentEnd lines).renumber f = documentEnd lines := by
      have hlast := hf (lines.length - 1) (by have := List.length_pos_iff.2 hlines; omega)
      rw [Nat.zero_add] at hlast
      unfold documentEnd Position.renumber
      rw [hlast]
    have hclose := Builder.renumber_closeMany f (Builder.empty.scan 0 lines) (documentEnd lines)
      (Builder.empty.scan 0 lines).stack.length
    rw [hscan, hend] at hclose
    rw [symbols_ofLines]
    exact congrArg Builder.finished hclose

/-- A closer that is reported can be left out: only the numbers of later lines change. -/
theorem symbols_eraseIdx (hk : (Line.kinds lines)[i]? = some (.closer .function))
    (h : (validate check lines).RejectsCloser i) :
    (ofLines lines).symbols =
      (ofLines (lines.eraseIdx i)).symbols.map (SymbolTree.renumber (makeRoom i)) := by
  obtain ⟨line, hline, hkind⟩ := line_of_closer hk
  obtain ⟨hi, hget⟩ := List.getElem?_eq_some_iff.1 hline
  have hstack : (Builder.empty.scan 0 (lines.take i)).stack = [] :=
    (rejectsCloser_iff_stack hk).1 h
  have hlength : (lines.take i).length = i := List.length_take_of_le (Nat.le_of_lt hi)
  have hsplit : lines = lines.take i ++ ([line] ++ lines.drop (i + 1)) := by
    rw [List.singleton_append, ← hget, List.getElem_cons_drop, List.take_append_drop]
  have hcloser : Builder.empty.scan 0 [line] = .empty := by
    rw [Builder.scan, Builder.step_closer hkind]
    rfl
  have hnothing : (ofLines [line]).symbols = [] := by
    rw [symbols_ofLines, hcloser]
    rfl
  have hmoves : Moves (makeRoom i) 0 0 (lines.take i).length := by
    rw [hlength]
    exact makeRoom_before i
  have hlater : makeRoom i ∘ (· + i) = (· + i) ∘ (· + 1) := funext (makeRoom_add i)
  conv_lhs => rw [hsplit]
  rw [List.eraseIdx_eq_take_drop_succ, symbols_append hstack, symbols_append hstack,
    symbols_append (by rw [hcloser]; rfl), hnothing, List.nil_append, List.map_append,
    renumber_ofLines hmoves, hlength, List.map_map, List.map_map]
  congr 2
  funext t
  simp only [Function.comp_apply, SymbolTree.renumber_renumber, hlater, List.length_singleton]

/-- Outlines and reports pair the openers and closers of functions alike. Before every line, the open
functions are as many as the depth of functions that is reported for the lines so far. A closer of a
function that is reported changes nothing, no symbol ends with it, and without it the outline is the
same but for the numbers of later lines. Any other closer takes the innermost function off the
stack. -/
theorem functions_paired_alike (check : ElseCheck) (lines : List Text) :
    (∀ m, (Builder.before lines m).stack.length =
      (validate check (lines.take m)).residue.depth .function) ∧
    ∀ i, (Line.kinds lines)[i]? = some (.closer .function) →
      ((validate check lines).RejectsCloser i →
        Builder.before lines (i + 1) = Builder.before lines i ∧
        (∀ t ∈ (ofLines lines).preorder, t.symbol.range.stop.line ≠ i) ∧
        (ofLines lines).symbols =
          (ofLines (lines.eraseIdx i)).symbols.map (SymbolTree.renumber (makeRoom i))) ∧
      (¬ (validate check lines).RejectsCloser i →
        ∃ entry, (Builder.before lines i).openSymbols =
          entry :: (Builder.before lines (i + 1)).openSymbols) := by
  refine ⟨Builder.length_stack_before check lines, fun i hk => ⟨fun h => ?_, ?_⟩⟩
  · exact ⟨before_succ_of_rejected hk h, fun t => stop_line_ne_of_rejected hk h,
      symbols_eraseIdx hk h⟩
  · exact openSymbols_of_accepted hk

/-- A function that is closed twice, and one without a name after it. -/
def twiceClosedDocument : List Text :=
  ["Create a function named f.".toList, "EndFunction.".toList, "  FinFonction.".toList,
    "Crée une fonction nommée".toList, "  J'ai un nombre appelé x.".toList, "FinFonction.".toList]

theorem twiceClosedDocument_paired :
    (Line.kinds twiceClosedDocument)[2]? = some (.closer .function) ∧
    (validate .warn twiceClosedDocument).RejectsCloser 2 ∧
    (ofLines twiceClosedDocument).symbols.map startLine = [0, 4] ∧
    (Line.kinds twiceClosedDocument)[5]? = some (.closer .function) ∧
    ¬ (validate .warn twiceClosedDocument).RejectsCloser 5 ∧
    ∃ entry, (Builder.before twiceClosedDocument 5).openSymbols =
      entry :: (Builder.before twiceClosedDocument 6).openSymbols := by
  have hsecond : (Line.kinds twiceClosedDocument)[2]? = some (.closer .function) := by
    decide +kernel
  have hrejected : (validate .warn twiceClosedDocument).RejectsCloser 2 := by decide +kernel
  have hlast : (Line.kinds twiceClosedDocument)[5]? = some (.closer .function) := by
    decide +kernel
  have haccepted : ¬ (validate .warn twiceClosedDocument).RejectsCloser 5 := by decide +kernel
  obtain ⟨_, hclosers⟩ := functions_paired_alike .warn twiceClosedDocument
  rw [((hclosers 2 hsecond).1 hrejected).2.2]
  exact ⟨hsecond, hrejected, by decide +kernel, hlast, haccepted, (hclosers 5 hlast).2 haccepted⟩

end Outline

end Bilingua
