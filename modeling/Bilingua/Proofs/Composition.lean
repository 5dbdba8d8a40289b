import Bilingua.Proofs.Balance
import Bilingua.Proofs.Renumbering
import Bilingua.Proofs.SourceOrder

/-!
# Documents one after the other

What is told of a document stays when lines follow it, but for the blocks that it leaves open. If it
leaves none open, the lines that follow are read as a document of their own, from another line on:
the report of the whole is the one report after the other, and the same holds of outlines if no
function is left open.

Two facts carry the outlines. The stack of open functions has the depth of functions as its height
(`Builder.length_stack_scan`), and trees that are finished are never looked at again
(`Builder.scan_following`).
-/

namespace Bilingua

theorem Nesting.afterAll_append (n : Nesting) (ks ls : List LineKind) :
    n.afterAll (ks ++ ls) = (n.afterAll ks).afterAll ls := List.foldl_append

theorem Nesting.eq_none_of_isBalanced {n : Nesting} (h : n.isBalanced = true) : n = .none :=
  Nesting.ext fun k => by rw [isBalanced_iff.1 h k, depth_none]

def documentEnd (lines : List Text) : Position :=
  ⟨lines.length - 1, (lines.getLast?.getD []).length⟩

theorem documentEnd_append {xs ys : List Text} (h : ys ≠ []) :
    documentEnd (xs ++ ys) = (documentEnd ys).renumber (· + xs.length) := by
  have hlast := List.getLast?_eq_some_getLast h
  have hpos := List.length_pos_iff.2 h
  unfold documentEnd Position.renumber
  rw [List.getLast?_append, hlast, List.length_append]
  congr 1
  show xs.length + ys.length - 1 = ys.length - 1 + xs.length
  omega

/-! ## Reports -/

namespace Validation

variable {check : ElseCheck} {n : Nesting} {i : Nat} {f : Finding} {lines xs ys : List Text}

theorem scan_append : (scan check i n (xs ++ ys)).1 = (scan check i n xs).1 ++
    (scan check (i + xs.length) (n.afterAll (Line.kinds xs)) ys).1 := by
  induction xs generalizing i n with
  | nil => rfl
  | cons line xs ih =>
    rw [List.cons_append, scan_cons, scan_cons, ih, List.append_assoc, List.length_cons,
      show i + 1 + xs.length = i + (xs.length + 1) by omega]
    rfl

theorem line_lt_of_mem_scan (h : f ∈ (scan check i n lines).1) : f.line < i + lines.length := by
  obtain ⟨j, line, hline, hf⟩ := mem_scan.1 h
  have hj := (List.getElem?_eq_some_iff.1 hline).1
  rw [line_of_mem_lineFindings hf]
  omega

theorem unclosedFindings_none (lines : List Text) : unclosedFindings .none lines = [] := by
  unfold unclosedFindings
  cases lines.getLast? <;> rfl

theorem unclosedFindings_of_ne_nil (h : lines ≠ []) :
    unclosedFindings n lines = n.residue.map fun p =>
      .unclosedConstruct ⟨⟨(documentEnd lines).line, 0⟩, documentEnd lines⟩ p.1 p.2 := by
  have hlast := List.getLast?_eq_some_getLast h
  unfold unclosedFindings documentEnd
  rw [hlast]
  rfl

/-- The blocks left open are told on the last line, wherever it comes to stand. -/
theorem unclosedFindings_append (h : ys ≠ []) : unclosedFindings n (xs ++ ys) =
    (unclosedFindings n ys).map (Finding.renumber (· + xs.length)) := by
  have hne : xs ++ ys ≠ [] := fun hnil => h (List.append_eq_nil_iff.1 hnil).2
  rw [unclosedFindings_of_ne_nil hne, unclosedFindings_of_ne_nil h, documentEnd_append h,
    List.map_map]
  rfl

theorem filter_code_validate (check : ElseCheck) (lines : List Text) :
    (validate check lines).findings.filter (fun f => f.code ≠ .unclosedConstruct) =
      (scan check 0 .none lines).1 := by
  have hscan : (scan check 0 .none lines).1.filter (fun f => f.code ≠ .unclosedConstruct) =
      (scan check 0 .none lines).1 :=
    List.filter_eq_self.2 fun f hf => decide_eq_true (code_ne_of_mem_scan hf)
  have hend : (unclosedFindings (Nesting.none.afterAll (Line.kinds lines)) lines).filter
      (fun f => f.code ≠ .unclosedConstruct) = [] :=
    List.filter_eq_nil_iff.2 fun f hf => by simp [code_of_mem_unclosedFindings hf]
  rw [findings_validate, List.filter_append, hscan, hend, List.append_nil]

/-- What is told of the first lines by themselves is told of them with others after them. -/
theorem filter_findings_append (check : ElseCheck) (xs ys : List Text) :
    (validate check (xs ++ ys)).findings.filter
        (fun f => f.code ≠ .unclosedConstruct ∧ f.range.start.line < xs.length) =
      (validate check xs).findings.filter (fun f => f.code ≠ .unclosedConstruct) := by
  have hbefore : (scan check 0 .none xs).1.filter (fun f => f.line < xs.length) =
      (scan check 0 .none xs).1 :=
    List.filter_eq_self.2 fun f hf => by
      have := line_lt_of_mem_scan hf
      simp
      omega
  have hafter : (scan check (0 + xs.length) (Nesting.none.afterAll (Line.kinds xs)) ys).1.filter
      (fun f => f.line < xs.length) = [] :=
    List.filter_eq_nil_iff.2 fun f hf => by
      have := le_line_of_mem_scan hf
      simp
      omega
  have hsplit : (validate check (xs ++ ys)).findings.filter
      (fun f => f.code ≠ .unclosedConstruct ∧ f.range.start.line < xs.length) =
        ((validate check (xs ++ ys)).findings.filter
          (fun f => f.code ≠ .unclosedConstruct)).filter (fun f => f.line < xs.length) := by
    rw [List.filter_filter]
    refine List.filter_congr fun f _ => ?_
    rw [Bool.and_comm]
    exact Bool.decide_and _ _
  rw [hsplit, filter_code_validate, filter_code_validate, scan_append, List.filter_append, hbefore,
    hafter, List.append_nil]

theorem residue_append (h : (validate check xs).residue.isBalanced = true) :
    (validate check (xs ++ ys)).residue = (validate check ys).residue := by
  rw [residue_validate] at h ⊢
  rw [residue_validate, Line.kinds_append, Nesting.afterAll_append,
    Nesting.eq_none_of_isBalanced h]

/-- After lines that leave nothing open, a document is reported on as if by itself. -/
theorem findings_append (h : (validate check xs).residue.isBalanced = true) :
    (validate check (xs ++ ys)).findings = (validate check xs).findings ++
      (validate check ys).findings.map (Finding.renumber (· + xs.length)) := by
  rw [residue_validate] at h
  have hnone := Nesting.eq_none_of_isBalanced h
  by_cases hys : ys = []
  · rw [hys, List.append_nil]
    exact (List.append_nil _).symm
  · have hscan : (scan check (0 + xs.length) .none ys).1 =
        (scan check 0 .none ys).1.map (Finding.renumber (· + xs.length)) :=
      scan_renumber (moves_add xs.length)
    rw [findings_validate, findings_validate, findings_validate, Line.kinds_append,
      Nesting.afterAll_append, scan_append, hnone, unclosedFindings_none, List.append_nil,
      unclosedFindings_append hys, hscan, List.map_append, List.append_assoc]

end Validation

/-! ## Outlines -/

namespace Outline

namespace Builder

variable {b : Builder} {n : Nesting} {i : Nat} {line : Text} {lines : List Text}
  {ts : List SymbolTree}

theorem scan_append (b : Builder) (i : Nat) (xs ys : List Text) :
    b.scan i (xs ++ ys) = (b.scan i xs).scan (i + xs.length) ys := by
  induction xs generalizing b i with
  | nil => rfl
  | cons line xs ih =>
    rw [List.cons_append, scan, scan, ih, List.length_cons,
      show i + 1 + xs.length = i + (xs.length + 1) by omega]

theorem length_stack_declare (b : Builder) (symbol : Option Symbol) :
    (b.declare symbol).stack.length = b.stack.length := by
  cases symbol with
  | none => rfl
  | some s => exact length_stack_attach b _

theorem length_stack_step (h : b.stack.length = n.depth .function) :
    (b.step i line).stack.length = (n.after (Line.classify line)).depth .function := by
  rw [Nesting.depth_after]
  by_cases ho : Line.classify line = .opener .function
  · rw [step_opener ho, if_pos ho, ← h]
    rfl
  · by_cases hc : Line.classify line = .closer .function
    · rw [step_closer hc, if_neg ho, if_pos hc, ← h, length_stack_close]
    · rw [step_other ho hc, if_neg ho, if_neg hc, ← h, length_stack_declare]

theorem length_stack_scan (i : Nat) (lines : List Text) (h : b.stack.length = n.depth .function) :
    (b.scan i lines).stack.length = (n.afterAll (Line.kinds lines)).depth .function := by
  induction lines generalizing b n i with
  | nil => exact h
  | cons line lines ih => exact ih (i + 1) (length_stack_step h)

/-- The builder with trees that were finished before its own. -/
def following (ts : List SymbolTree) (b : Builder) : Builder :=
  { b with finished := ts ++ b.finished }

theorem attach_following (b : Builder) (ts : List SymbolTree) (t : SymbolTree) :
    (b.following ts).attach t = (b.attach t).following ts := by
  unfold attach following
  cases attachTo t b.stack <;> simp

theorem close_following (stop : Position) :
    (b.following ts).close stop = (b.close stop).following ts := by
  obtain ⟨stack, finished⟩ := b
  cases stack with
  | nil => rfl
  | cons entry stack =>
    cases entry with
    | none => rfl
    | some t => exact attach_following ⟨stack, finished⟩ ts (t.endingAt stop)

theorem closeMany_following (stop : Position) (count : Nat) :
    closeMany stop count (b.following ts) = (closeMany stop count b).following ts := by
  induction count generalizing b with
  | zero => rfl
  | succ count ih => rw [closeMany, close_following, ih, closeMany]

theorem step_following : (b.following ts).step i line = (b.step i line).following ts := by
  by_cases ho : Line.classify line = .opener .function
  · rw [step_opener ho, step_opener ho]
    rfl
  · by_cases hc : Line.classify line = .closer .function
    · rw [step_closer hc, step_closer hc, close_following]
    · rw [step_other ho hc, step_other ho hc]
      cases Symbol.ofLine? i line with
      | none => rfl
      | some s => exact attach_following b ts (.node s [])

theorem scan_following : (b.following ts).scan i lines = (b.scan i lines).following ts := by
  induction lines generalizing b i with
  | nil => rfl
  | cons line lines ih => rw [scan, step_following, ih, scan]

end Builder

variable {xs ys : List Text}

theorem symbols_ofLines (lines : List Text) :
    (ofLines lines).symbols = (Builder.closeMany (documentEnd lines)
      (Builder.empty.scan 0 lines).stack.length (Builder.empty.scan 0 lines)).finished := by
  unfold ofLines documentEnd
  cases hlast : lines.getLast? with
  | none =>
    rw [List.getLast?_eq_none_iff.1 hlast]
    rfl
  | some last => rfl

theorem stack_eq_nil {check : ElseCheck} (h : (validate check xs).residue.depth .function = 0) :
    (Builder.empty.scan 0 xs).stack = [] := by
  rw [Validation.residue_validate] at h
  refine List.eq_nil_of_length_eq_zero ?_
  rw [Builder.length_stack_scan 0 xs (n := .none) rfl, h]

/-- After lines that leave no function open, a document has the outline that it has by itself. -/
theorem symbols_append (h : (Builder.empty.scan 0 xs).stack = []) :
    (ofLines (xs ++ ys)).symbols = (ofLines xs).symbols ++
      (ofLines ys).symbols.map (SymbolTree.renumber (· + xs.length)) := by
  by_cases hys : ys = []
  · rw [hys, List.append_nil]
    exact (List.append_nil _).symm
  · have hstart : Builder.empty.scan 0 xs =
        (Builder.empty.renumber (· + xs.length)).following (ofLines xs).symbols := by
      rw [symbols_ofLines, h]
      show _ = Builder.mk [] ((Builder.empty.scan 0 xs).finished ++ [])
      rw [List.append_nil, ← h]
    have hscan : Builder.empty.scan 0 (xs ++ ys) =
        ((Builder.empty.scan 0 ys).renumber (· + xs.length)).following (ofLines xs).symbols := by
      rw [Builder.scan_append, hstart, Builder.scan_following,
        Builder.scan_renumber (moves_add xs.length)]
    have hheight : (Builder.empty.scan 0 (xs ++ ys)).stack.length =
        (Builder.empty.scan 0 ys).stack.length := by
      rw [hscan]
      exact Builder.length_stack_mapSymbols _ _
    rw [symbols_ofLines, symbols_ofLines ys, hheight, hscan, documentEnd_append hys,
      Builder.closeMany_following, ← Builder.renumber_closeMany]
    rfl

end Outline

open Outline in
/-- Documents compose. What is told of the first lines stays when others follow, but for the blocks
that they leave open. If these lines leave nothing open, the report of the whole is their report and
then that of the lines that follow; if they leave no function open, so are the outlines. -/
theorem documents_compose (check : ElseCheck) (xs ys : List Text) :
    (validate check (xs ++ ys)).findings.filter
        (fun f => f.code ≠ .unclosedConstruct ∧ f.range.start.line < xs.length) =
      (validate check xs).findings.filter (fun f => f.code ≠ .unclosedConstruct) ∧
    ((validate check xs).residue.isBalanced = true →
      (validate check (xs ++ ys)).findings = (validate check xs).findings ++
        (validate check ys).findings.map (Finding.renumber (· + xs.length)) ∧
      (validate check (xs ++ ys)).residue = (validate check ys).residue) ∧
    ((validate check xs).residue.depth .function = 0 →
      (ofLines (xs ++ ys)).symbols = (ofLines xs).symbols ++
        (ofLines ys).symbols.map (SymbolTree.renumber (· + xs.length))) :=
  ⟨Validation.filter_findings_append check xs ys,
    fun h => ⟨Validation.findings_append h, Validation.residue_append h⟩,
    fun h => symbols_append (stack_eq_nil h)⟩

/-- A document that leaves nothing open, with a closer of nothing in it and blocks that overlap. -/
def closedDocument : List Text :=
  ["FinSi.".toList, "Create a function named f.".toList, "  If x.".toList, "EndFunction.".toList,
    "  FinSi.".toList]

/-- Lines that leave a function open, with an else branch of nothing before it. -/
def laterDocument : List Text :=
  ["Sinon".toList, "Crée une fonction nommée g.".toList, "  J'ai un nombre appelé y.".toList]

open Outline in
theorem closedDocument_composes :
    (validate .warn closedDocument).residue.isBalanced = true ∧
    (validate .warn closedDocument).residue.depth .function = 0 ∧
    (validate .warn (closedDocument ++ laterDocument)).findings.map
        (fun f => (f.code, f.range.start.line)) =
      [(.unmatchedCloser, 0), (.strayElse, 5), (.unclosedConstruct, 7)] ∧
    (ofLines (closedDocument ++ laterDocument)).symbols.map
        (fun t => (t.startLine, t.symbol.range.stop.line, t.children.map SymbolTree.startLine)) =
      [(1, 3, []), (6, 7, [7])] := by
  have hbalanced : (validate .warn closedDocument).residue.isBalanced = true := by decide +kernel
  have hfunctions : (validate .warn closedDocument).residue.depth .function = 0 := by
    decide +kernel
  obtain ⟨_, hreport, houtline⟩ := documents_compose .warn closedDocument laterDocument
  rw [(hreport hbalanced).1, houtline hfunctions]
  exact ⟨hbalanced, hfunctions, by decide +kernel, by decide +kernel⟩

end Bilingua
