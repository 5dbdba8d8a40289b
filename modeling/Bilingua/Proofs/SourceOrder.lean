import Bilingua.Outline.Basic
import Bilingua.Proofs.Forests
import Bilingua.Proofs.Introductions

/-!
# Symbols in source order

A function goes into its place in the outline only when it ends, a variable at once. All the same
the outline, read in preorder, has the symbols in the order of their lines, with none lost and none
twice. What carries the proof is the order of the trees under construction (`Builder.trees`): the
finished ones, then the open functions from the outside in. Whatever is attached or closed, their
heads in preorder stay as they are, but for a new one at the end.

`Builder.scan_induction` and `exists_builder_ofLines` are the inductions along a document and over
what is left open at its end.
-/

namespace Bilingua

/-! ## Heads of symbols -/

/-- The symbol up to where it ends. -/
def Symbol.head (s : Symbol) : Symbol := s.endingAt s.range.start

namespace SymbolTree

def startLine (t : SymbolTree) : Nat := t.symbol.range.start.line

def heads (ts : List SymbolTree) : List Symbol := (preorderAll ts).map fun t => t.symbol.head

@[simp]
theorem heads_nil : heads [] = [] := rfl

@[simp]
theorem heads_append (ts us : List SymbolTree) : heads (ts ++ us) = heads ts ++ heads us := by
  rw [heads, preorderAll_append, List.map_append]
  rfl

theorem heads_node (s : Symbol) (cs : List SymbolTree) :
    heads [.node s cs] = s.head :: heads cs := by
  simp [heads, preorderAll, preorder, symbol]

theorem heads_addChild (t u : SymbolTree) : heads [t.addChild u] = heads [t] ++ heads [u] := by
  cases t with
  | node s cs => rw [addChild, heads_node, heads_node, heads_append, List.cons_append]

theorem heads_endingAt (t : SymbolTree) (stop : Position) : heads [t.endingAt stop] = heads [t] := by
  cases t with
  | node s cs =>
    rw [endingAt, heads_node, heads_node]
    rfl

end SymbolTree

namespace Outline

open SymbolTree

/-! ## Induction along a document -/

namespace Builder

variable {P : Nat → Builder → Prop} {b : Builder} {stop : Position} {lines : List Text}
  {stack stack' : List (Option SymbolTree)} {t : SymbolTree} {i : Nat} {line : Text}

theorem scan_induction_from (b : Builder) (i : Nat) (h : P i b)
    (hstep : ∀ j line b, lines[j]? = some line → P (i + j) b → P (i + j + 1) (b.step (i + j) line)) :
    P (i + lines.length) (b.scan i lines) := by
  induction lines generalizing i b with
  | nil => exact h
  | cons line lines ih =>
    have hlater := ih (b.step i line) (i + 1) (hstep 0 line b rfl h) fun j line' b' hline hb => by
      have hshift : i + 1 + j = i + (j + 1) := by omega
      rw [hshift] at hb ⊢
      exact hstep (j + 1) line' b' hline hb
    rwa [show i + 1 + lines.length = i + (line :: lines).length by simp; omega] at hlater

/-- What holds before the first line and is kept by each line holds after the last. -/
theorem scan_induction (P : Nat → Builder → Prop) (lines : List Text) (h : P 0 .empty)
    (hstep : ∀ i line b, lines[i]? = some line → P i b → P (i + 1) (b.step i line)) :
    P lines.length (Builder.empty.scan 0 lines) := by
  have hall := scan_induction_from .empty 0 h fun j line b hline hb => by
    rw [Nat.zero_add] at hb ⊢
    exact hstep j line b hline hb
  rwa [Nat.zero_add] at hall

theorem length_attachTo (h : attachTo t stack = some stack') : stack'.length = stack.length := by
  induction stack generalizing stack' with
  | nil => cases h
  | cons entry stack ih =>
    cases entry with
    | none =>
      obtain ⟨later, hlater, rfl⟩ := Option.map_eq_some_iff.1 h
      simp [ih hlater]
    | some parent =>
      rw [← Option.some_inj.1 h]
      rfl

theorem length_stack_attach (b : Builder) (t : SymbolTree) :
    (b.attach t).stack.length = b.stack.length := by
  unfold attach
  split
  · next stack h => exact length_attachTo h
  · rfl

theorem length_stack_close (b : Builder) (stop : Position) :
    (b.close stop).stack.length = b.stack.length - 1 := by
  obtain ⟨stack, finished⟩ := b
  cases stack with
  | nil => rfl
  | cons entry stack =>
    cases entry with
    | none => rfl
    | some t => exact length_stack_attach _ _

theorem stack_closeMany {n : Nat} (h : b.stack.length = n) : (closeMany stop n b).stack = [] := by
  induction n generalizing b with
  | zero => exact List.eq_nil_of_length_eq_zero h
  | succ n ih => exact ih (by rw [length_stack_close, h, Nat.add_sub_cancel])

theorem closeMany_induction {Q : Builder → Prop} (hclose : ∀ b, Q b → Q (b.close stop)) (h : Q b)
    (n : Nat) : Q (closeMany stop n b) := by
  induction n generalizing b with
  | zero => exact h
  | succ n ih => exact ih (hclose b h)

end Builder

/-- What holds after the last line and is kept by each function that ends with it holds of a builder
that has nothing open and all symbols of the outline. -/
theorem exists_builder_ofLines (Q : Builder → Prop) (lines : List Text)
    (h : Q (Builder.empty.scan 0 lines))
    (hclose : ∀ last b, lines.getLast? = some last → Q b →
      Q (b.close ⟨lines.length - 1, last.length⟩)) :
    ∃ b : Builder, Q b ∧ b.stack = [] ∧ (ofLines lines).symbols = b.finished := by
  cases hlast : lines.getLast? with
  | none =>
    obtain rfl := List.getLast?_eq_none_iff.1 hlast
    exact ⟨.empty, h, rfl, rfl⟩
  | some last =>
    refine ⟨_, Builder.closeMany_induction (fun b hb => hclose last b hlast hb) h
      (Builder.empty.scan 0 lines).stack.length, Builder.stack_closeMany rfl, ?_⟩
    unfold ofLines
    rw [hlast]

/-! ## Heads along a document -/

namespace Builder

variable {stack stack' : List (Option SymbolTree)} {t : SymbolTree}

/-- The open functions that have a name, from the outside in. -/
def openTrees (stack : List (Option SymbolTree)) : List SymbolTree := stack.reverse.filterMap id

/-- All trees under construction, in the order of their lines. -/
def trees (b : Builder) : List SymbolTree := b.finished ++ openTrees b.stack

theorem openTrees_none (stack : List (Option SymbolTree)) :
    openTrees (none :: stack) = openTrees stack := by
  simp [openTrees]

theorem openTrees_some (t : SymbolTree) (stack : List (Option SymbolTree)) :
    openTrees (some t :: stack) = openTrees stack ++ [t] := by
  simp [openTrees]

theorem openTrees_of_attachTo_eq_none (h : attachTo t stack = none) : openTrees stack = [] := by
  induction stack with
  | nil => rfl
  | cons entry stack ih =>
    cases entry with
    | none =>
      rw [openTrees_none]
      exact ih (Option.map_eq_none_iff.1 h)
    | some parent => cases h

theorem heads_attachTo (h : attachTo t stack = some stack') :
    heads (openTrees stack') = heads (openTrees stack) ++ heads [t] := by
  induction stack generalizing stack' with
  | nil => cases h
  | cons entry stack ih =>
    cases entry with
    | none =>
      obtain ⟨later, hlater, rfl⟩ := Option.map_eq_some_iff.1 h
      rw [openTrees_none, openTrees_none, ih hlater]
    | some parent =>
      obtain rfl := Option.some_inj.1 h
      rw [openTrees_some, openTrees_some, heads_append, heads_append, heads_addChild,
        List.append_assoc]

theorem heads_attach (b : Builder) (t : SymbolTree) :
    heads (b.attach t).trees = heads b.trees ++ heads [t] := by
  unfold attach
  split
  · next stack h =>
    simp only [trees, heads_append, heads_attachTo h, List.append_assoc]
  · next h =>
    simp only [trees, openTrees_of_attachTo_eq_none h, List.append_nil, heads_append]

theorem heads_close (b : Builder) (stop : Position) :
    heads (b.close stop).trees = heads b.trees := by
  obtain ⟨stack, finished⟩ := b
  cases stack with
  | nil => rfl
  | cons entry stack =>
    cases entry with
    | none => simp only [close, trees, openTrees_none]
    | some t =>
      simp only [close, heads_attach, heads_endingAt]
      simp only [trees, openTrees_some, heads_append, List.append_assoc]

theorem heads_step (b : Builder) (i : Nat) (line : Text) :
    heads (b.step i line).trees =
      heads b.trees ++ ((Symbol.ofLine? i line).map Symbol.head).toList := by
  unfold step Symbol.ofLine?
  cases Line.classify line with
  | opener k =>
    cases k with
    | function =>
      cases hs : Symbol.ofFunction? i line with
      | none => simp [trees, openTrees_none]
      | some s => simp [trees, openTrees_some, heads_node]
    | _ => simp
  | closer k =>
    cases k with
    | function => simp [heads_close]
    | _ => simp
  | declaration =>
    cases hs : Symbol.ofDeclaration? i line with
    | none => simp
    | some s => simp [heads_attach, heads_node]
  | _ => simp

end Builder

def headAt (lines : List Text) (i : Nat) : Option Symbol :=
  lines[i]?.bind fun line => (Symbol.ofLine? i line).map Symbol.head

def introduces (lines : List Text) (i : Nat) : Bool := (headAt lines i).isSome

variable {lines : List Text} {line : Text} {i : Nat} {s : Symbol}

theorem introduces_eq (h : lines[i]? = some line) :
    introduces lines i = (Symbol.ofLine? i line).isSome := by
  simp [introduces, headAt, h]

theorem exists_line_of_introduces (h : introduces lines i = true) :
    ∃ line, lines[i]? = some line := by
  obtain ⟨s, hs⟩ := Option.isSome_iff_exists.1 h
  obtain ⟨line, hline, _⟩ := Option.bind_eq_some_iff.1 hs
  exact ⟨line, hline⟩

theorem headAt_eq_some :
    headAt lines i = some s ↔
      ∃ line u, lines[i]? = some line ∧ Symbol.ofLine? i line = some u ∧ u.head = s := by
  simp [headAt, Option.bind_eq_some_iff]

theorem line_of_headAt (h : headAt lines i = some s) : s.range.start.line = i := by
  obtain ⟨line, u, _, hu, rfl⟩ := headAt_eq_some.1 h
  rw [Symbol.head, Symbol.endingAt, Symbol.range_of_ofLine? hu]
  rfl

/-- The heads of an outline are those of the lines of the document, one after the other. -/
theorem heads_ofLines (lines : List Text) :
    heads (ofLines lines).symbols = (List.range lines.length).filterMap (headAt lines) := by
  have hscan : heads (Builder.empty.scan 0 lines).trees =
      (List.range lines.length).filterMap (headAt lines) := by
    refine Builder.scan_induction
      (fun i b => heads b.trees = (List.range i).filterMap (headAt lines)) lines rfl ?_
    intro i line b hline hb
    rw [Builder.heads_step, hb, List.range_succ, List.filterMap_append]
    cases hs : Symbol.ofLine? i line <;> simp [headAt, hline, hs]
  obtain ⟨b, hb, hstack, hsymbols⟩ := exists_builder_ofLines
    (fun b => heads b.trees = (List.range lines.length).filterMap (headAt lines)) lines hscan
    fun last b _ hb => by rw [Builder.heads_close, hb]
  rw [hsymbols, ← hb, Builder.trees, hstack]
  simp [Builder.openTrees]

theorem startLines_ofLines (lines : List Text) :
    (ofLines lines).preorder.map startLine =
      (List.range lines.length).filter (introduces lines) := by
  have hstarts : (ofLines lines).preorder.map startLine =
      (heads (ofLines lines).symbols).map fun s => s.range.start.line := by
    rw [heads, List.map_map, preorder_eq_preorderAll]
    rfl
  rw [hstarts, heads_ofLines, List.map_filterMap, ← List.filterMap_eq_filter]
  congr 1
  funext i
  cases hs : headAt lines i with
  | none => simp [Option.guard, introduces, hs]
  | some s => simp [Option.guard, introduces, hs, line_of_headAt hs]

/-- The lines that introduce a symbol are those on which the symbols of the outline start. -/
theorem introduces_iff :
    introduces lines i = true ↔ ∃ t ∈ (ofLines lines).preorder, t.startLine = i := by
  rw [← List.mem_map, startLines_ofLines, List.mem_filter, List.mem_range]
  refine ⟨fun h => ⟨?_, h⟩, fun h => h.2⟩
  obtain ⟨line, hline⟩ := exists_line_of_introduces h
  exact (List.getElem?_eq_some_iff.1 hline).1

theorem pairwise_startLine (lines : List Text) :
    (ofLines lines).preorder.Pairwise fun t u => t.startLine < u.startLine := by
  rw [← List.pairwise_map, startLines_ofLines]
  exact List.pairwise_lt_range.filter _

theorem nodup_preorder (lines : List Text) : (ofLines lines).preorder.Nodup := by
  apply (pairwise_startLine lines).imp
  rintro t _ hlt rfl
  exact Nat.lt_irrefl _ hlt

/-- A symbol of the outline is the one that its line introduces, but for its end. -/
theorem exists_ofLine?_of_mem_preorder {t : SymbolTree} (h : t ∈ (ofLines lines).preorder) :
    ∃ line s, lines[t.startLine]? = some line ∧ Symbol.ofLine? t.startLine line = some s ∧
      t.symbol = s.endingAt t.symbol.range.stop := by
  rw [preorder_eq_preorderAll] at h
  have hhead : t.symbol.head ∈ heads (ofLines lines).symbols := List.mem_map.2 ⟨t, h, rfl⟩
  rw [heads_ofLines, List.mem_filterMap] at hhead
  obtain ⟨i, _, hi⟩ := hhead
  have hline : t.startLine = i := by
    rw [← line_of_headAt hi]
    rfl
  obtain ⟨line, s, hget, hs, heq⟩ := headAt_eq_some.1 hi
  rw [hline]
  refine ⟨line, s, hget, hs, ?_⟩
  have hend := congrArg (Symbol.endingAt · t.symbol.range.stop) heq
  exact hend.symm

/-- Preorder is source order: the symbols of an outline start on ever later lines, on exactly those
that introduce one, and each is the symbol that its line introduces. -/
theorem preorder_in_source_order (lines : List Text) :
    ((ofLines lines).preorder.map startLine).Pairwise (· < ·) ∧
    (∀ i, i ∈ (ofLines lines).preorder.map startLine ↔
      ∃ line, lines[i]? = some line ∧ (Symbol.ofLine? i line).isSome) ∧
    ∀ t ∈ (ofLines lines).preorder, ∃ line s,
      lines[t.startLine]? = some line ∧ Symbol.ofLine? t.startLine line = some s ∧
      t.symbol.name = s.name ∧ t.symbol.detail = s.detail ∧ t.symbol.kind = s.kind ∧
      t.symbol.selection = s.selection := by
  refine ⟨?_, fun i => ?_, fun t ht => ?_⟩
  · exact List.pairwise_map.2 (pairwise_startLine lines)
  · rw [List.mem_map, ← introduces_iff]
    constructor
    · intro hsome
      obtain ⟨line, hline⟩ := exists_line_of_introduces hsome
      exact ⟨line, hline, by rwa [introduces_eq hline] at hsome⟩
    · rintro ⟨line, hline, hsome⟩
      rwa [introduces_eq hline]
  · obtain ⟨line, s, hline, hs, heq⟩ := exists_ofLine?_of_mem_preorder ht
    refine ⟨line, s, hline, hs, ?_⟩
    rw [heq]
    exact ⟨rfl, rfl, rfl, rfl⟩

/-- A closer of nothing, then a function that is never closed, with a function and a variable that
have no names in it. -/
def strayDocument : List Text :=
  ["FinFonction.".toList, "Create a function named f that takes a, b.".toList,
    "  Crée une fonction nommée".toList, "    J'ai un nombre appelé x.".toList,
    "    J'ai un nombre.".toList, "  EndFunction.".toList, "  I have a text called y.".toList]

theorem strayDocument_in_source_order :
    (ofLines strayDocument).preorder.map startLine = [1, 3, 6] ∧
    ∃ t ∈ (ofLines strayDocument).preorder, t.startLine = 1 ∧ t.symbol.name = "f".toList ∧
      t.symbol.detail = some "a, b".toList := by
  have hstarts : (ofLines strayDocument).preorder.map startLine = [1, 3, 6] := by decide +kernel
  obtain ⟨t, ht, hline⟩ := List.mem_map.1 (hstarts ▸ List.mem_cons_self)
  obtain ⟨line, s, hget, hs, hname, hdetail, _, _⟩ :=
    (preorder_in_source_order strayDocument).2.2 t ht
  have hsymbol : (strayDocument[1]?.bind (Symbol.ofLine? 1)).map (fun s => (s.name, s.detail)) =
      some ("f".toList, some "a, b".toList) := by
    decide +kernel
  rw [hline] at hget hs
  rw [hget, Option.bind_some, hs, Option.map_some, ← hname, ← hdetail] at hsymbol
  obtain ⟨hf, hab⟩ := Prod.mk.inj (Option.some_inj.1 hsymbol)
  exact ⟨hstarts, t, ht, hline, hf, hab⟩

end Outline

end Bilingua
