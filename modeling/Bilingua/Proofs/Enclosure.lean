import Bilingua.Proofs.OpenBlocks
import Bilingua.Proofs.SourceOrder
import Mathlib.Data.List.Forall2
import Mathlib.Data.List.Nodup

/-!
# Functions around symbols

Where a function of the outline ends, and which function a symbol belongs to, is a matter of the
kinds of the lines. A function ends with the closer that matches its opener, or with the document if
none does. A symbol belongs to the last named function before it that has not ended yet; functions
without a name match closers like any other, but hold nothing.

The stack of open functions is followed through the document (`Builder.Follows`): its entries are
the open blocks of functions, with a gap where the opener has no name.
-/

namespace Bilingua.Outline

open SymbolTree

/-- The function that line `i` opens ends at `stop`: at the end of the content of the matching
closer, or at the end of the document. -/
structure FunctionEnds (lines : List Text) (i : Nat) (stop : Position) : Prop where
  matched : ∀ j, Matches .function (Line.kinds lines) i j →
    ∃ line, lines[j]? = some line ∧ stop = ⟨j, line.contentSpan.2⟩
  unmatched : evenLines .function (Line.kinds lines) i = ∅ →
    ∃ last, lines.getLast? = some last ∧ stop = ⟨lines.length - 1, last.length⟩

/-- The tree is one of a function that starts before line `i` and does not end before line `i`: its
matching closer comes after that line, or there is none. -/
structure Encloses (lines : List Text) (p : SymbolTree) (i : Nat) : Prop where
  kind : p.symbol.kind = .function
  before : p.startLine < i
  after : ∀ j, Matches .function (Line.kinds lines) p.startLine j → i < j

/-- The line of the innermost named function that is open before line `m`. -/
def parentLine? (lines : List Text) (m : Nat) : Option Nat :=
  (openBlocks .function (Line.kinds lines) m).find? (introduces lines)

/-- The tree ends where it should, and it holds what belongs to it. -/
structure Sound (lines : List Text) (t : SymbolTree) : Prop where
  function_end : t.symbol.kind = .function → FunctionEnds lines t.startLine t.symbol.range.stop
  variable_end : t.symbol.kind = .variable → ∃ line, lines[t.startLine]? = some line ∧
    t.symbol.range.stop = ⟨t.startLine, line.contentSpan.2⟩
  holds : ∀ c ∈ t.children, parentLine? lines c.startLine = some t.startLine

def Settled (lines : List Text) (t : SymbolTree) : Prop := ∀ u ∈ t.preorder, Sound lines u

variable {lines : List Text} {line : Text} {i m : Nat} {t : SymbolTree} {stop : Position}

theorem settled_iff :
    Settled lines t ↔ Sound lines t ∧ ∀ c ∈ t.children, Settled lines c := by
  unfold Settled
  rw [preorder_eq]
  simp only [List.mem_cons, forall_eq_or_imp, mem_preorderAll]
  refine and_congr_right fun _ => ⟨fun h c hc u hu => h u ⟨c, hc, hu⟩, ?_⟩
  rintro h u ⟨c, hc, hu⟩
  exact h c hc u hu

/-! ## The stack of open functions -/

namespace Builder

/-- An entry of the stack for the block that line `i` opens. What a named function holds so far is
settled and belongs to it. -/
def Frame (lines : List Text) (i : Nat) : Option SymbolTree → Prop
  | none => introduces lines i = false
  | some t => introduces lines i = true ∧ t.startLine = i ∧ t.symbol.kind = .function ∧
    ∀ c ∈ t.children, Settled lines c ∧ parentLine? lines c.startLine = some i

/-- The builder follows the document: its stack has an entry for each of the blocks, and what is
finished is settled and belongs to no function. -/
structure Follows (lines : List Text) (blocks : List Nat) (b : Builder) : Prop where
  stack : List.Forall₂ (Frame lines) blocks b.stack
  finished : ∀ t ∈ b.finished, Settled lines t ∧ parentLine? lines t.startLine = none

variable {blocks : List Nat} {stack stack' : List (Option SymbolTree)} {b : Builder}

theorem Frame.addChild (h : Frame lines i (some t)) {c : SymbolTree} (hc : Settled lines c)
    (hparent : parentLine? lines c.startLine = some i) :
    Frame lines i (some (t.addChild c)) := by
  obtain ⟨s, cs⟩ := t
  obtain ⟨hname, hstart, hkind, hchildren⟩ := h
  refine ⟨hname, hstart, hkind, fun u hu => ?_⟩
  rcases List.mem_append.1 hu with hu | hu
  · exact hchildren u hu
  · rw [List.mem_singleton.1 hu]
    exact ⟨hc, hparent⟩

theorem find?_of_attachTo_eq_none (h : List.Forall₂ (Frame lines) blocks stack)
    (hnone : attachTo t stack = none) : blocks.find? (introduces lines) = none := by
  induction h with
  | nil => rfl
  | @cons i entry blocks stack hframe _ ih =>
    cases entry with
    | none =>
      rw [List.find?_cons_of_neg (by simp [show introduces lines i = false from hframe])]
      exact ih (Option.map_eq_none_iff.1 hnone)
    | some parent => cases hnone

theorem frames_attachTo (h : List.Forall₂ (Frame lines) blocks stack) (ht : Settled lines t)
    (hparent : parentLine? lines t.startLine = blocks.find? (introduces lines))
    (hsome : attachTo t stack = some stack') : List.Forall₂ (Frame lines) blocks stack' := by
  induction h generalizing stack' with
  | nil => cases hsome
  | @cons i entry blocks stack hframe hrest ih =>
    cases entry with
    | none =>
      obtain ⟨later, hlater, rfl⟩ := Option.map_eq_some_iff.1 hsome
      rw [List.find?_cons_of_neg (by simp [show introduces lines i = false from hframe])] at hparent
      exact .cons hframe (ih hparent hlater)
    | some parent =>
      obtain rfl := Option.some_inj.1 hsome
      rw [List.find?_cons_of_pos hframe.1] at hparent
      exact .cons (hframe.addChild ht hparent) hrest

theorem Follows.attach (h : Follows lines blocks b) (ht : Settled lines t)
    (hparent : parentLine? lines t.startLine = blocks.find? (introduces lines)) :
    Follows lines blocks (b.attach t) := by
  unfold Builder.attach
  split
  · next stack hsome => exact ⟨frames_attachTo h.stack ht hparent hsome, h.finished⟩
  · next hnone =>
    refine ⟨h.stack, fun u hu => ?_⟩
    rcases List.mem_append.1 hu with hu | hu
    · exact h.finished u hu
    · rw [List.mem_singleton.1 hu]
      exact ⟨ht, hparent.trans (find?_of_attachTo_eq_none h.stack hnone)⟩

theorem Frame.settled_endingAt (h : Frame lines i (some t)) (hend : FunctionEnds lines i stop) :
    Settled lines (t.endingAt stop) := by
  obtain ⟨s, cs⟩ := t
  obtain ⟨_, rfl, hkind, hchildren⟩ := h
  refine settled_iff.2 ⟨⟨fun _ => hend, fun hvariable => ?_, fun c hc => (hchildren c hc).2⟩,
    fun c hc => (hchildren c hc).1⟩
  cases hkind.symm.trans hvariable

theorem Follows.close {rest : List Nat} (h : Follows lines (i :: rest) b)
    (hrest : rest = openBlocks .function (Line.kinds lines) i) (hend : FunctionEnds lines i stop) :
    Follows lines rest (b.close stop) := by
  obtain ⟨stack, finished⟩ := b
  obtain ⟨hframes, hfinished⟩ := h
  cases hframes with
  | @cons _ entry _ stack hframe hframes =>
    have hbelow : Follows lines rest ⟨stack, finished⟩ := ⟨hframes, hfinished⟩
    cases entry with
    | none => exact hbelow
    | some t =>
      have hstart : (t.endingAt stop).startLine = i := by
        obtain ⟨s, cs⟩ := t
        exact hframe.2.1
      -- The blocks below it are still those that were open when it was opened.
      refine hbelow.attach (hframe.settled_endingAt hend) ?_
      rw [hstart, hrest]
      rfl

theorem Follows.close_nil (h : Follows lines [] b) : Follows lines [] (b.close stop) := by
  obtain ⟨stack, finished⟩ := b
  cases List.forall₂_nil_left_iff.1 h.stack
  exact h

end Builder

/-! ## Along a document -/

theorem functionEnds_of_closer {rest : List Nat} (hline : lines[m]? = some line)
    (hkind : Line.classify line = .closer .function)
    (h : openBlocks .function (Line.kinds lines) m = i :: rest) :
    FunctionEnds lines i ⟨m, line.contentSpan.2⟩ := by
  have hmatch := matches_of_closer (hkind ▸ Line.kinds_of_getElem? hline) h
  constructor
  · intro j hj
    obtain rfl := hmatch.unique hj
    exact ⟨line, hline, rfl⟩
  · intro hempty
    exact absurd hmatch.1 (hempty ▸ Set.notMem_empty m)

theorem functionEnds_of_open {last : Text} (hlast : lines.getLast? = some last)
    (h : i ∈ openBlocks .function (Line.kinds lines) lines.length) :
    FunctionEnds lines i ⟨lines.length - 1, last.length⟩ := by
  refine ⟨fun j hj => ?_, fun _ => ⟨last, hlast, rfl⟩⟩
  have hafter := (mem_openBlocks_iff.1 h).2.2 j hj
  have hbefore : j < lines.length := by
    have := hj.1.2.1
    rwa [Line.kinds, List.length_map] at this
  omega

theorem frame_function (hline : lines[i]? = some line)
    (hkind : Line.classify line = .opener .function) :
    Builder.Frame lines i ((Symbol.ofFunction? i line).map (.node · [])) := by
  have hname := introduces_eq hline
  rw [Symbol.ofLine?_function hkind] at hname
  cases hs : Symbol.ofFunction? i line with
  | none =>
    rw [hs] at hname
    exact hname
  | some s =>
    rw [hs] at hname
    obtain ⟨offset, name, detail, _, rfl⟩ := Symbol.ofFunction?_eq_some hs
    exact ⟨hname, rfl, rfl, fun c hc => by cases hc⟩

theorem settled_declaration {s : Symbol} (hline : lines[i]? = some line)
    (hs : Symbol.ofDeclaration? i line = some s) :
    Settled lines (.node s []) ∧ (SymbolTree.node s []).startLine = i := by
  obtain ⟨offset, name, detail, _, rfl⟩ := Symbol.ofDeclaration?_eq_some hs
  refine ⟨settled_iff.2 ⟨⟨fun hkind => ?_, fun _ => ⟨line, hline, rfl⟩, fun c hc => ?_⟩,
    fun c hc => ?_⟩, rfl⟩
  · cases hkind
  · cases hc
  · cases hc

theorem openBlocks_of_classify (hline : lines[m]? = some line)
    (ho : Line.classify line ≠ .opener .function) (hc : Line.classify line ≠ .closer .function) :
    openBlocks .function (Line.kinds lines) (m + 1) = openBlocks .function (Line.kinds lines) m := by
  refine openBlocks_other ?_ ?_ <;> rw [Line.kinds_of_getElem? hline] <;> simpa

/-- From one line to the next, the builder follows the document. -/
theorem follows_step {b : Builder} (hline : lines[m]? = some line)
    (h : b.Follows lines (openBlocks .function (Line.kinds lines) m)) :
    (b.step m line).Follows lines (openBlocks .function (Line.kinds lines) (m + 1)) := by
  unfold Builder.step
  split
  · next hkind =>
    rw [openBlocks_opener (hkind ▸ Line.kinds_of_getElem? hline)]
    exact ⟨.cons (frame_function hline hkind) h.stack, h.finished⟩
  · next hkind =>
    rw [openBlocks_closer (hkind ▸ Line.kinds_of_getElem? hline)]
    cases hblocks : openBlocks .function (Line.kinds lines) m with
    | nil =>
      rw [hblocks] at h
      exact h.close_nil
    | cons i rest =>
      have hend := functionEnds_of_closer hline hkind hblocks
      rw [hblocks] at h
      exact h.close (openBlocks_of_suffix ⟨[], hblocks.symm⟩) hend
  · next hkind =>
    rw [openBlocks_of_classify hline (by simp [hkind]) (by simp [hkind])]
    split
    · exact h
    · next s hs =>
      obtain ⟨hsettled, hstart⟩ := settled_declaration hline hs
      exact h.attach hsettled (by rw [hstart]; rfl)
  · next ho hc _ =>
    rw [openBlocks_of_classify hline ho hc]
    exact h

theorem settled_ofLines (lines : List Text) :
    ∀ t ∈ (ofLines lines).symbols, Settled lines t ∧ parentLine? lines t.startLine = none := by
  have hscan := Builder.scan_induction
    (fun m b => b.Follows lines (openBlocks .function (Line.kinds lines) m)) lines
    ⟨.nil, fun t ht => by cases ht⟩ fun i line b hline hb => follows_step hline hb
  -- What is open at the end is a part of the stack after the last line.
  obtain ⟨b, ⟨blocks, _, hb⟩, _, hsymbols⟩ := exists_builder_ofLines
    (fun b => ∃ blocks, blocks <:+ openBlocks .function (Line.kinds lines) lines.length ∧
      b.Follows lines blocks) lines ⟨_, List.suffix_rfl, hscan⟩
    fun last b hlast ⟨blocks, hblocks, hb⟩ => by
      cases blocks with
      | nil => exact ⟨[], hblocks, hb.close_nil⟩
      | cons i rest =>
        have hopen := functionEnds_of_open hlast (hblocks.subset List.mem_cons_self)
        exact ⟨rest, (List.suffix_cons i rest).trans hblocks,
          hb.close (openBlocks_of_suffix hblocks) hopen⟩
  rw [hsymbols]
  exact hb.finished

theorem sound_of_mem_preorder (h : t ∈ (ofLines lines).preorder) : Sound lines t := by
  obtain ⟨root, hroot, ht⟩ := mem_preorderAll.1 (mem_preorder.1 h)
  exact (settled_ofLines lines root hroot).1 t ht

/-! ## Parents -/

theorem mem_of_parentLine? (h : parentLine? lines m = some i) :
    i ∈ openBlocks .function (Line.kinds lines) m ∧ introduces lines i = true :=
  ⟨List.mem_of_find?_eq_some h, List.find?_some h⟩

theorem le_of_parentLine? {i' : Nat} (h : parentLine? lines m = some i)
    (hopen : i' ∈ openBlocks .function (Line.kinds lines) m) (hname : introduces lines i' = true) :
    i' ≤ i := by
  obtain ⟨_, inner, outer, hsplit, hinner⟩ := List.find?_eq_some_iff_append.1 h
  have hsorted := pairwise_openBlocks .function (Line.kinds lines) m
  rw [hsplit] at hsorted hopen
  rcases List.mem_append.1 hopen with hi' | hi'
  · have := hinner i' hi'
    simp [hname] at this
  · rcases List.mem_cons.1 hi' with rfl | hi'
    · exact Nat.le_refl _
    · exact Nat.le_of_lt ((List.pairwise_cons.1 (List.pairwise_append.1 hsorted).2.1).1 i' hi')

theorem parentLine?_eq_some :
    parentLine? lines m = some i ↔
      (i ∈ openBlocks .function (Line.kinds lines) m ∧ introduces lines i = true) ∧
        ∀ i' ∈ openBlocks .function (Line.kinds lines) m, introduces lines i' = true → i' ≤ i := by
  refine ⟨fun h => ⟨mem_of_parentLine? h, fun i' => le_of_parentLine? h⟩, ?_⟩
  rintro ⟨⟨hopen, hname⟩, hlast⟩
  cases hfind : parentLine? lines m with
  | none => exact absurd hname (List.find?_eq_none.1 hfind i hopen)
  | some i' =>
    obtain ⟨hopen', hname'⟩ := mem_of_parentLine? hfind
    have := hlast i' hopen' hname'
    have := le_of_parentLine? hfind hopen hname
    congr 1
    omega

variable {p : SymbolTree}

/-- The symbols of an outline are functions on openers and variables on declarations. -/
theorem kind_cases (h : t ∈ (ofLines lines).preorder) :
    t.symbol.kind = .function ∧ (Line.kinds lines)[t.startLine]? = some (.opener .function) ∨
      t.symbol.kind = .variable ∧ (Line.kinds lines)[t.startLine]? = some .declaration := by
  obtain ⟨line, s, hline, hs, hsymbol⟩ := exists_ofLine?_of_mem_preorder h
  rw [Line.kinds_of_getElem? hline, hsymbol]
  obtain ⟨_, _, _, _, ⟨hkind, rfl⟩ | ⟨hkind, rfl⟩⟩ := Symbol.ofLine?_cases hs
  · exact .inl ⟨rfl, congrArg some hkind⟩
  · exact .inr ⟨rfl, congrArg some hkind⟩

theorem opener_of_kind (h : t ∈ (ofLines lines).preorder) (hkind : t.symbol.kind = .function) :
    (Line.kinds lines)[t.startLine]? = some (.opener .function) := by
  rcases kind_cases h with ⟨_, ho⟩ | ⟨hvariable, _⟩
  · exact ho
  · cases hkind.symm.trans hvariable

theorem ne_of_matches (ht : t ∈ (ofLines lines).preorder) {j : Nat}
    (h : Matches .function (Line.kinds lines) i j)
    (ho : (Line.kinds lines)[i]? = some (.opener .function)) : t.startLine ≠ j := by
  rintro rfl
  have hcloser := (h.closer ho).1
  rcases kind_cases ht with ⟨_, hkind⟩ | ⟨_, hkind⟩ <;> rw [hkind] at hcloser <;> cases hcloser

theorem encloses_iff (hp : p ∈ (ofLines lines).preorder) (ht : t ∈ (ofLines lines).preorder) :
    Encloses lines p t.startLine ↔
      p.startLine ∈ openBlocks .function (Line.kinds lines) t.startLine := by
  rw [mem_openBlocks_iff]
  constructor
  · intro h
    exact ⟨h.before, opener_of_kind hp h.kind, fun j hj => Nat.le_of_lt (h.after j hj)⟩
  · rintro ⟨hbefore, ho, hafter⟩
    refine ⟨?_, hbefore, fun j hj => Nat.lt_of_le_of_ne (hafter j hj) (ne_of_matches ht hj ho)⟩
    rcases kind_cases hp with ⟨hkind, _⟩ | ⟨_, hdeclaration⟩
    · exact hkind
    · cases ho.symm.trans hdeclaration

theorem forall_open_iff (ht : t ∈ (ofLines lines).preorder) {Q : Nat → Prop} :
    (∀ i ∈ openBlocks .function (Line.kinds lines) t.startLine, introduces lines i = true → Q i) ↔
      ∀ q ∈ (ofLines lines).preorder, Encloses lines q t.startLine → Q q.startLine := by
  refine ⟨fun h q hq hencloses => ?_, fun h i hopen hname => ?_⟩
  · exact h _ ((encloses_iff hq ht).1 hencloses) (introduces_iff.2 ⟨q, hq, rfl⟩)
  · obtain ⟨q, hq, rfl⟩ := introduces_iff.1 hname
    exact h q hq ((encloses_iff hq ht).2 hopen)

theorem parentLine?_eq_some_startLine (hp : p ∈ (ofLines lines).preorder)
    (ht : t ∈ (ofLines lines).preorder) :
    parentLine? lines t.startLine = some p.startLine ↔
      Encloses lines p t.startLine ∧
        ∀ q ∈ (ofLines lines).preorder, Encloses lines q t.startLine → q.startLine ≤ p.startLine := by
  rw [parentLine?_eq_some, encloses_iff hp ht, and_iff_left (introduces_iff.2 ⟨p, hp, rfl⟩),
    forall_open_iff ht]

theorem parentLine?_eq_none (ht : t ∈ (ofLines lines).preorder) :
    parentLine? lines t.startLine = none ↔
      ∀ q ∈ (ofLines lines).preorder, ¬ Encloses lines q t.startLine := by
  rw [parentLine?, List.find?_eq_none]
  exact forall_open_iff ht

theorem eq_of_startLine_eq (ht : t ∈ (ofLines lines).preorder) (hp : p ∈ (ofLines lines).preorder)
    (h : t.startLine = p.startLine) : t = p :=
  List.inj_on_of_nodup_map
    (List.pairwise_map.2 ((pairwise_startLine lines).imp Nat.ne_of_lt)) ht hp h

theorem mem_children_iff (hp : p ∈ (ofLines lines).preorder) (ht : t ∈ (ofLines lines).preorder) :
    t ∈ p.children ↔ parentLine? lines t.startLine = some p.startLine := by
  refine ⟨(sound_of_mem_preorder hp).holds t, fun h => ?_⟩
  rcases mem_or_child_of_mem_preorder ht with hroot | ⟨q, hq, htq⟩
  · cases (settled_ofLines lines t hroot).2.symm.trans h
  · have hline := ((sound_of_mem_preorder hq).holds t htq).symm.trans h
    rwa [← eq_of_startLine_eq hq hp (Option.some_inj.1 hline)]

theorem mem_symbols_iff (ht : t ∈ (ofLines lines).preorder) :
    t ∈ (ofLines lines).symbols ↔ parentLine? lines t.startLine = none := by
  refine ⟨fun h => (settled_ofLines lines t h).2, fun h => ?_⟩
  rcases mem_or_child_of_mem_preorder ht with hroot | ⟨q, hq, htq⟩
  · exact hroot
  · cases h.symm.trans ((sound_of_mem_preorder hq).holds t htq)

/-- The place of a symbol in the outline. A function ends with its matching closer, or with the
document. Any symbol is a child of the last function that encloses it, and it stands at top level if
there is none. -/
theorem place_in_outline (lines : List Text) (t : SymbolTree) (ht : t ∈ (ofLines lines).preorder) :
    (t.symbol.kind = .function → FunctionEnds lines t.startLine t.symbol.range.stop) ∧
    (∀ p ∈ (ofLines lines).preorder, t ∈ p.children ↔
      Encloses lines p t.startLine ∧
        ∀ q ∈ (ofLines lines).preorder, Encloses lines q t.startLine →
          q.startLine ≤ p.startLine) ∧
    (t ∈ (ofLines lines).symbols ↔
      ∀ q ∈ (ofLines lines).preorder, ¬ Encloses lines q t.startLine) := by
  refine ⟨(sound_of_mem_preorder ht).function_end, fun p hp => ?_, ?_⟩
  · rw [mem_children_iff hp ht, parentLine?_eq_some_startLine hp ht]
  · rw [mem_symbols_iff ht, parentLine?_eq_none ht]

/-- A function that is never closed, and in it a variable within a function without a name. -/
def gapDocument : List Text :=
  ["Create a function named outer.".toList, "  Create a function named".toList,
    "    J'ai un nombre appelé x.".toList, "  EndFunction.".toList,
    "  Crée une fonction nommée inner.".toList, "  FinFonction.".toList, "  // end ".toList]

theorem gapDocument_place :
    ∃ p t, p ∈ (ofLines gapDocument).preorder ∧ t ∈ (ofLines gapDocument).preorder ∧
      p.startLine = 0 ∧ t.startLine = 2 ∧ t ∈ p.children ∧
      FunctionEnds gapDocument 0 p.symbol.range.stop ∧ Encloses gapDocument p 2 := by
  have hshape : (ofLines gapDocument).symbols.map
      (fun p => (p.startLine, p.symbol.kind, p.children.map startLine)) =
        [(0, .function, [2, 4])] := by
    decide +kernel
  obtain ⟨p, hroot, hp⟩ := List.mem_map.1 (hshape ▸ List.mem_singleton_self _)
  obtain ⟨hstart, hkind, hchildren⟩ : p.startLine = 0 ∧ p.symbol.kind = .function ∧
      p.children.map startLine = [2, 4] := by simpa using hp
  obtain ⟨t, htp, ht⟩ := List.mem_map.1 (hchildren ▸ List.mem_cons_self)
  have hpmem := (symbols_sublist_preorder _).subset hroot
  have htmem := (children_sublist_preorder hpmem).subset htp
  have hend := (place_in_outline gapDocument p hpmem).1 hkind
  have hencloses := ((place_in_outline gapDocument t htmem).2.1 p hpmem).1 htp
  rw [hstart] at hend
  rw [ht] at hencloses
  exact ⟨p, t, hpmem, htmem, hstart, ht, htp, hend, hencloses.1⟩

end Bilingua.Outline
