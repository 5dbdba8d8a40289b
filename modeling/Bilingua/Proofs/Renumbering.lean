import Bilingua.Proofs.Findings
import Bilingua.Proofs.Relabelling

/-!
# Renumbered lines

A line's number gets into findings and symbols from where the reading of the document stands, and is
never looked at again. So lines that are read from another line on give the same findings and the
same symbols under other numbers, whatever the new numbers are otherwise: `Validation.scan_renumber`
and `Builder.scan_renumber`.
-/

namespace Bilingua

def Position.renumber (f : Nat → Nat) (p : Position) : Position := ⟨f p.line, p.column⟩

def Range.renumber (f : Nat → Nat) (r : Range) : Range := ⟨r.start.renumber f, r.stop.renumber f⟩

def Finding.renumber (f : Nat → Nat) (x : Finding) : Finding :=
  { x with range := x.range.renumber f }

def Symbol.renumber (f : Nat → Nat) (s : Symbol) : Symbol :=
  { s with range := s.range.renumber f, selection := s.selection.renumber f }

def SymbolTree.renumber (f : Nat → Nat) : SymbolTree → SymbolTree :=
  SymbolTree.mapSymbols (Symbol.renumber f)

theorem SymbolTree.renumber_renumber (f f' : Nat → Nat) (t : SymbolTree) :
    (t.renumber f').renumber f = t.renumber (f ∘ f') :=
  SymbolTree.mapSymbols_mapSymbols (Symbol.renumber f) (Symbol.renumber f') t

/-- The lines from line `i` on, `count` of them, get the numbers from `i'` on. -/
def Moves (f : Nat → Nat) (i i' count : Nat) : Prop := ∀ j < count, f (i + j) = i' + j

variable {f : Nat → Nat} {i i' count : Nat} {line : Text} {lines : List Text}

theorem Moves.head (h : Moves f i i' (count + 1)) : f i = i' := h 0 (Nat.succ_pos count)

theorem Moves.tail (h : Moves f i i' (count + 1)) : Moves f (i + 1) (i' + 1) count := by
  intro j hj
  have := h (j + 1) (by omega)
  rw [show i + 1 + j = i + (j + 1) by omega, this]
  omega

theorem moves_add (d : Nat) : Moves (· + d) i (i + d) count := by
  intro j _
  show i + j + d = i + d + j
  omega

/-! ## Findings -/

namespace Validation

variable {check : ElseCheck} {n : Nesting}

theorem renumber_lineFindings :
    (lineFindings check n i line).map (Finding.renumber f) = lineFindings check n (f i) line := by
  rw [← List.map_id (lineFindings check n (f i) line)]
  exact map_lineFindings check n rfl fun _ _ => rfl

/-- Lines that are read from line `i'` on give the findings that they give from line `i` on,
renumbered. -/
theorem scan_renumber (hf : Moves f i i' lines.length) :
    (scan check i' n lines).1 = (scan check i n lines).1.map (Finding.renumber f) := by
  induction lines generalizing i i' n with
  | nil => rfl
  | cons line lines ih =>
    rw [scan_cons, scan_cons, List.map_append, renumber_lineFindings, hf.head, ih hf.tail]

end Validation

/-! ## Symbols -/

namespace Symbol

theorem movesEnds_renumber (f : Nat → Nat) :
    MovesEnds (renumber f) (Position.renumber f) := fun _ _ => rfl

theorem renumber_ofLine? : (ofLine? i line).map (renumber f) = ofLine? (f i) line := by
  have hid : (ofLine? i line).map (renumber f) = (ofLine? (f i) line).map id :=
    map_ofLine? rfl (fun _ _ => rfl) fun _ _ _ _ _ => rfl
  rw [hid, Option.map_id_apply]

end Symbol

namespace Outline.Builder

variable {b : Builder}

def renumber (f : Nat → Nat) : Builder → Builder := mapSymbols (Symbol.renumber f)

theorem step_renumber : (b.renumber f).step (f i) line = (b.step i line).renumber f := by
  have hb : (b.renumber f).mapSymbols id = b.mapSymbols (Symbol.renumber f) :=
    mapSymbols_builder_id _
  have hid : Symbol.MovesEnds id id := fun _ _ => rfl
  have hsymbol : (Symbol.ofLine? (f i) line).map id =
      (Symbol.ofLine? i line).map (Symbol.renumber f) := by
    rw [Symbol.renumber_ofLine?, Option.map_id]
    rfl
  have hstep := mapSymbols_step hid (Symbol.movesEnds_renumber f) hb rfl hsymbol rfl
  rwa [mapSymbols_builder_id] at hstep

/-- Lines that are read from line `i'` on do to a renumbered builder what they do from line `i` on to
the builder itself. -/
theorem scan_renumber (hf : Moves f i i' lines.length) :
    (b.renumber f).scan i' lines = (b.scan i lines).renumber f := by
  induction lines generalizing i i' b with
  | nil => rfl
  | cons line lines ih =>
    rw [scan, scan, ← hf.head, step_renumber, ← ih hf.tail, hf.head]

theorem renumber_closeMany (f : Nat → Nat) (b : Builder) (stop : Position) (n : Nat) :
    (closeMany stop n b).renumber f = closeMany (stop.renumber f) n (b.renumber f) :=
  mapSymbols_closeMany (Symbol.movesEnds_renumber f) b stop n

end Outline.Builder

end Bilingua
