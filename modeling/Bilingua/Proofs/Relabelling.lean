import Bilingua.Outline.Basic
import Bilingua.Proofs.Introductions

/-!
# Relabelled outlines

Nothing in the building of an outline depends on what the symbols say: they are put on the stack,
given an end and handed on. So a change of all symbols can be made before a step or after it, as long
as it goes along with giving them an end (`Symbol.MovesEnds`).

A line opens a function (`Builder.step_opener`), closes one (`Builder.step_closer`), or declares what
it introduces, if anything (`Builder.step_other`). What a change of symbols does to each of the three
gives `Builder.mapSymbols_step`.
-/

namespace Bilingua

/-- To end a symbol at a place and then change it is to change it and then end it at what `place`
makes of that place. -/
def Symbol.MovesEnds (g : Symbol → Symbol) (place : Position → Position) : Prop :=
  ∀ s stop, g (s.endingAt stop) = (g s).endingAt (place stop)

namespace SymbolTree

mutual

def mapSymbols (g : Symbol → Symbol) : SymbolTree → SymbolTree
  | .node s cs => .node (g s) (mapSymbolsAll g cs)

def mapSymbolsAll (g : Symbol → Symbol) : List SymbolTree → List SymbolTree
  | [] => []
  | t :: ts => t.mapSymbols g :: mapSymbolsAll g ts

end

variable {g : Symbol → Symbol} {place : Position → Position}

theorem mapSymbolsAll_eq (ts : List SymbolTree) : mapSymbolsAll g ts = ts.map (mapSymbols g) := by
  induction ts with
  | nil => rfl
  | cons t ts ih => rw [mapSymbolsAll, ih, List.map_cons]

mutual

theorem mapSymbols_id (t : SymbolTree) : t.mapSymbols id = t := by
  match t with
  | .node s cs => rw [mapSymbols, mapSymbolsAll_id cs, id]

theorem mapSymbolsAll_id (ts : List SymbolTree) : mapSymbolsAll id ts = ts := by
  match ts with
  | [] => rfl
  | t :: ts => rw [mapSymbolsAll, mapSymbols_id t, mapSymbolsAll_id ts]

end

mutual

theorem mapSymbols_mapSymbols (g g' : Symbol → Symbol) (t : SymbolTree) :
    (t.mapSymbols g').mapSymbols g = t.mapSymbols (g ∘ g') := by
  match t with
  | .node s cs => rw [mapSymbols, mapSymbols, mapSymbols, mapSymbolsAll_mapSymbolsAll g g' cs,
      Function.comp]

theorem mapSymbolsAll_mapSymbolsAll (g g' : Symbol → Symbol) (ts : List SymbolTree) :
    mapSymbolsAll g (mapSymbolsAll g' ts) = mapSymbolsAll (g ∘ g') ts := by
  match ts with
  | [] => rfl
  | t :: ts => rw [mapSymbolsAll, mapSymbolsAll, mapSymbolsAll, mapSymbols_mapSymbols g g' t,
      mapSymbolsAll_mapSymbolsAll g g' ts]

end

theorem mapSymbols_addChild (t u : SymbolTree) :
    (t.addChild u).mapSymbols g = (t.mapSymbols g).addChild (u.mapSymbols g) := by
  cases t with
  | node s cs => simp only [addChild, mapSymbols, mapSymbolsAll_eq, List.map_append, List.map_cons,
      List.map_nil]

theorem mapSymbols_endingAt (hg : Symbol.MovesEnds g place) (t : SymbolTree) (stop : Position) :
    (t.endingAt stop).mapSymbols g = (t.mapSymbols g).endingAt (place stop) := by
  cases t with
  | node s cs => simp only [endingAt, mapSymbols, hg s stop]

end SymbolTree

namespace Outline.Builder

/-! ## What a line does -/

def push (b : Builder) (symbol : Option Symbol) : Builder :=
  { b with stack := symbol.map (.node · []) :: b.stack }

/-- Hand on a symbol that holds nothing, if there is one. -/
def declare (b : Builder) (symbol : Option Symbol) : Builder :=
  symbol.elim b fun s => b.attach (.node s [])

variable {g g' : Symbol → Symbol} {place place' : Position → Position} {b b' : Builder}
  {i i' : Nat} {line line' : Text}

theorem step_opener (h : Line.classify line = .opener .function) (b : Builder) :
    b.step i line = b.push (Symbol.ofLine? i line) := by
  unfold step Symbol.ofLine?
  rw [h]
  rfl

theorem step_closer (h : Line.classify line = .closer .function) (b : Builder) :
    b.step i line = b.close ⟨i, line.contentSpan.2⟩ := by
  unfold step
  rw [h]

theorem step_other (ho : Line.classify line ≠ .opener .function)
    (hc : Line.classify line ≠ .closer .function) (b : Builder) :
    b.step i line = b.declare (Symbol.ofLine? i line) := by
  unfold step Symbol.ofLine?
  split
  · next h => exact absurd h ho
  · next h => exact absurd h hc
  · next h =>
    rw [h]
    cases hs : Symbol.ofDeclaration? i line <;> rfl
  · next hd =>
    split
    · next h => exact absurd h ho
    · next h => exact absurd h hd
    · rfl

/-! ## Changing symbols -/

def mapSymbols (g : Symbol → Symbol) (b : Builder) : Builder :=
  ⟨b.stack.map (Option.map (SymbolTree.mapSymbols g)), b.finished.map (SymbolTree.mapSymbols g)⟩

theorem mapSymbols_builder_id (b : Builder) : b.mapSymbols id = b := by
  have htrees : SymbolTree.mapSymbols id = id := funext SymbolTree.mapSymbols_id
  simp [mapSymbols, htrees]

theorem length_stack_mapSymbols (g : Symbol → Symbol) (b : Builder) :
    (b.mapSymbols g).stack.length = b.stack.length := List.length_map _

theorem mapSymbols_attachTo (g : Symbol → Symbol) (t : SymbolTree)
    (stack : List (Option SymbolTree)) :
    attachTo (t.mapSymbols g) (stack.map (Option.map (SymbolTree.mapSymbols g))) =
      (attachTo t stack).map (List.map (Option.map (SymbolTree.mapSymbols g))) := by
  induction stack with
  | nil => rfl
  | cons entry stack ih =>
    cases entry with
    | none =>
      simp only [attachTo, List.map_cons, Option.map_none, ih, Option.map_map]
      rfl
    | some parent =>
      simp only [attachTo, List.map_cons, Option.map_some, SymbolTree.mapSymbols_addChild]

theorem mapSymbols_attach (b : Builder) (t : SymbolTree) :
    (b.attach t).mapSymbols g = (b.mapSymbols g).attach (t.mapSymbols g) := by
  have hattach := mapSymbols_attachTo g t b.stack
  unfold attach
  rw [show (b.mapSymbols g).stack = b.stack.map (Option.map (SymbolTree.mapSymbols g)) from rfl,
    hattach]
  cases attachTo t b.stack <;> simp [mapSymbols]

theorem mapSymbols_close (hg : Symbol.MovesEnds g place) (b : Builder) (stop : Position) :
    (b.close stop).mapSymbols g = (b.mapSymbols g).close (place stop) := by
  obtain ⟨stack, finished⟩ := b
  cases stack with
  | nil => rfl
  | cons entry stack =>
    cases entry with
    | none => rfl
    | some t =>
      simp only [close, mapSymbols_attach, SymbolTree.mapSymbols_endingAt hg]
      rfl

theorem mapSymbols_closeMany (hg : Symbol.MovesEnds g place) (b : Builder) (stop : Position)
    (n : Nat) : (closeMany stop n b).mapSymbols g = closeMany (place stop) n (b.mapSymbols g) := by
  induction n generalizing b with
  | zero => rfl
  | succ n ih => rw [closeMany, ih, mapSymbols_close hg, closeMany]

theorem mapSymbols_push (b : Builder) (symbol : Option Symbol) :
    (b.push symbol).mapSymbols g = (b.mapSymbols g).push (symbol.map g) := by
  cases symbol <;> rfl

theorem mapSymbols_declare (b : Builder) (symbol : Option Symbol) :
    (b.declare symbol).mapSymbols g = (b.mapSymbols g).declare (symbol.map g) := by
  cases symbol with
  | none => rfl
  | some s => exact mapSymbols_attach b (.node s [])

/-- Two builders that are alike after a change of their symbols stay alike over lines that are of one
kind, introduce symbols that are alike, and end at places that are alike. -/
theorem mapSymbols_step (hg : Symbol.MovesEnds g place) (hg' : Symbol.MovesEnds g' place')
    (hb : b.mapSymbols g = b'.mapSymbols g') (hkind : Line.classify line = Line.classify line')
    (hsymbol : (Symbol.ofLine? i line).map g = (Symbol.ofLine? i' line').map g')
    (hstop : place ⟨i, line.contentSpan.2⟩ = place' ⟨i', line'.contentSpan.2⟩) :
    (b.step i line).mapSymbols g = (b'.step i' line').mapSymbols g' := by
  by_cases ho : Line.classify line = .opener .function
  · rw [step_opener ho, step_opener (hkind ▸ ho), mapSymbols_push, mapSymbols_push, hb, hsymbol]
  · by_cases hc : Line.classify line = .closer .function
    · rw [step_closer hc, step_closer (hkind ▸ hc), mapSymbols_close hg, mapSymbols_close hg', hb,
        hstop]
    · rw [step_other ho hc, step_other (hkind ▸ ho) (hkind ▸ hc), mapSymbols_declare,
        mapSymbols_declare, hb, hsymbol]

end Outline.Builder

end Bilingua
