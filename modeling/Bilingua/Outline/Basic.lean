import Bilingua.Outline.Tree

/-!
# Outlines

The outline of a document is built along its lines. An opener of a function puts it on the stack
of open functions; a closer takes the innermost one off, gives it its end and hands it to the
function around it. A declared variable is handed on at once. A function that its opener does not
name stays on the stack as a gap, so that closers keep matching, and what is inside it goes to the
next named function outwards.

Functions that are still open after the last line end with it.
-/

namespace Bilingua

structure Outline where
  symbols : List SymbolTree

namespace Outline

structure Builder where
  /-- The open functions, innermost first, with `none` for one without a name. -/
  stack : List (Option SymbolTree)
  finished : List SymbolTree

namespace Builder

def empty : Builder := ⟨[], []⟩

/-- Hand a tree to the innermost named function, or `none` if there is none. -/
def attachTo (t : SymbolTree) : List (Option SymbolTree) → Option (List (Option SymbolTree))
  | [] => none
  | none :: stack => (attachTo t stack).map (none :: ·)
  | some parent :: stack => some (some (parent.addChild t) :: stack)

def attach (b : Builder) (t : SymbolTree) : Builder :=
  match attachTo t b.stack with
  | some stack => { b with stack }
  | none => { b with finished := b.finished ++ [t] }

def close (b : Builder) (stop : Position) : Builder :=
  match b.stack with
  | [] => b
  | none :: stack => { b with stack }
  | some t :: stack => { b with stack }.attach (t.endingAt stop)

/-- End that many open functions at the same place. -/
def closeMany (stop : Position) : Nat → Builder → Builder
  | 0, b => b
  | n + 1, b => closeMany stop n (b.close stop)

def step (b : Builder) (i : Nat) (line : Text) : Builder :=
  match Line.classify line with
  | .opener .function =>
    { b with stack := (Symbol.ofFunction? i line).map (.node · []) :: b.stack }
  | .closer .function => b.close ⟨i, line.contentSpan.2⟩
  | .declaration =>
    match Symbol.ofDeclaration? i line with
    | none => b
    | some s => b.attach (.node s [])
  | _ => b

def scan : Nat → Builder → List Text → Builder
  | _, b, [] => b
  | i, b, line :: lines => scan (i + 1) (b.step i line) lines

end Builder

/-- The outline of a document, given as its lines. -/
def ofLines (lines : List Text) : Outline :=
  let b := Builder.empty.scan 0 lines
  match lines.getLast? with
  | none => ⟨b.finished⟩
  | some last => ⟨(b.closeMany ⟨lines.length - 1, last.length⟩ b.stack.length).finished⟩

def preorder (o : Outline) : List SymbolTree := SymbolTree.preorderAllOnto o.symbols []

def named (o : Outline) (name : Text) : List SymbolTree :=
  SymbolTree.namedAllOnto name o.symbols []

end Outline

end Bilingua
