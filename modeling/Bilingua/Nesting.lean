import Bilingua.Line.Kind

/-!
# Nesting

Blocks of one construct are counted apart from those of the others: a nesting holds the number of
open blocks of each. A closer where none of its construct is open leaves the count at zero.

`depth` is the view of a nesting; `depth_opening`, `depth_closing` and `ext` say all about the
operations that later proofs use.
-/

namespace Bilingua

/-- How many blocks of each construct are open. -/
structure Nesting where
  functions : Nat
  conditionals : Nat
  whileLoops : Nat
  forLoops : Nat
deriving DecidableEq, Repr

namespace Nesting

def none : Nesting := ⟨0, 0, 0, 0⟩

def depth (n : Nesting) : Construct → Nat
  | .function => n.functions
  | .conditional => n.conditionals
  | .whileLoop => n.whileLoops
  | .forLoop => n.forLoops

def isOpen (n : Nesting) (k : Construct) : Bool := n.depth k != 0

def opening (n : Nesting) : Construct → Nesting
  | .function => { n with functions := n.functions + 1 }
  | .conditional => { n with conditionals := n.conditionals + 1 }
  | .whileLoop => { n with whileLoops := n.whileLoops + 1 }
  | .forLoop => { n with forLoops := n.forLoops + 1 }

/-- One block of a construct less, if one is open. -/
def closing (n : Nesting) : Construct → Nesting
  | .function => { n with functions := n.functions - 1 }
  | .conditional => { n with conditionals := n.conditionals - 1 }
  | .whileLoop => { n with whileLoops := n.whileLoops - 1 }
  | .forLoop => { n with forLoops := n.forLoops - 1 }

def after (n : Nesting) : LineKind → Nesting
  | .opener k => n.opening k
  | .closer k => n.closing k
  | _ => n

def depths (n : Nesting) : List Nat := Construct.all.map n.depth

/-- The constructs with open blocks, each with their number. -/
def residue (n : Nesting) : List (Construct × Nat) :=
  (Construct.all.filter n.isOpen).map fun k => (k, n.depth k)

def isBalanced (n : Nesting) : Bool := Construct.all.all fun k => !n.isOpen k

@[ext]
theorem ext {n m : Nesting} (h : ∀ k, n.depth k = m.depth k) : n = m := by
  have hf : n.functions = m.functions := h .function
  have hc : n.conditionals = m.conditionals := h .conditional
  have hw : n.whileLoops = m.whileLoops := h .whileLoop
  have hl : n.forLoops = m.forLoops := h .forLoop
  cases n; cases m; simp_all

@[simp]
theorem depth_none (k : Construct) : none.depth k = 0 := by cases k <;> rfl

theorem depth_opening (n : Nesting) (k c : Construct) :
    (n.opening k).depth c = if c = k then n.depth c + 1 else n.depth c := by
  cases k <;> cases c <;> rfl

theorem depth_closing (n : Nesting) (k c : Construct) :
    (n.closing k).depth c = if c = k then n.depth c - 1 else n.depth c := by
  cases k <;> cases c <;> rfl

end Nesting

end Bilingua
