import Bilingua.Outline.Symbol

/-!
# Symbol trees

An outline is a forest of symbols. `preorderAllOnto` walks along a forest and appends every tree to
what it has found so far, each before its children; `namedAllOnto` appends those with a given name.
-/

namespace Bilingua

inductive SymbolTree where
  | node (symbol : Symbol) (children : List SymbolTree)
deriving Repr

namespace SymbolTree

def symbol : SymbolTree → Symbol
  | .node s _ => s

def children : SymbolTree → List SymbolTree
  | .node _ cs => cs

def addChild : SymbolTree → SymbolTree → SymbolTree
  | .node s cs, t => .node s (cs ++ [t])

def endingAt : SymbolTree → Position → SymbolTree
  | .node s cs, stop => .node (s.endingAt stop) cs

mutual

/-- Append the tree and all trees below it, each before its children. -/
def preorderOnto : SymbolTree → List SymbolTree → List SymbolTree
  | .node s cs, out => preorderAllOnto cs (out ++ [.node s cs])

def preorderAllOnto : List SymbolTree → List SymbolTree → List SymbolTree
  | [], out => out
  | t :: ts, out => preorderAllOnto ts (t.preorderOnto out)

end

mutual

def namedOnto (name : Text) : SymbolTree → List SymbolTree → List SymbolTree
  | .node s cs, out => namedAllOnto name cs (if s.name = name then out ++ [.node s cs] else out)

def namedAllOnto (name : Text) : List SymbolTree → List SymbolTree → List SymbolTree
  | [], out => out
  | t :: ts, out => namedAllOnto name ts (t.namedOnto name out)

end

end SymbolTree

end Bilingua
