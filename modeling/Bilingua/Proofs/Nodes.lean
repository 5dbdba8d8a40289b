import Bilingua.Outline.Basic
import Bilingua.Proofs.Forests
import Mathlib.Data.Set.Card
import Mathlib.Order.CompletePartialOrder

/-!
# Nodes of a forest

A node of a forest is found by its address: first the place of a tree in the forest, then, at each
level below, the place of a child. Equal trees at different addresses are different nodes.

Preorder passes each node once, so it is as long as there are nodes (`SymbolTree.encard_nodes`), and
looking for a name along the nodes is looking for it in preorder (`SymbolTree.namedAllOnto_eq`).
-/

namespace Bilingua

namespace SymbolTree

/-- The tree at an address below a tree, whose own address is empty. -/
def below? (t : SymbolTree) : List Nat → Option SymbolTree
  | [] => some t
  | i :: address => t.children[i]?.bind (below? · address)

def at? (ts : List SymbolTree) : List Nat → Option SymbolTree
  | [] => none
  | i :: address => ts[i]?.bind (below? · address)

def nodesBelow (t : SymbolTree) : Set (List Nat) := {a | (t.below? a).isSome = true}

def nodes (ts : List SymbolTree) : Set (List Nat) := {a | (at? ts a).isSome = true}

/-! ## Counting nodes -/

theorem nil_notMem_nodes (ts : List SymbolTree) : [] ∉ nodes ts := Bool.false_ne_true

theorem nodes_nil : nodes [] = ∅ := by
  ext a
  cases a <;> simp [nodes, at?]

theorem nodesBelow_node (s : Symbol) (cs : List SymbolTree) :
    nodesBelow (.node s cs) = insert [] (nodes cs) := by
  ext a
  cases a with
  | nil => simp [nodesBelow, below?]
  | cons i a => simp [nodesBelow, nodes, below?, at?, children]

/-- The nodes of a forest are those of its first tree and, one place further on, those of the
others. -/
theorem nodes_cons (t : SymbolTree) (ts : List SymbolTree) :
    nodes (t :: ts) = (0 :: ·) '' t.nodesBelow ∪ List.modifyHead (· + 1) '' nodes ts := by
  ext a
  constructor
  · intro h
    rcases a with _ | ⟨_ | i, a⟩
    · exact absurd h (nil_notMem_nodes _)
    · exact .inl ⟨a, h, rfl⟩
    · exact .inr ⟨i :: a, h, rfl⟩
  · rintro (⟨a, h, rfl⟩ | ⟨_ | ⟨i, a⟩, h, rfl⟩)
    · exact h
    · exact absurd h (nil_notMem_nodes _)
    · exact h

theorem disjoint_nodes (t : SymbolTree) (ts : List SymbolTree) :
    Disjoint ((0 :: ·) '' t.nodesBelow) (List.modifyHead (· + 1) '' nodes ts) := by
  rw [Set.disjoint_left]
  rintro _ ⟨a, _, rfl⟩ ⟨(_ | ⟨i, b⟩), _, heq⟩
  · cases heq
  · cases heq

theorem modifyHead_injective :
    Function.Injective (List.modifyHead (· + 1) : List Nat → List Nat) := by
  rintro (_ | ⟨i, a⟩) (_ | ⟨j, b⟩) h
  · rfl
  · cases h
  · cases h
  · simpa using h

mutual

theorem encard_nodesBelow (t : SymbolTree) : t.nodesBelow.encard = t.preorder.length := by
  match t with
  | .node s cs =>
    rw [nodesBelow_node, Set.encard_insert_of_notMem (nil_notMem_nodes cs), encard_nodes cs,
      preorder, List.length_cons, Nat.cast_succ]

theorem encard_nodes (ts : List SymbolTree) : (nodes ts).encard = (preorderAll ts).length := by
  match ts with
  | [] => rw [nodes_nil, Set.encard_empty, preorderAll, List.length_nil, Nat.cast_zero]
  | t :: ts =>
    rw [nodes_cons, Set.encard_union_eq (disjoint_nodes t ts), List.cons_injective.encard_image,
      modifyHead_injective.encard_image, encard_nodesBelow t, encard_nodes ts, preorderAll,
      List.length_append, Nat.cast_add]

end

/-! ## Looking for a name -/

mutual

theorem namedOnto_eq (name : Text) (t : SymbolTree) (out : List SymbolTree) :
    t.namedOnto name out = out ++ t.preorder.filter fun u => u.symbol.name = name := by
  match t with
  | .node s cs =>
    rw [namedOnto, namedAllOnto_eq name cs, preorder]
    by_cases h : s.name = name
    · rw [if_pos h, List.filter_cons_of_pos (by exact decide_eq_true h), List.append_assoc]
      rfl
    · rw [if_neg h, List.filter_cons_of_neg (by exact fun hname => h (of_decide_eq_true hname))]

/-- The trees of a name are those that stay of the preorder when all others are left out. -/
theorem namedAllOnto_eq (name : Text) (ts out : List SymbolTree) :
    namedAllOnto name ts out = out ++ (preorderAll ts).filter fun u => u.symbol.name = name := by
  match ts with
  | [] => rw [namedAllOnto, preorderAll, List.filter_nil, List.append_nil]
  | t :: ts =>
    rw [namedAllOnto, namedOnto_eq name t, namedAllOnto_eq name ts, preorderAll, List.filter_append,
      List.append_assoc]

end

end SymbolTree

namespace Outline

/-- Any outline, whether or not it is that of a document, lists under a name what its preorder has
under the name, in the same order and as often. Its preorder has one entry for each node. -/
theorem named_along_preorder (o : Outline) (name : Text) :
    o.named name = (o.preorder.filter fun t => t.symbol.name = name) ∧
      (SymbolTree.nodes o.symbols).encard = o.preorder.length := by
  rw [preorder_eq_preorderAll]
  exact ⟨SymbolTree.namedAllOnto_eq name o.symbols [], SymbolTree.encard_nodes o.symbols⟩

end Outline

end Bilingua
