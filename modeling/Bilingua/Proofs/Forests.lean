import Bilingua.Outline.Basic

/-!
# Forests in preorder

What a walk along a forest appends to its list does not depend on what the list has before
(`SymbolTree.preorderAllOnto_eq`), so it is the preorder of the forest. The trees of a forest, and the
children of each tree in it, are found in its preorder in their own order
(`SymbolTree.sublist_preorderAll`, `SymbolTree.children_sublist_preorderAll`). Conversely, whatever is
in the preorder is a tree of the forest or a child of some tree in it.
-/

namespace Bilingua.SymbolTree

mutual

def preorder : SymbolTree → List SymbolTree
  | .node s cs => .node s cs :: preorderAll cs

def preorderAll : List SymbolTree → List SymbolTree
  | [] => []
  | t :: ts => t.preorder ++ preorderAll ts

end

variable {t u p : SymbolTree} {ts us : List SymbolTree}

mutual

theorem preorderOnto_eq (t : SymbolTree) (out : List SymbolTree) :
    t.preorderOnto out = out ++ t.preorder := by
  match t with
  | .node s cs =>
    rw [preorderOnto, preorderAllOnto_eq cs, preorder, List.append_assoc, List.singleton_append]

theorem preorderAllOnto_eq (ts out : List SymbolTree) :
    preorderAllOnto ts out = out ++ preorderAll ts := by
  match ts with
  | [] => rw [preorderAllOnto, preorderAll, List.append_nil]
  | t :: ts =>
    rw [preorderAllOnto, preorderOnto_eq t, preorderAllOnto_eq ts, preorderAll, List.append_assoc]

end

theorem preorder_eq (t : SymbolTree) : t.preorder = t :: preorderAll t.children := by
  cases t with
  | node s cs => rw [preorder, children]

theorem preorderAll_append (ts us : List SymbolTree) :
    preorderAll (ts ++ us) = preorderAll ts ++ preorderAll us := by
  induction ts with
  | nil => rfl
  | cons t ts ih => rw [List.cons_append, preorderAll, preorderAll, ih, List.append_assoc]

theorem mem_preorderAll : u ∈ preorderAll ts ↔ ∃ t ∈ ts, u ∈ t.preorder := by
  induction ts with
  | nil => simp [preorderAll]
  | cons t ts ih => simp [preorderAll, ih]

theorem sublist_preorderAll (ts : List SymbolTree) : ts.Sublist (preorderAll ts) := by
  induction ts with
  | nil => exact .slnil
  | cons t ts ih =>
    rw [preorderAll, preorder_eq, List.cons_append]
    exact (ih.trans (List.sublist_append_right _ _)).cons_cons t

mutual

theorem preorder_sublist_preorder (t : SymbolTree) (h : p ∈ t.preorder) :
    p.preorder.Sublist t.preorder := by
  match t with
  | .node s cs =>
    rw [preorder] at h
    rcases List.mem_cons.1 h with rfl | h
    · exact .refl _
    · rw [preorder]
      exact (preorder_sublist_of_mem cs h).trans (List.sublist_cons_self _ _)

/-- What a tree has in preorder, each forest has in preorder that holds the tree somewhere. -/
theorem preorder_sublist_of_mem (ts : List SymbolTree) (h : p ∈ preorderAll ts) :
    p.preorder.Sublist (preorderAll ts) := by
  match ts with
  | [] => cases h
  | t :: ts =>
    rw [preorderAll] at h ⊢
    rcases List.mem_append.1 h with h | h
    · exact (preorder_sublist_preorder t h).trans (List.sublist_append_left _ _)
    · exact (preorder_sublist_of_mem ts h).trans (List.sublist_append_right _ _)

end

theorem children_sublist_preorderAll (h : p ∈ preorderAll ts) :
    p.children.Sublist (preorderAll ts) := by
  have hp := preorder_sublist_of_mem ts h
  rw [preorder_eq] at hp
  exact (sublist_preorderAll p.children).trans ((List.sublist_cons_self _ _).trans hp)

mutual

theorem eq_or_child_of_mem_preorder (t : SymbolTree) (h : u ∈ t.preorder) :
    u = t ∨ ∃ p ∈ t.preorder, u ∈ p.children := by
  match t with
  | .node s cs =>
    rw [preorder] at h ⊢
    rcases List.mem_cons.1 h with rfl | h
    · exact .inl rfl
    · rcases mem_or_child_of_mem_preorderAll cs h with h | ⟨p, hp, hu⟩
      · exact .inr ⟨_, List.mem_cons_self, h⟩
      · exact .inr ⟨p, List.mem_cons_of_mem _ hp, hu⟩

theorem mem_or_child_of_mem_preorderAll (ts : List SymbolTree) (h : u ∈ preorderAll ts) :
    u ∈ ts ∨ ∃ p ∈ preorderAll ts, u ∈ p.children := by
  match ts with
  | [] => cases h
  | t :: ts =>
    rw [preorderAll] at h ⊢
    rcases List.mem_append.1 h with h | h
    · rcases eq_or_child_of_mem_preorder t h with rfl | ⟨p, hp, hu⟩
      · exact .inl List.mem_cons_self
      · exact .inr ⟨p, List.mem_append_left _ hp, hu⟩
    · rcases mem_or_child_of_mem_preorderAll ts h with h | ⟨p, hp, hu⟩
      · exact .inl (List.mem_cons_of_mem _ h)
      · exact .inr ⟨p, List.mem_append_right _ hp, hu⟩

end

end Bilingua.SymbolTree

namespace Bilingua.Outline

open SymbolTree (preorderAll)

variable {o : Outline} {t p : SymbolTree}

theorem preorder_eq_preorderAll (o : Outline) : o.preorder = preorderAll o.symbols :=
  SymbolTree.preorderAllOnto_eq o.symbols []

theorem mem_preorder : t ∈ o.preorder ↔ t ∈ preorderAll o.symbols := by
  rw [preorder_eq_preorderAll]

theorem symbols_sublist_preorder (o : Outline) : o.symbols.Sublist o.preorder := by
  rw [preorder_eq_preorderAll]
  exact SymbolTree.sublist_preorderAll o.symbols

theorem children_sublist_preorder (h : p ∈ o.preorder) : p.children.Sublist o.preorder := by
  rw [preorder_eq_preorderAll] at h ⊢
  exact SymbolTree.children_sublist_preorderAll h

theorem mem_or_child_of_mem_preorder (h : t ∈ o.preorder) :
    t ∈ o.symbols ∨ ∃ p ∈ o.preorder, t ∈ p.children := by
  rw [preorder_eq_preorderAll] at h ⊢
  exact SymbolTree.mem_or_child_of_mem_preorderAll o.symbols h

end Bilingua.Outline
