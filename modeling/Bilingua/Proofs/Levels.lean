import Bilingua.Proofs.Forests
import Bilingua.Proofs.Relabelling
import Mathlib.Data.Set.Card

/-!
# Levels of a forest

Preorder forgets which tree is inside which. With the level of each tree, the number of trees around
it, nothing is lost: what is below a tree are the deeper trees that come after it, up to the first
one that is not deeper. So the levels and symbols along the preorder give the forest back
(`SymbolTree.eq_of_rowsAll`).

In a forest that holds no tree twice, the level of a tree is the number of those that have it
somewhere below them (`SymbolTree.encard_around_rowsAll`).
-/

namespace Bilingua.SymbolTree

mutual

/-- The preorder of a tree with the level of each tree, its own being `level`. -/
def rows (level : Nat) : SymbolTree → List (Nat × SymbolTree)
  | .node s cs => (level, .node s cs) :: rowsAll (level + 1) cs

def rowsAll (level : Nat) : List SymbolTree → List (Nat × SymbolTree)
  | [] => []
  | t :: ts => t.rows level ++ rowsAll level ts

end

def label (row : Nat × SymbolTree) : Nat × Symbol := (row.1, row.2.symbol)

/-- Those of the trees `us` that have the tree somewhere below them. -/
def around (us : List SymbolTree) (t : SymbolTree) : Set SymbolTree :=
  {p | p ∈ us ∧ t ∈ preorderAll p.children}

variable {level : Nat} {row : Nat × SymbolTree} {t u p : SymbolTree} {ts us vs : List SymbolTree}

/-! ## Rows -/

theorem rows_eq (level : Nat) (t : SymbolTree) :
    t.rows level = (level, t) :: rowsAll (level + 1) t.children := by
  cases t with
  | node s cs => rw [rows, children]

mutual

theorem map_snd_rows (level : Nat) (t : SymbolTree) : (t.rows level).map Prod.snd = t.preorder := by
  match t with
  | .node s cs => rw [rows, List.map_cons, map_snd_rowsAll (level + 1) cs, preorder]

theorem map_snd_rowsAll (level : Nat) (ts : List SymbolTree) :
    (rowsAll level ts).map Prod.snd = preorderAll ts := by
  match ts with
  | [] => rfl
  | t :: ts => rw [rowsAll, List.map_append, map_snd_rows level t, map_snd_rowsAll level ts,
      preorderAll]

end

theorem mem_preorder_of_mem_rows (h : row ∈ t.rows level) : row.2 ∈ t.preorder := by
  rw [← map_snd_rows level t]
  exact List.mem_map_of_mem h

theorem mem_preorderAll_of_mem_rowsAll (h : row ∈ rowsAll level ts) : row.2 ∈ preorderAll ts := by
  rw [← map_snd_rowsAll level ts]
  exact List.mem_map_of_mem h

mutual

theorem level_le_of_mem_rows (level : Nat) (t : SymbolTree) (h : row ∈ t.rows level) :
    level ≤ row.1 := by
  match t with
  | .node s cs =>
    rw [rows] at h
    rcases List.mem_cons.1 h with rfl | h
    · exact Nat.le_refl _
    · exact Nat.le_of_succ_le (level_le_of_mem_rowsAll (level + 1) cs h)

theorem level_le_of_mem_rowsAll (level : Nat) (ts : List SymbolTree) (h : row ∈ rowsAll level ts) :
    level ≤ row.1 := by
  match ts with
  | [] => cases h
  | t :: ts =>
    rw [rowsAll] at h
    rcases List.mem_append.1 h with h | h
    · exact level_le_of_mem_rows level t h
    · exact level_le_of_mem_rowsAll level ts h

end

theorem level_of_head?_rowsAll (h : (rowsAll level ts).head? = some row) : row.1 = level := by
  cases ts with
  | nil => cases h
  | cons t ts =>
    rw [rowsAll, rows_eq] at h
    rw [← Option.some_inj.1 h]

mutual

theorem rows_mapSymbols (g : Symbol → Symbol) (level : Nat) (t : SymbolTree) :
    (t.mapSymbols g).rows level = (t.rows level).map (Prod.map id (mapSymbols g)) := by
  match t with
  | .node s cs =>
    rw [mapSymbols, rows, rows, rowsAll_mapSymbolsAll g (level + 1) cs, List.map_cons, Prod.map,
      mapSymbols, id]

theorem rowsAll_mapSymbolsAll (g : Symbol → Symbol) (level : Nat) (ts : List SymbolTree) :
    rowsAll level (mapSymbolsAll g ts) = (rowsAll level ts).map (Prod.map id (mapSymbols g)) := by
  match ts with
  | [] => rfl
  | t :: ts => rw [mapSymbolsAll, rowsAll, rowsAll, rows_mapSymbols g level t,
      rowsAll_mapSymbolsAll g level ts, List.map_append]

end

/-! ## From rows to forests -/

/-- The deeper rows at the start of a list and the rest of it are told apart by their levels. -/
theorem deeper_append_inj {as bs as' bs' : List (Nat × Symbol)} (has : ∀ r ∈ as, level < r.1)
    (has' : ∀ r ∈ as', level < r.1) (hbs : ∀ r, bs.head? = some r → r.1 = level)
    (hbs' : ∀ r, bs'.head? = some r → r.1 = level) (h : as ++ bs = as' ++ bs') :
    as = as' ∧ bs = bs' := by
  -- If the deeper rows of one side went on after the other's, a row that is not deeper came next.
  rcases List.append_eq_append_iff.1 h with ⟨cs, rfl, rfl⟩ | ⟨cs, rfl, rfl⟩
  · cases cs with
    | nil => simp
    | cons r cs =>
      have := hbs r rfl
      have := has' r (by simp)
      omega
  · cases cs with
    | nil => simp
    | cons r cs =>
      have := hbs' r rfl
      have := has r (by simp)
      omega

/-- The rows of the first tree of a forest end where those of the next one start. -/
theorem rows_append_inj (h : (t.rows level).map label ++ (rowsAll level ts).map label =
      (u.rows level).map label ++ (rowsAll level us).map label) :
    (t.rows level).map label = (u.rows level).map label ∧
      (rowsAll level ts).map label = (rowsAll level us).map label := by
  have hdeeper : ∀ ts : List SymbolTree, ∀ r ∈ (rowsAll (level + 1) ts).map label, level < r.1 := by
    rintro ts _ hr
    obtain ⟨row, hrow, rfl⟩ := List.mem_map.1 hr
    exact level_le_of_mem_rowsAll (level + 1) ts hrow
  have hnext : ∀ ts : List SymbolTree, ∀ r, ((rowsAll level ts).map label).head? = some r →
      r.1 = level := by
    intro ts r hr
    rw [List.head?_map] at hr
    obtain ⟨row, hrow, rfl⟩ := Option.map_eq_some_iff.1 hr
    exact level_of_head?_rowsAll hrow
  rw [rows_eq, rows_eq, List.map_cons, List.map_cons] at h ⊢
  obtain ⟨hroot, hlater⟩ := List.cons.inj h
  obtain ⟨hbelow, hafter⟩ := deeper_append_inj (hdeeper _) (hdeeper _) (hnext _) (hnext _) hlater
  exact ⟨by rw [hroot, hbelow], hafter⟩

mutual

theorem eq_of_rows (level : Nat) (t u : SymbolTree)
    (h : (t.rows level).map label = (u.rows level).map label) : t = u := by
  match t, u with
  | .node s cs, .node s' cs' =>
    rw [rows, rows, List.map_cons, List.map_cons] at h
    obtain ⟨hroot, hlater⟩ := List.cons.inj h
    have hsymbol : s = s' := (Prod.mk.inj hroot).2
    rw [hsymbol, eq_of_rowsAll (level + 1) cs cs' hlater]

/-- A forest is given by the levels and the symbols along its preorder. -/
theorem eq_of_rowsAll (level : Nat) (ts us : List SymbolTree)
    (h : (rowsAll level ts).map label = (rowsAll level us).map label) : ts = us := by
  match ts, us with
  | [], [] => rfl
  | [], u :: us =>
    rw [rowsAll, rowsAll, rows_eq] at h
    cases h
  | t :: ts, [] =>
    rw [rowsAll, rowsAll, rows_eq] at h
    cases h
  | t :: ts, u :: us =>
    rw [rowsAll, rowsAll, List.map_append, List.map_append] at h
    obtain ⟨hfirst, hlater⟩ := rows_append_inj h
    rw [eq_of_rows level t u hfirst, eq_of_rowsAll level ts us hlater]

end

/-! ## Levels as numbers of ancestors -/

theorem mem_preorderAll_of_below (hp : p ∈ preorderAll ts) (h : t ∈ preorderAll p.children) :
    t ∈ preorderAll ts := by
  have hsub := preorder_sublist_of_mem ts hp
  rw [preorder_eq] at hsub
  exact hsub.subset (List.mem_cons_of_mem _ h)

theorem around_append (us vs : List SymbolTree) (t : SymbolTree) :
    around (us ++ vs) t = around us t ∪ around vs t := by
  ext p
  simp only [around, List.mem_append, Set.mem_union, Set.mem_ofPred_eq, or_and_right]

theorem around_cons_of_mem (h : t ∈ preorderAll p.children) :
    around (p :: us) t = insert p (around us t) := by
  ext q
  simp only [around, List.mem_cons, Set.mem_insert_iff, Set.mem_ofPred_eq, or_and_right]
  exact or_congr_left (and_iff_left_of_imp fun hq => hq ▸ h)

theorem around_cons_of_notMem (h : t ∉ preorderAll p.children) :
    around (p :: us) t = around us t := by
  ext q
  simp only [around, List.mem_cons, Set.mem_ofPred_eq, or_and_right]
  exact or_iff_right fun ⟨hq, hbelow⟩ => h (hq ▸ hbelow)

theorem around_eq_empty (h : t ∉ preorderAll ts) : around (preorderAll ts) t = ∅ :=
  Set.eq_empty_of_forall_notMem fun _ hp => h (mem_preorderAll_of_below hp.1 hp.2)

theorem preorderAll_singleton (t : SymbolTree) : preorderAll [t] = t.preorder := by
  rw [preorderAll, preorderAll, List.append_nil]

mutual

theorem encard_around_rows (level : Nat) (t : SymbolTree) (hnodup : t.preorder.Nodup)
    (h : row ∈ t.rows level) : (around t.preorder row.2).encard + level = row.1 := by
  match t with
  | .node s cs =>
    rw [preorder] at hnodup ⊢
    rw [rows] at h
    obtain ⟨hroot, hnodup⟩ := List.nodup_cons.1 hnodup
    rcases List.mem_cons.1 h with rfl | h
    · rw [around_cons_of_notMem hroot, around_eq_empty hroot, Set.encard_empty, zero_add]
    · -- The root is around what is below it, and comes on top of what is around it there.
      rw [around_cons_of_mem (mem_preorderAll_of_mem_rowsAll h),
        Set.encard_insert_of_notMem fun hmem => hroot hmem.1,
        ← encard_around_rowsAll (level + 1) cs hnodup h, Nat.cast_add, Nat.cast_one, add_assoc,
        add_comm 1]

/-- Where no tree occurs twice, the level of a tree is the number of those around it. -/
theorem encard_around_rowsAll (level : Nat) (ts : List SymbolTree)
    (hnodup : (preorderAll ts).Nodup) (h : row ∈ rowsAll level ts) :
    (around (preorderAll ts) row.2).encard + level = row.1 := by
  match ts with
  | [] => cases h
  | t :: ts =>
    rw [preorderAll] at hnodup ⊢
    rw [rowsAll] at h
    obtain ⟨hfirst, hlater, hapart⟩ := List.nodup_append.1 hnodup
    rw [around_append]
    rcases List.mem_append.1 h with h | h
    · have hrow : row.2 ∉ preorderAll ts := fun hmem =>
        hapart _ (mem_preorder_of_mem_rows h) _ hmem rfl
      rw [around_eq_empty hrow, Set.union_empty, encard_around_rows level t hfirst h]
    · have hrow : row.2 ∉ preorderAll [t] := fun hmem =>
        hapart _ (preorderAll_singleton t ▸ hmem) _ (mem_preorderAll_of_mem_rowsAll h) rfl
      rw [← preorderAll_singleton t, around_eq_empty hrow, Set.empty_union,
        encard_around_rowsAll level ts hlater h]

end

end Bilingua.SymbolTree
