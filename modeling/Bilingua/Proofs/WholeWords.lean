import Bilingua.Text.Cursor
import Mathlib.Data.List.Forall2

/-!
# Searching for whole words

What a search for whole words finds at a position depends on the text ahead and, of the text behind,
only on whether it ends with a word character. Positions that agree in both are alike
(`Cursor.Alike`), and from there on the search goes the same way.

So two texts with different beginnings are searched with the same result if neither beginning holds
the start of a word that is searched for, and both end with word characters.
-/

namespace Bilingua.Text

namespace Cursor

/-- Positions that a search for whole words cannot tell apart. -/
structure Alike (p q : Cursor) : Prop where
  ahead : p.ahead = q.ahead
  behind : startsWord p.behind = startsWord q.behind

variable {p q : Cursor} {b b' t w : Text} {ws : List Text}

theorem Alike.cons (hb : startsWord b = startsWord b') (w t : Text) :
    Alike ⟨w ++ b, t⟩ ⟨w ++ b', t⟩ := by
  cases w with
  | nil => exact ⟨rfl, hb⟩
  | cons c w => exact ⟨rfl, rfl⟩

theorem Alike.atBoundary (h : Alike p q) : p.atBoundary = q.atBoundary := by
  unfold Cursor.atBoundary
  rw [h.ahead, h.behind]

theorem Alike.past? (h : Alike p q) (w : Text) :
    Option.Rel Alike (p.past? w) (q.past? w) := by
  unfold Cursor.past?
  rw [h.ahead]
  cases q.ahead.dropStart? w with
  | none => exact .none
  | some rest =>
    refine .some ?_
    rw [List.reverseAux_eq, List.reverseAux_eq]
    exact .cons h.behind _ _

theorem Alike.pastWord? (h : Alike p q) (ws : List Text) :
    Option.Rel Alike (p.pastWord? ws) (q.pastWord? ws) := by
  unfold Cursor.pastWord?
  rw [h.atBoundary]
  split
  · induction ws with
    | nil => exact .none
    | cons w ws ih =>
      rw [List.findSome?_cons, List.findSome?_cons]
      have hpast := h.past? w
      revert hpast
      generalize p.past? w = x, q.past? w = y
      intro hpast
      cases hpast with
      | none => exact ih
      | @some p' q' hpq =>
        rw [Option.filter_some, Option.filter_some, hpq.atBoundary]
        by_cases hq : q'.atBoundary = true
        · simp only [hq, if_true]
          exact .some hpq
        · simp only [hq]
          exact ih
  · exact .none

theorem Alike.isSome_pastWord? (h : Alike p q) (ws : List Text) :
    (p.pastWord? ws).isSome = (q.pastWord? ws).isSome := by
  have hrel := h.pastWord? ws
  revert hrel
  generalize p.pastWord? ws = x, q.pastWord? ws = y
  intro hrel
  cases hrel <;> rfl

theorem pastWord?_eq_none (h : ∀ w ∈ ws, p.ahead.dropStart? w = none) : p.pastWord? ws = none := by
  unfold pastWord?
  split
  · refine List.findSome?_eq_none_iff.2 fun w hw => ?_
    rw [past?, h w hw]
    rfl
  · rfl

/-! ## All positions -/

theorem any_eq_of_alike {ps qs : List Cursor} {f : Cursor → Bool} (h : List.Forall₂ Alike ps qs)
    (hf : ∀ p q, Alike p q → f p = f q) : ps.any f = qs.any f := by
  induction h with
  | nil => rfl
  | cons hpq _ ih => rw [List.any_cons, List.any_cons, hf _ _ hpq, ih]

theorem onwardFrom_alike (h : startsWord b = startsWord b') :
    List.Forall₂ Alike (onwardFrom b t) (onwardFrom b' t) := by
  induction t generalizing b b' with
  | nil => exact .cons ⟨rfl, h⟩ .nil
  | cons c t ih => exact .cons ⟨rfl, h⟩ (ih rfl)

theorem sameLineFrom_alike (h : startsWord b = startsWord b') :
    List.Forall₂ Alike (sameLineFrom b t) (sameLineFrom b' t) := by
  induction t generalizing b b' with
  | nil => exact .cons ⟨rfl, h⟩ .nil
  | cons c t ih =>
    unfold sameLineFrom
    split
    · exact .cons ⟨rfl, h⟩ .nil
    · exact .cons ⟨rfl, h⟩ (ih rfl)

theorem Alike.sameLine (h : Alike p q) : List.Forall₂ Alike p.sameLine q.sameLine := by
  unfold Cursor.sameLine
  rw [h.ahead]
  exact sameLineFrom_alike h.behind

/-- A search that fails within a beginning starts after it. -/
theorem any_onwardFrom_append {f : Cursor → Bool} {rest : Text}
    (hf : ∀ b u, u <:+ w → u ≠ [] → f ⟨b, u ++ rest⟩ = false) :
    (onwardFrom b (w ++ rest)).any f = (onwardFrom (w.reverse ++ b) rest).any f := by
  induction w generalizing b with
  | nil => rfl
  | cons c w ih =>
    have hhere : f ⟨b, c :: (w ++ rest)⟩ = false :=
      hf b (c :: w) List.suffix_rfl (List.cons_ne_nil c w)
    rw [List.cons_append, onwardFrom, List.any_cons, hhere, Bool.false_or,
      ih fun b u hu => hf b u (hu.trans (List.suffix_cons c w)), List.reverse_cons,
      List.append_assoc]
    rfl

end Cursor

/-! ## Beginnings that a search passes over -/

/-- None of the words starts within the beginning `w` of `w ++ rest`. -/
def PassesOver (ws : List Text) (w rest : Text) : Prop :=
  ∀ u, u <:+ w → u ≠ [] → ∀ v ∈ ws, dropStart? (u ++ rest) v = none

open Cursor

variable {ws first second : List Text} {w w' rest : Text}

/-- A search that needs one of the words ahead has the same result after both beginnings. -/
theorem any_onward_of_passesOver {f : Cursor → Bool} (hw : PassesOver ws w rest)
    (hw' : PassesOver ws w' rest) (hend : startsWord w.reverse = startsWord w'.reverse)
    (hnone : ∀ p : Cursor, p.pastWord? ws = none → f p = false)
    (halike : ∀ p q, Alike p q → f p = f q) :
    (start (w ++ rest)).onward.any f = (start (w' ++ rest)).onward.any f := by
  have hfail : ∀ w, PassesOver ws w rest → ∀ b u, u <:+ w → u ≠ [] → f ⟨b, u ++ rest⟩ = false :=
    fun w hw b u hu hne => hnone _ (pastWord?_eq_none (hw u hu hne))
  unfold onward start
  rw [any_onwardFrom_append (hfail w hw), any_onwardFrom_append (hfail w' hw')]
  exact any_eq_of_alike (onwardFrom_alike (by simpa using hend)) halike

theorem hasWord_of_passesOver (hw : PassesOver ws w rest) (hw' : PassesOver ws w' rest)
    (hend : startsWord w.reverse = startsWord w'.reverse) :
    hasWord ws (w ++ rest) = hasWord ws (w' ++ rest) := by
  refine any_onward_of_passesOver hw hw' hend (fun p hp => ?_) fun p q h => h.isSome_pastWord? ws
  rw [hp]
  rfl

theorem hasWordsInOrder_of_passesOver (second : List Text) (hw : PassesOver first w rest)
    (hw' : PassesOver first w' rest) (hend : startsWord w.reverse = startsWord w'.reverse) :
    hasWordsInOrder first second (w ++ rest) = hasWordsInOrder first second (w' ++ rest) := by
  refine any_onward_of_passesOver hw hw' hend (fun p hp => by rw [hp]) fun p q h => ?_
  have hrel := h.pastWord? first
  revert hrel
  generalize p.pastWord? first = x, q.pastWord? first = y
  intro hrel
  cases hrel with
  | none => rfl
  | some hpq =>
    exact any_eq_of_alike (List.forall₂_drop 1 hpq.sameLine) fun p q h => h.isSome_pastWord? second

end Bilingua.Text
