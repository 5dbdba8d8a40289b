import Bilingua.Text.Blank
import Bilingua.Text.Cursor

/-!
# Occurrences of words

A position in a text is a cut of the text into what lies before it and what lies ahead. A search
goes through all cuts (`Cursor.mem_onward_start`), and what it finds, it finds at the first cut
where there is anything to find (`Cursor.findSome?_onward_eq_some`). So what it finds can be said of
the text around the cut, and whole words by the text around them (`hasWord_iff`).
-/

namespace Bilingua

/-- If all that is found in a list is the same, it does not matter what is found first. -/
theorem findSome?_eq_some_iff_exists {α β : Type} {f : α → Option β} {xs : List α} {x : β}
    (h : ∀ a ∈ xs, ∀ b ∈ xs, ∀ x y, f a = some x → f b = some y → x = y) :
    xs.findSome? f = some x ↔ ∃ a ∈ xs, f a = some x := by
  constructor
  · intro hfound
    exact List.exists_of_findSome?_eq_some hfound
  · rintro ⟨a, ha, hx⟩
    have hsome : (xs.findSome? f).isSome = true :=
      List.findSome?_isSome_iff.2 ⟨a, ha, Option.isSome_of_mem hx⟩
    obtain ⟨y, hy⟩ := Option.isSome_iff_exists.1 hsome
    obtain ⟨b, hb, hfb⟩ := List.exists_of_findSome?_eq_some hy
    rw [hy, h a ha b hb x y hx hfb]

namespace Text

namespace Cursor

/-- The position between two parts of a text. -/
def between (a b : Text) : Cursor := ⟨a.reverse, b⟩

variable {α : Type} {a b t v w behind : Text} {ws : List Text} {p q : Cursor}

@[simp]
theorem before_between (a b : Text) : (between a b).before = a := List.reverse_reverse a

@[simp]
theorem ahead_between (a b : Text) : (between a b).ahead = b := rfl

@[simp]
theorem length_behind_between (a b : Text) : (between a b).behind.length = a.length :=
  List.length_reverse

theorem between_before_ahead (p : Cursor) : between p.before p.ahead = p := by
  unfold between before
  rw [List.reverse_reverse]

/-! ## Positions of a search -/

theorem mem_onwardFrom :
    p ∈ onwardFrom behind t ↔ ∃ a, t = a ++ p.ahead ∧ p.behind = a.reverse ++ behind := by
  obtain ⟨pb, pa⟩ := p
  induction t generalizing behind with
  | nil =>
    rw [onwardFrom, List.mem_singleton]
    constructor
    · rintro ⟨⟩
      exact ⟨[], rfl, rfl⟩
    · rintro ⟨a, ha, rfl⟩
      obtain ⟨rfl, rfl⟩ := List.append_eq_nil_iff.1 ha.symm
      rfl
  | cons c t ih =>
    rw [onwardFrom, List.mem_cons, ih]
    constructor
    · rintro (h | ⟨a, rfl, hb⟩)
      · obtain ⟨rfl, rfl⟩ := Cursor.mk.inj h
        exact ⟨[], rfl, rfl⟩
      · exact ⟨c :: a, rfl, by simpa using hb⟩
    · rintro ⟨a, ha, rfl⟩
      cases a with
      | nil =>
        obtain rfl : c :: t = pa := ha
        exact .inl rfl
      | cons d a =>
        obtain ⟨rfl, rfl⟩ := List.cons.inj ha
        exact .inr ⟨a, rfl, by simp⟩

theorem mem_onward_start : p ∈ (start t).onward ↔ t = p.before ++ p.ahead := by
  unfold onward start
  rw [mem_onwardFrom]
  constructor
  · rintro ⟨a, rfl, hb⟩
    rw [before, hb, List.append_nil, List.reverse_reverse]
  · intro ht
    exact ⟨p.before, ht, by rw [before, List.reverse_reverse, List.append_nil]⟩

theorem findSome?_onwardFrom_eq_some {f : Cursor → Option α} {x : α} :
    (onwardFrom behind t).findSome? f = some x ↔
      ∃ a b, t = a ++ b ∧ f ⟨a.reverse ++ behind, b⟩ = some x ∧
        ∀ a' u, a = a' ++ u → u ≠ [] → f ⟨a'.reverse ++ behind, u ++ b⟩ = none := by
  induction t generalizing behind with
  | nil =>
    rw [onwardFrom, List.findSome?_singleton]
    constructor
    · intro hx
      refine ⟨[], [], rfl, hx, fun a' u h hu => ?_⟩
      exact absurd (List.append_eq_nil_iff.1 h.symm).2 hu
    · rintro ⟨a, b, hab, hx, _⟩
      obtain ⟨rfl, rfl⟩ := List.append_eq_nil_iff.1 hab.symm
      exact hx
  | cons c t ih =>
    rw [onwardFrom, List.findSome?_cons]
    cases hhere : f ⟨behind, c :: t⟩ with
    | some y =>
      constructor
      · rintro ⟨⟩
        refine ⟨[], c :: t, rfl, hhere, fun a' u h hu => ?_⟩
        exact absurd (List.append_eq_nil_iff.1 h.symm).2 hu
      · rintro ⟨a, b, hab, hx, hfirst⟩
        cases a with
        | nil =>
          rw [List.nil_append] at hab
          rw [← hab] at hx
          exact hhere.symm.trans hx
        | cons d a =>
          -- Anything found later would not be the first.
          have hnone := hfirst [] (d :: a) rfl (List.cons_ne_nil d a)
          rw [← hab] at hnone
          cases hhere.symm.trans hnone
    | none =>
      simp only [ih]
      constructor
      · rintro ⟨a, b, rfl, hx, hfirst⟩
        refine ⟨c :: a, b, rfl, by simpa using hx, fun a' u h hu => ?_⟩
        cases a' with
        | nil =>
          rw [List.nil_append] at h
          rw [← h]
          exact hhere
        | cons d a' =>
          obtain ⟨rfl, hrest⟩ := List.cons.inj h
          simpa using hfirst a' u hrest hu
      · rintro ⟨a, b, hab, hx, hfirst⟩
        cases a with
        | nil =>
          rw [List.nil_append] at hab
          rw [← hab] at hx
          cases hhere.symm.trans hx
        | cons d a =>
          obtain ⟨rfl, rfl⟩ := List.cons.inj hab
          refine ⟨a, b, rfl, by simpa using hx, fun a' u h hu => ?_⟩
          simpa using hfirst (c :: a') u (by rw [h, List.cons_append]) hu

/-- What a search finds is found at the first position where there is anything to find. -/
theorem findSome?_onward_eq_some {f : Cursor → Option α} {x : α} :
    (start t).onward.findSome? f = some x ↔
      ∃ a b, t = a ++ b ∧ f (between a b) = some x ∧
        ∀ a' u, a = a' ++ u → u ≠ [] → f (between a' (u ++ b)) = none := by
  unfold onward start between
  rw [findSome?_onwardFrom_eq_some]
  simp only [List.append_nil]

/-! ## Words at a position -/

theorem past?_between_eq_some :
    (between a t).past? w = some q ↔ ∃ b, t = w ++ b ∧ q = between (a ++ w) b := by
  unfold past? between
  simp only [Option.map_eq_some_iff, dropStart?_eq_some, List.reverseAux_eq, List.reverse_append]
  exact exists_congr fun b => and_congr_right fun _ => eq_comm

/-- The part `w` of the text `a ++ w ++ b` has a word boundary at each of its ends. -/
structure Whole (a w b : Text) : Prop where
  first : (between a (w ++ b)).atBoundary = true
  last : (between (a ++ w) b).atBoundary = true

theorem pastWord?_between_eq_some (h : (between a t).pastWord? ws = some q) :
    ∃ w ∈ ws, ∃ b, t = w ++ b ∧ q = between (a ++ w) b ∧ Whole a w b := by
  unfold pastWord? at h
  split at h
  · next hfirst =>
    obtain ⟨w, hw, hq⟩ := List.exists_of_findSome?_eq_some h
    obtain ⟨hpast, hlast⟩ := Option.filter_eq_some_iff.1 hq
    obtain ⟨b, rfl, rfl⟩ := past?_between_eq_some.1 hpast
    exact ⟨w, hw, b, rfl, rfl, hfirst, hlast⟩
  · cases h

theorem isSome_pastWord?_between :
    ((between a t).pastWord? ws).isSome = true ↔ ∃ w ∈ ws, ∃ b, t = w ++ b ∧ Whole a w b := by
  constructor
  · intro h
    obtain ⟨q, hq⟩ := Option.isSome_iff_exists.1 h
    obtain ⟨w, hw, b, ht, _, hwhole⟩ := pastWord?_between_eq_some hq
    exact ⟨w, hw, b, ht, hwhole⟩
  · rintro ⟨w, hw, b, rfl, hwhole⟩
    have hpast : (between a (w ++ b)).past? w = some (between (a ++ w) b) :=
      past?_between_eq_some.2 ⟨b, rfl, rfl⟩
    unfold pastWord?
    rw [if_pos hwhole.first, List.findSome?_isSome_iff]
    refine ⟨w, hw, ?_⟩
    rw [hpast, Option.filter_some_pos hwhole.last]
    rfl

/-! ## Boundaries -/

theorem startsWord_append (h : w ≠ []) (b : Text) : startsWord (w ++ b) = startsWord w := by
  cases w with
  | nil => exact absurd rfl h
  | cons c w => rfl

theorem atBoundary_between (a b : Text) :
    (between a b).atBoundary = (startsWord a.reverse != startsWord b) := rfl

/-- Whether there is a boundary does not depend on the text before the last character. -/
theorem atBoundary_between_append (h : a ≠ []) (v b : Text) :
    (between (v ++ a) b).atBoundary = (between a b).atBoundary := by
  have hreverse : a.reverse ≠ [] := by simpa using h
  rw [atBoundary_between, atBoundary_between, List.reverse_append, startsWord_append hreverse]

theorem Whole.prepend (h : Whole a w b) (ha : a ≠ []) (v : Text) : Whole (v ++ a) w b := by
  constructor
  · rw [atBoundary_between_append ha]
    exact h.first
  · rw [List.append_assoc, atBoundary_between_append (List.append_ne_nil_of_left_ne_nil ha w)]
    exact h.last

structure Worded (w : Text) : Prop where
  first : startsWord w = true
  last : startsWord w.reverse = true

theorem Worded.ne_nil (h : Worded w) : w ≠ [] := by
  rintro rfl
  cases h.first

theorem Worded.atBoundary_first (h : Worded w) (ha : startsWord a.reverse = false) (b : Text) :
    (between a (w ++ b)).atBoundary = true := by
  rw [atBoundary_between, startsWord_append h.ne_nil, h.first, ha]
  rfl

theorem Worded.atBoundary_last (h : Worded w) (a : Text) (hb : startsWord b = false) :
    (between (a ++ w) b).atBoundary = true := by
  have hreverse : w.reverse ≠ [] := by simpa using h.ne_nil
  rw [atBoundary_between, List.reverse_append, startsWord_append hreverse, h.last, hb]
  rfl

end Cursor

open Cursor

variable {a b t w : Text} {ws : List Text} {c : Char}

theorem hasWord_iff :
    hasWord ws t = true ↔ ∃ a w b, w ∈ ws ∧ t = a ++ w ++ b ∧ Whole a w b := by
  unfold hasWord
  rw [List.any_eq_true]
  constructor
  · rintro ⟨p, hp, hword⟩
    rw [← between_before_ahead p, isSome_pastWord?_between] at hword
    obtain ⟨w, hw, b, hahead, hwhole⟩ := hword
    refine ⟨p.before, w, b, hw, ?_, hwhole⟩
    rw [mem_onward_start.1 hp, hahead, List.append_assoc]
  · rintro ⟨a, w, b, hw, rfl, hwhole⟩
    refine ⟨between a (w ++ b), mem_onward_start.2 ?_, ?_⟩
    · rw [before_between, ahead_between, List.append_assoc]
    · exact isSome_pastWord?_between.2 ⟨w, hw, b, rfl, hwhole⟩

theorem isWordChar_of_isBlank (h : isBlank c = true) : isWordChar c = false := by
  have hall : ∀ r ∈ blankRanges, ∀ n ∈ List.range' r.1 (r.2 + 1 - r.1),
      isWordChar (Char.ofNat n) = false := by
    decide +kernel
  obtain ⟨r, hr, hlo, hhi⟩ := exists_of_inRanges h
  have hmem : c.toNat ∈ List.range' r.1 (r.2 + 1 - r.1) :=
    List.mem_range'_1.2 ⟨hlo, by omega⟩
  have hchar := hall r hr c.toNat hmem
  rwa [Char.ofNat_toNat] at hchar

end Text

end Bilingua
