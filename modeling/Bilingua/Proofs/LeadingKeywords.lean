import Bilingua.Keyword

/-!
# Leading keywords

No text starts with two spellings of leading keywords: where one of them goes on after the other,
as `Sinon` after `Si`, it goes on with a letter, and the shorter one does not end there. So
`Keyword.after?_eq_some_iff` can say what it finds without the order in which the spellings are
tried.
-/

namespace Bilingua

namespace Keyword

def leading : List Keyword :=
  Construct.all.map .opener ++ [.elseBranch, .declaration, .assignment, .display]

def leadingSpellings : List (Keyword × Language) :=
  leading.flatMap fun k => Language.all.map fun l => (k, l)

variable {k k' : Keyword} {l l' : Language} {w v t rest : Text}

theorem mem_leadingSpellings (hk : k ∈ leading) : (k, l) ∈ leadingSpellings :=
  List.mem_flatMap.2 ⟨k, hk, List.mem_map.2 ⟨l, Language.mem_all l, rfl⟩⟩

/-- A text where the keyword `w` ends does not start with `v`: one character differs, or `v` is the
longer one and goes on with a character that would continue the keyword. -/
def excludes : Text → Text → Bool
  | _, [] => false
  | [], c :: _ => continues c
  | a :: w, c :: v => a != c || excludes w v

/-- The text `w` goes on after `v` with a character that would continue the keyword. -/
def outgrows (w v : Text) : Bool :=
  match w.dropStart? v with
  | some (c :: _) => continues c
  | _ => false

theorem append_ne_of_excludes (h : excludes w v = true) (hr : endsHere rest = true) (r : Text) :
    w ++ rest ≠ v ++ r := by
  induction w generalizing v with
  | nil =>
    cases v with
    | nil => cases h
    | cons c v =>
      -- What comes after the keyword would start with the character that continues it.
      have hcontinues : continues c = true := h
      intro heq
      rw [List.nil_append] at heq
      rw [heq] at hr
      simp [endsHere, hcontinues] at hr
  | cons a w ih =>
    cases v with
    | nil => cases h
    | cons c v =>
      intro heq
      rw [List.cons_append, List.cons_append, List.cons_eq_cons] at heq
      have hlater : excludes w v = true := by
        simpa [excludes, heq.1] using h
      exact ih hlater heq.2

theorem dropStart?_of_excludes (h : excludes w v = true) (hr : endsHere rest = true) :
    (w ++ rest : Text).dropStart? v = none := by
  rw [Option.eq_none_iff_forall_ne_some]
  intro r hr'
  exact append_ne_of_excludes h hr r (Text.dropStart?_eq_some.1 hr')

theorem afterSpelling?_of_excludes (h : excludes w v = true) (hr : endsHere rest = true) :
    afterSpelling? v (w ++ rest) = none := by
  unfold afterSpelling?
  rw [dropStart?_of_excludes h hr]
  rfl

theorem afterSpelling?_of_outgrows (h : outgrows w v = true) :
    afterSpelling? v (w ++ rest) = none := by
  unfold outgrows at h
  split at h
  · next c u hu =>
    have hw : (w ++ rest : Text).dropStart? v = some (c :: u ++ rest) := by
      rw [Text.dropStart?_eq_some, Text.dropStart?_eq_some.1 hu, List.append_assoc]
    unfold afterSpelling?
    rw [hw]
    exact Option.filter_some_neg (by simp [endsHere, h])
  · cases h

theorem afterSpelling?_eq_some :
    afterSpelling? w t = some rest ↔ t = w ++ rest ∧ endsHere rest = true := by
  unfold afterSpelling?
  rw [Option.filter_eq_some_iff, Text.dropStart?_eq_some]

/-- No spelling of a leading keyword starts where another one ends. -/
theorem spellings_apart : ∀ p ∈ leadingSpellings, ∀ q ∈ leadingSpellings, p ≠ q →
    excludes (p.1.spelling p.2) (q.1.spelling q.2) = true ∨
      outgrows (p.1.spelling p.2) (q.1.spelling q.2) = true := by
  decide +kernel

theorem afterSpelling?_of_ne (hk : k ∈ leading) (hk' : k' ∈ leading) (hne : (k, l) ≠ (k', l'))
    (hr : endsHere rest = true) :
    afterSpelling? (k'.spelling l') (k.spelling l ++ rest) = none := by
  rcases spellings_apart _ (mem_leadingSpellings hk) _ (mem_leadingSpellings hk') hne with h | h
  · exact afterSpelling?_of_excludes h hr
  · exact afterSpelling?_of_outgrows h

theorem after?_eq_some_iff (hk : k ∈ leading) :
    k.after? t = some rest ↔ ∃ l, t = k.spelling l ++ rest ∧ endsHere rest = true := by
  constructor
  · intro h
    obtain ⟨l, _, hl⟩ := List.exists_of_findSome?_eq_some h
    exact ⟨l, afterSpelling?_eq_some.1 hl⟩
  · rintro ⟨l, rfl, hr⟩
    have hself : afterSpelling? (k.spelling l) (k.spelling l ++ rest) = some rest :=
      afterSpelling?_eq_some.2 ⟨rfl, hr⟩
    cases l with
    | french => simp [after?, Language.all, hself]
    | english =>
      have hother : afterSpelling? (k.spelling .french) (k.spelling .english ++ rest) = none :=
        afterSpelling?_of_ne hk hk (by simp) hr
      simp [after?, Language.all, hself, hother]

/-- Where a leading keyword ends, no other one does. -/
theorem after?_of_ne (hk : k ∈ leading) (hk' : k' ∈ leading) (hne : k' ≠ k)
    (hr : endsHere rest = true) : k'.after? (k.spelling l ++ rest) = none := by
  refine List.findSome?_eq_none_iff.2 fun l' _ => afterSpelling?_of_ne hk hk' ?_ hr
  intro heq
  exact hne (Prod.mk.inj heq).1.symm

theorem after?_closer {c : Construct} (hk : k ∈ leading) : k.after? (c.closer l) = none := by
  have hall : ∀ k ∈ leading, ∀ c ∈ Construct.all, ∀ l ∈ Language.all,
      k.after? (c.closer l) = none := by
    decide +kernel
  exact hall k hk c (Construct.mem_all c) l (Language.mem_all l)

end Keyword

end Bilingua
