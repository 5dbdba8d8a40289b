import Bilingua.Outline.Symbol
import Bilingua.Proofs.LeadingKeywords
import Bilingua.Proofs.Occurrences
import Bilingua.Proofs.WholeWords
import Mathlib.Data.List.TakeWhile

/-!
# What a line is taken apart into

A line that introduces a symbol is its leading keyword, then a name after blanks, or a description,
a form of `appelé`, blanks and a name. `Symbol.ofFunction?_eq_some_iff` and
`Symbol.ofDeclaration?_eq_some_iff` say so exactly: which lines give a symbol, and where its parts
stand. The texts that they speak of are written one after the other, so that a place in the line is
the length of what comes before it.
-/

namespace Bilingua

/-! ## Runs of characters -/

namespace Text

/-- The characters of a class at the start of a text, as far as they go, and what comes then. -/
structure Run (p : Char → Bool) (w rest : Text) : Prop where
  all : ∀ c ∈ w, p c = true
  stops : ∀ c, rest.head? = some c → p c = false

variable {p : Char → Bool} {t u w rest w' rest' : Text}

theorem run_takeWhile (p : Char → Bool) (t : Text) : Run p (t.takeWhile p) (t.dropWhile p) := by
  refine ⟨fun c hc => List.mem_takeWhile_imp hc, fun c hc => ?_⟩
  have hstop := List.head?_dropWhile_not p t
  rw [hc] at hstop
  exact hstop

theorem Run.dropWhile (h : Run p w rest) : (w ++ rest).dropWhile p = rest := by
  rw [List.dropWhile_append_of_pos h.all]
  cases rest with
  | nil => rfl
  | cons c rest => exact List.dropWhile_cons_of_neg (by simp [h.stops c rfl])

theorem Run.takeWhile (h : Run p w rest) : (w ++ rest).takeWhile p = w := by
  rw [List.takeWhile_append_of_pos h.all]
  cases rest with
  | nil => simp
  | cons c rest => rw [List.takeWhile_cons_of_neg (by simp [h.stops c rfl]), List.append_nil]

theorem Run.unique (h : Run p w rest) (h' : Run p w' rest') (heq : w ++ rest = w' ++ rest') :
    w = w' ∧ rest = rest' := by
  constructor
  · rw [← h.takeWhile, heq, h'.takeWhile]
  · rw [← h.dropWhile, heq, h'.dropWhile]

theorem nonempty?_eq_some : nonempty? t = some u ↔ t ≠ [] ∧ u = t := by
  cases t with
  | nil => simp [nonempty?]
  | cons c t => simp [nonempty?, eq_comm]

end Text

namespace Symbol

open Text Cursor

/-- A text that can be a name: it is not empty and holds neither blanks nor punctuation. -/
structure IsName (name : Text) : Prop where
  ne_nil : name ≠ []
  chars : ∀ c ∈ name, isBlank c = false ∧ c ∉ ".,;:()".toList

/-- A name after blanks, as far as it goes, and what comes then. -/
structure Named (blanks name more : Text) : Prop where
  blank : ∀ c ∈ blanks, isBlank c = true
  isName : IsName name
  stops : ∀ c, more.head? = some c → isNameChar c = false

variable {i : Nat} {line t a b w form form' blanks name more rest rest' detail : Text}
  {skipped offset : Nat} {s : Symbol} {c : Char}

/-! ## Names -/

theorem isNameChar_iff : isNameChar c = true ↔ isBlank c = false ∧ c ∉ ".,;:()".toList := by
  unfold isNameChar
  rw [Bool.and_eq_true, Bool.not_eq_true', Bool.not_eq_true', List.contains_eq_mem,
    decide_eq_false_iff_not]

theorem isName_iff : IsName name ↔ name ≠ [] ∧ name.all isNameChar = true := by
  simp only [List.all_eq_true, isNameChar_iff]
  exact ⟨fun h => ⟨h.ne_nil, h.chars⟩, fun h => ⟨h.1, h.2⟩⟩

instance (name : Text) : Decidable (IsName name) := decidable_of_iff _ isName_iff.symm

theorem IsName.run (h : IsName name) (hstops : ∀ c, more.head? = some c → isNameChar c = false) :
    Run isNameChar name more :=
  ⟨fun c hc => isNameChar_iff.2 (h.chars c hc), hstops⟩

theorem Named.run (h : Named blanks name more) : Run isBlank blanks (name ++ more) := by
  refine ⟨h.blank, fun c hc => ?_⟩
  rw [List.head?_append_of_ne_nil _ h.isName.ne_nil] at hc
  exact (h.isName.chars c (List.mem_of_head? hc)).1

theorem leadingName?_eq_some : leadingName? t = some (skipped, name) ↔
    ∃ blanks more, t = blanks ++ (name ++ more) ∧ Named blanks name more ∧
      skipped = blanks.length := by
  unfold leadingName?
  simp only [Option.map_eq_some_iff, nonempty?_eq_some, Prod.mk.injEq]
  constructor
  · rintro ⟨u, ⟨hne, rfl⟩, rfl, rfl⟩
    have hname := run_takeWhile isNameChar t.trimStart
    refine ⟨t.takeWhile isBlank, t.trimStart.dropWhile isNameChar, ?_, ?_, rfl⟩
    · rw [List.takeWhile_append_dropWhile]
      exact List.takeWhile_append_dropWhile.symm
    · exact ⟨(run_takeWhile isBlank t).all, ⟨hne, fun c hc => isNameChar_iff.1 (hname.all c hc)⟩,
        hname.stops⟩
  · rintro ⟨blanks, more, rfl, h, rfl⟩
    have htrim : Text.trimStart (blanks ++ (name ++ more)) = name ++ more := h.run.dropWhile
    refine ⟨name, ?_, ?_, rfl⟩
    · rw [htrim, (h.isName.run h.stops).takeWhile]
      exact ⟨h.isName.ne_nil, rfl⟩
    · rw [h.run.takeWhile]

/-! ## Functions -/

/-- Exactly the lines that start with the opener of a function and a name give one. -/
theorem ofFunction?_eq_some_iff : ofFunction? i line = some s ↔
    ∃ l blanks name more,
      line.trim = (Keyword.opener .function).spelling l ++ (blanks ++ (name ++ more)) ∧
      Keyword.endsHere (blanks ++ (name ++ more)) = true ∧ Named blanks name more ∧
      s = onLine i line .function (((Keyword.opener .function).spelling l).length + blanks.length)
        name (parameters? (blanks ++ (name ++ more))) := by
  unfold ofFunction?
  simp only [Option.bind_eq_some_iff, Option.map_eq_some_iff,
    Keyword.after?_eq_some_iff (show .opener .function ∈ Keyword.leading by decide)]
  constructor
  · rintro ⟨rest, ⟨l, htrim, hends⟩, ⟨skipped, name⟩, hname, rfl⟩
    obtain ⟨blanks, more, rfl, hnamed, rfl⟩ := leadingName?_eq_some.1 hname
    refine ⟨l, blanks, name, more, htrim, hends, hnamed, ?_⟩
    rw [htrim, List.length_append, Nat.add_sub_cancel]
  · rintro ⟨l, blanks, name, more, htrim, hends, hnamed, rfl⟩
    refine ⟨_, ⟨l, htrim, hends⟩, (blanks.length, name),
      leadingName?_eq_some.2 ⟨blanks, more, rfl, hnamed, rfl⟩, ?_⟩
    rw [htrim, List.length_append, Nat.add_sub_cancel]

theorem parameters?_eq_some (h : parameters? rest = some detail) :
    ∃ a w b, w ∈ Keyword.takesParameters.spellings ∧ rest = a ++ (w ++ b) ∧ Whole a w b ∧
      detail = b.trimStart.dropPeriod.trim ∧ detail ≠ [] := by
  unfold parameters? at h
  obtain ⟨t, ht, hdetail⟩ := Option.bind_eq_some_iff.1 h
  obtain ⟨a, b, rfl, hat, _⟩ := findSome?_onward_eq_some.1 ht
  obtain ⟨q, hq, hq'⟩ := Option.bind_eq_some_iff.1 hat
  obtain ⟨w, hw, b, rfl, rfl, hwhole⟩ := pastWord?_between_eq_some hq
  simp only at hq'
  split at hq'
  · cases hq'
  · obtain rfl := Option.some_inj.1 hq'
    obtain ⟨hne, rfl⟩ := nonempty?_eq_some.1 hdetail
    exact ⟨a, w, b, hw, rfl, hwhole, rfl, hne⟩

theorem takesParameters_unique (hw : w ∈ Keyword.takesParameters.spellings) {w' b' : Text}
    (hw' : w' ∈ Keyword.takesParameters.spellings) (h : w ++ b = w' ++ b') : w = w' ∧ b = b' := by
  -- The spellings differ in their first letters.
  have hall : ∀ w ∈ Keyword.takesParameters.spellings, ∀ w' ∈ Keyword.takesParameters.spellings,
      w.head? = w'.head? → w = w' := by
    decide
  have hne : ∀ w ∈ Keyword.takesParameters.spellings, w ≠ [] := by decide
  have hhead := congrArg List.head? h
  rw [List.head?_append_of_ne_nil _ (hne w hw), List.head?_append_of_ne_nil _ (hne w' hw')] at hhead
  obtain rfl := hall w hw w' hw' hhead
  exact ⟨rfl, List.append_cancel_left h⟩

/-- The first connective is the one that counts, if no line feed comes after it. -/
theorem parameters?_of_first (hw : w ∈ Keyword.takesParameters.spellings) (hwhole : Whole a w b)
    (hline : '\n' ∉ b.trimStart)
    (hfirst : PassesOver Keyword.takesParameters.spellings a (w ++ b)) :
    parameters? (a ++ (w ++ b)) = nonempty? b.trimStart.dropPeriod.trim := by
  have hpast : (between a (w ++ b)).pastWord? Keyword.takesParameters.spellings =
      some (between (a ++ w) b) := by
    have hsome := isSome_pastWord?_between.2 ⟨w, hw, b, rfl, hwhole⟩
    obtain ⟨q, hq⟩ := Option.isSome_iff_exists.1 hsome
    obtain ⟨w', hw', b', heq, rfl, _⟩ := pastWord?_between_eq_some hq
    obtain ⟨rfl, rfl⟩ := takesParameters_unique hw hw' heq
    exact hq
  unfold parameters?
  rw [findSome?_onward_eq_some.2 ⟨a, w ++ b, rfl, ?_, fun a' u ha hu => ?_⟩]
  · rfl
  · rw [hpast]
    simp [hline]
  · rw [pastWord?_eq_none (hfirst u ⟨a', ha.symm⟩ hu)]
    rfl

/-! ## Declarations -/

/-- A form of `appelé` that starts a word, blanks, and a name. -/
structure Called (a form blanks name more : Text) : Prop where
  mem_forms : form ∈ Line.calledForms
  first : (between a (form ++ (blanks ++ (name ++ more)))).atBoundary = true
  spaced : blanks ≠ []
  named : Named blanks name more

theorem Named.startsWord_eq_false (h : Named blanks name more) (hne : blanks ≠ []) (rest : Text) :
    startsWord (blanks ++ rest) = false := by
  cases blanks with
  | nil => exact absurd rfl hne
  | cons c blanks => exact isWordChar_of_isBlank (h.blank c List.mem_cons_self)

theorem run_calledForm (h : form ∈ Line.calledForms) (hrest : startsWord rest = false) :
    Run isWordChar form rest := by
  have hall : ∀ form ∈ Line.calledForms, form.all isWordChar = true := by decide +kernel
  refine ⟨List.all_eq_true.1 (hall form h), fun c hc => ?_⟩
  cases rest with
  | nil => cases hc
  | cons d rest =>
    obtain rfl := Option.some_inj.1 hc
    exact hrest

/-- Of two forms that fit at one place, both are the whole word there, and so all that follows is
the same too. -/
theorem called_unique {blanks' name' more' : Text} (hform : form ∈ Line.calledForms)
    (hform' : form' ∈ Line.calledForms) (hne : blanks ≠ []) (hne' : blanks' ≠ [])
    (h : Named blanks name more) (h' : Named blanks' name' more')
    (heq : form ++ (blanks ++ (name ++ more)) = form' ++ (blanks' ++ (name' ++ more'))) :
    form = form' ∧ blanks = blanks' ∧ name = name' := by
  obtain ⟨rfl, hblanks⟩ := (run_calledForm hform (h.startsWord_eq_false hne _)).unique
    (run_calledForm hform' (h'.startsWord_eq_false hne' _)) heq
  obtain ⟨rfl, hnames⟩ := h.run.unique h'.run hblanks
  obtain ⟨rfl, _⟩ := (h.isName.run h.stops).unique (h'.isName.run h'.stops) hnames
  exact ⟨rfl, rfl, rfl⟩

theorem nameAfterForm_eq_some {x : Nat × Text} : (((between a t).past? form).bind fun q =>
      (leadingName? q.ahead).bind fun (skipped, name) =>
        if skipped = 0 then none else some (q.behind.length + skipped, name)) = some x ↔
    ∃ blanks more, t = form ++ (blanks ++ (x.2 ++ more)) ∧ blanks ≠ [] ∧
      Named blanks x.2 more ∧ x.1 = a.length + form.length + blanks.length := by
  obtain ⟨offset, name⟩ := x
  simp only [Option.bind_eq_some_iff, past?_between_eq_some, Option.ite_none_left_eq_some,
    Option.some_inj, Prod.mk.injEq]
  constructor
  · rintro ⟨q, ⟨b, rfl, rfl⟩, ⟨skipped, u⟩, hname, hne, rfl, rfl⟩
    obtain ⟨blanks, more, hb, hnamed, rfl⟩ := leadingName?_eq_some.1 hname
    rw [ahead_between] at hb
    refine ⟨blanks, more, by rw [hb], fun hnil => hne (by simp [hnil]), hnamed, ?_⟩
    simp
  · rintro ⟨blanks, more, rfl, hne, hnamed, rfl⟩
    refine ⟨_, ⟨_, rfl, rfl⟩, (blanks.length, name),
      leadingName?_eq_some.2 ⟨blanks, more, rfl, hnamed, rfl⟩, ?_, ?_, rfl⟩
    · simpa using hne
    · simp

theorem nameAfterCalled?_eq_some : nameAfterCalled? (between a t) = some (offset, name) ↔
    ∃ form blanks more, t = form ++ (blanks ++ (name ++ more)) ∧ Called a form blanks name more ∧
      offset = a.length + form.length + blanks.length := by
  unfold nameAfterCalled?
  split
  · next hfirst =>
    rw [findSome?_eq_some_iff_exists]
    · simp only [nameAfterForm_eq_some]
      constructor
      · rintro ⟨form, hmem, blanks, more, rfl, hne, hnamed, rfl⟩
        exact ⟨form, blanks, more, rfl, ⟨hmem, hfirst, hne, hnamed⟩, rfl⟩
      · rintro ⟨form, blanks, more, rfl, hcalled, rfl⟩
        exact ⟨form, hcalled.mem_forms, blanks, more, rfl, hcalled.spaced, hcalled.named, rfl⟩
    · intro form hmem form' hmem' x y hx hy
      obtain ⟨blanks, more, rfl, hne, hnamed, hoffset⟩ := nameAfterForm_eq_some.1 hx
      obtain ⟨blanks', more', heq, hne', hnamed', hoffset'⟩ := nameAfterForm_eq_some.1 hy
      obtain ⟨rfl, rfl, hname⟩ := called_unique hmem hmem' hne hne' hnamed hnamed' heq
      exact Prod.ext (hoffset.trans hoffset'.symm) hname
  · next hfirst =>
    simp only [reduceCtorEq, false_iff]
    rintro ⟨form, blanks, more, rfl, hcalled, _⟩
    exact hfirst hcalled.first

/-- Exactly the lines that start with the keyword of a declaration and have a form of `appelé`
before a name somewhere then give a variable. The first such form counts. -/
theorem ofDeclaration?_eq_some_iff : ofDeclaration? i line = some s ↔
    ∃ l a form blanks name more,
      line.trim = Keyword.declaration.spelling l ++ (a ++ (form ++ (blanks ++ (name ++ more)))) ∧
      Keyword.endsHere (a ++ (form ++ (blanks ++ (name ++ more)))) = true ∧
      Called a form blanks name more ∧
      (∀ a' u, a = a' ++ u → u ≠ [] →
        nameAfterCalled? (between a' (u ++ (form ++ (blanks ++ (name ++ more))))) = none) ∧
      s = onLine i line .variable
        ((Keyword.declaration.spelling l).length + (a.length + form.length + blanks.length))
        name (nonempty? a.trim) := by
  unfold ofDeclaration?
  simp only [Option.bind_eq_some_iff, findSome?_onward_eq_some, Option.map_eq_some_iff,
    Option.map_eq_none_iff, before_between,
    Keyword.after?_eq_some_iff (show .declaration ∈ Keyword.leading by decide)]
  constructor
  · rintro ⟨rest, ⟨l, htrim, hends⟩, a, b, rfl, ⟨⟨offset, name⟩, hname, rfl⟩, hfirst⟩
    obtain ⟨form, blanks, more, rfl, hcalled, rfl⟩ := nameAfterCalled?_eq_some.1 hname
    refine ⟨l, a, form, blanks, name, more, htrim, hends, hcalled, hfirst, ?_⟩
    rw [htrim, List.length_append, Nat.add_sub_cancel]
  · rintro ⟨l, a, form, blanks, name, more, htrim, hends, hcalled, hfirst, rfl⟩
    refine ⟨_, ⟨l, htrim, hends⟩, a, _, rfl, ⟨(_, name),
      nameAfterCalled?_eq_some.2 ⟨form, blanks, more, rfl, hcalled, rfl⟩, ?_⟩, hfirst⟩
    rw [htrim, List.length_append, Nat.add_sub_cancel]

end Symbol

end Bilingua
