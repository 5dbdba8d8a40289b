import Bilingua.Command.Rendering
import Bilingua.Proofs.Extraction

/-!
# JSON values and their texts

The text of a value says all of it: no two values have the same one (`Json.text_inj`). A text is read
from its start, and a value ends where it has to, a number at the first character that is no digit, a
string at the first quote that is not escaped, all others at their last character. So the statement
is about values with more text after them, which is empty or starts with a comma or on a new line.
-/

namespace Bilingua.Json

variable {α : Type} {c d : Char} {s t r r' : Text} {l m : Nat} {v : Json}

/-! ## Strings -/

def escaped : List Char := '"' :: '\\' :: (List.range 0x20).map Char.ofNat

theorem escapedChar_of_not_mem (h : c ∉ escaped) : escapedChar c = [c] := by
  have hcontrol : ¬ c.toNat < 0x20 := fun hlt =>
    h (List.mem_cons_of_mem _ (List.mem_cons_of_mem _
      (List.mem_map.2 ⟨c.toNat, List.mem_range.2 hlt, Char.ofNat_toNat c⟩)))
  have hne : ∀ d ∈ escaped, c ≠ d := fun d hd heq => h (heq ▸ hd)
  unfold escapedChar
  rw [if_neg (hne _ (by decide)), if_neg (hne _ (by decide)), if_neg (hne _ (by decide)),
    if_neg (hne _ (by decide)), if_neg (hne _ (by decide)), if_neg (hne _ (by decide)),
    if_neg (hne _ (by decide)), if_neg hcontrol]

theorem escapedChar_of_mem :
    ∀ c ∈ escaped, (escapedChar c).head? = some '\\' ∧
      ∀ d ∈ escaped, escapedChar c <+: escapedChar d → c = d := by
  have hall : escaped.all (fun c => (escapedChar c).head? == some '\\' &&
      escaped.all fun d => !(escapedChar c).isPrefixOf (escapedChar d) || c == d) = true := by
    decide +kernel
  intro c hc
  have hboth := List.all_eq_true.1 hall c hc
  rw [Bool.and_eq_true, beq_iff_eq] at hboth
  refine ⟨hboth.1, fun d hd hstart => ?_⟩
  have hapart := List.all_eq_true.1 hboth.2 d hd
  have hstarts : (escapedChar c).isPrefixOf (escapedChar d) = true :=
    List.isPrefixOf_iff_prefix.2 hstart
  rwa [hstarts, Bool.not_true, Bool.false_or, beq_iff_eq] at hapart

theorem head?_escapedChar (c : Char) :
    (escapedChar c).head? = some (if c ∈ escaped then '\\' else c) := by
  split
  · next hc => exact (escapedChar_of_mem c hc).1
  · next hc => rw [escapedChar_of_not_mem hc]; rfl

/-- No character's code is the start of another's. -/
theorem escapedChar_append_inj (h : escapedChar c ++ r = escapedChar d ++ r') : c = d ∧ r = r' := by
  have hhead : (escapedChar c).head? = (escapedChar d).head? := by
    have happend := congrArg List.head? h
    rw [List.head?_append, List.head?_append, head?_escapedChar, head?_escapedChar] at happend
    rwa [head?_escapedChar, head?_escapedChar]
  have hcd : c = d := by
    rw [head?_escapedChar, head?_escapedChar, Option.some_inj] at hhead
    by_cases hc : c ∈ escaped <;> by_cases hd : d ∈ escaped <;>
      simp only [hc, hd, if_true, if_false] at hhead
    · -- Both are escaped, and one of the codes is the start of the other.
      rcases List.prefix_or_prefix_of_prefix (List.prefix_append _ r) (h ▸ List.prefix_append _ r') with
        hstart | hstart
      · exact (escapedChar_of_mem c hc).2 d hd hstart
      · exact ((escapedChar_of_mem d hd).2 c hc hstart).symm
    · exact absurd (hhead ▸ by decide) hd
    · exact absurd (hhead ▸ by decide) hc
    · exact hhead
  subst hcd
  exact ⟨rfl, List.append_cancel_left h⟩

theorem stringText_append_inj (h : stringText s ++ r = stringText t ++ r') : s = t ∧ r = r' := by
  simp only [stringText, List.cons_append, List.cons.injEq, true_and, List.append_assoc] at h
  have hquote : ∀ (c : Char) (u v : Text), '"' :: u ≠ escapedChar c ++ v := by
    intro c u v heq
    have hhead := congrArg List.head? heq
    rw [List.head?_append, head?_escapedChar, Option.some_or, List.head?_cons, Option.some_inj] at hhead
    split at hhead
    · cases hhead
    · next hc => exact hc (hhead ▸ by decide)
  induction s generalizing t with
  | nil =>
    cases t with
    | nil => exact ⟨rfl, (List.cons.inj h).2⟩
    | cons d t =>
      rw [List.flatMap_cons, List.append_assoc] at h
      exact absurd h (hquote d _ _)
  | cons c s ih =>
    rw [List.flatMap_cons, List.append_assoc] at h
    cases t with
    | nil => exact absurd h.symm (hquote c _ _)
    | cons d t =>
      rw [List.flatMap_cons, List.append_assoc] at h
      obtain ⟨rfl, hrest⟩ := escapedChar_append_inj h
      obtain ⟨rfl, hr⟩ := ih hrest
      exact ⟨rfl, hr⟩

/-! ## Parts separated by commas -/

/-- What may come after a value. -/
def Ends (r : Text) : Prop := ∀ c, r.head? = some c → c = ',' ∨ c = '\n'

theorem ends_nil : Ends [] := fun _ h => nomatch h

theorem ends_comma (r : Text) : Ends (',' :: r) := fun _ h => .inl (Option.some.inj h).symm

theorem ends_newline (r : Text) : Ends ('\n' :: r) := fun _ h => .inr (Option.some.inj h).symm

/-- The text of something says what it is and where it ends. -/
def Told (f : α → Text) (a : α) : Prop :=
  ∀ b r r', Ends r → Ends r' → f a ++ r = f b ++ r' → a = b ∧ r = r'

/-- The parts after the first, each after its comma. -/
def later (f : α → Text) : List α → Text
  | [] => []
  | a :: as => ',' :: f a ++ later f as

theorem ends_later (f : α → Text) (as : List α) (r : Text) : Ends (later f as ++ '\n' :: r) := by
  cases as with
  | nil => exact ends_newline r
  | cons a as => exact ends_comma _

theorem later_append_inj {f : α → Text} {as bs : List α} (h : ∀ a ∈ as, Told f a)
    (heq : later f as ++ '\n' :: r = later f bs ++ '\n' :: r') : as = bs ∧ r = r' := by
  induction as generalizing bs with
  | nil =>
    cases bs with
    | nil => exact ⟨rfl, (List.cons.inj heq).2⟩
    | cons b bs => exact absurd (List.cons.inj heq).1 (by decide)
  | cons a as ih =>
    cases bs with
    | nil => exact absurd (List.cons.inj heq).1 (by decide)
    | cons b bs =>
      have htail : f a ++ (later f as ++ '\n' :: r) = f b ++ (later f bs ++ '\n' :: r') := by
        simpa [later] using heq
      obtain ⟨rfl, hrest⟩ :=
        h a List.mem_cons_self b _ _ (ends_later f as r) (ends_later f bs r') htail
      obtain ⟨rfl, hr⟩ := ih (fun a ha => h a (List.mem_cons_of_mem _ ha)) hrest
      exact ⟨rfl, hr⟩

def elementText (l : Nat) (v : Json) : Text := lineStart l ++ textAt l v

def fieldText (l : Nat) (f : Text × Json) : Text :=
  lineStart l ++ stringText f.1 ++ ": ".toList ++ textAt l f.2

theorem elementsText_cons (l : Nat) (v : Json) (vs : List Json) :
    elementsText l (v :: vs) = elementText l v ++ later (elementText l) vs := by
  induction vs generalizing v with
  | nil => simp [elementsText, elementText, later]
  | cons w vs ih => simp [elementsText, ih w, elementText, later]

theorem fieldsText_cons (l : Nat) (f : Text × Json) (fs : List (Text × Json)) :
    fieldsText l (f :: fs) = fieldText l f ++ later (fieldText l) fs := by
  induction fs generalizing f with
  | nil => simp [fieldsText, fieldText, later]
  | cons g fs ih => simp [fieldsText, ih g, fieldText, later]

/-! ## Values -/

def sort : Json → Nat
  | .null => 0
  | .number _ => 1
  | .string _ => 2
  | .array _ => 3
  | .object _ => 4

def sortOf (c : Char) : Nat :=
  if c = 'n' then 0 else if c = '"' then 2 else if c = '[' then 3 else if c = '\x7b' then 4 else 1

theorem exists_head?_textAt (l : Nat) (v : Json) :
    ∃ c, (textAt l v).head? = some c ∧ sortOf c = v.sort := by
  cases v with
  | null => exact ⟨'n', by rw [textAt]; rfl, rfl⟩
  | number n =>
    obtain ⟨c, t, hdigits⟩ := List.exists_cons_of_ne_nil (Nat.toDigits_ne_nil (b := 10) (n := n))
    have hdigit : c.isDigit = true := Text.isDigit_ofNat n c (by
      rw [Text.ofNat, hdigits]
      exact List.mem_cons_self)
    have hne : ∀ d : Char, d.isDigit = false → c ≠ d := by
      rintro d hd rfl
      rw [hd] at hdigit
      cases hdigit
    refine ⟨c, by rw [textAt, Text.ofNat, hdigits]; rfl, ?_⟩
    rw [sortOf, if_neg (hne _ (by decide)), if_neg (hne _ (by decide)), if_neg (hne _ (by decide)),
      if_neg (hne _ (by decide))]
    rfl
  | string t => exact ⟨'"', by rw [textAt]; rfl, rfl⟩
  | array vs => cases vs <;> exact ⟨'[', by rw [textAt]; rfl, rfl⟩
  | object fs => cases fs <;> exact ⟨'\x7b', by rw [textAt]; rfl, rfl⟩

theorem sort_eq {v w : Json} (h : textAt l v ++ r = textAt m w ++ r') : v.sort = w.sort := by
  obtain ⟨c, hc, hsort⟩ := exists_head?_textAt l v
  obtain ⟨d, hd, hsort'⟩ := exists_head?_textAt m w
  have hhead := congrArg List.head? h
  rw [List.head?_append, List.head?_append, hc, hd, Option.some_or, Option.some_or,
    Option.some_inj] at hhead
  rw [← hsort, ← hsort', hhead]

theorem ofNat_append_told (n : Nat) : Told Text.ofNat n := by
  intro m r r' hr hr' h
  have hstops : ∀ {r : Text}, Ends r → ∀ c, r.head? = some c → c.isDigit = false := by
    rintro r hr c hc
    rcases hr c hc with rfl | rfl <;> decide
  obtain ⟨hdigits, hrest⟩ := Text.Run.unique ⟨Text.isDigit_ofNat n, hstops hr⟩
    ⟨Text.isDigit_ofNat m, hstops hr'⟩ h
  exact ⟨Text.ofNat_inj hdigits, hrest⟩

theorem told_elementText (h : Told (textAt l) v) : Told (elementText l) v := by
  intro w r r' hr hr' heq
  rw [elementText, elementText, List.append_assoc, List.append_assoc] at heq
  exact h w r r' hr hr' (List.append_cancel_left heq)

theorem told_fieldText {f : Text × Json} (h : Told (textAt l) f.2) : Told (fieldText l) f := by
  intro g r r' hr hr' heq
  simp only [fieldText, List.append_assoc] at heq
  obtain ⟨hname, hrest⟩ := stringText_append_inj (List.append_cancel_left heq)
  obtain ⟨hvalue, hr⟩ := h g.2 r r' hr hr' (List.append_cancel_left hrest)
  exact ⟨Prod.ext hname hvalue, hr⟩

/-- Parts between brackets, the first of which is on a new line. -/
theorem bracketed_inj {f : α → Text} {as bs : List α} {a b : α}
    (h : ∀ x ∈ a :: as, Told f x) (u : Text)
    (heq : f a ++ later f as ++ '\n' :: u ++ r = f b ++ later f bs ++ '\n' :: u ++ r') :
    a :: as = b :: bs ∧ r = r' := by
  simp only [List.append_assoc, List.cons_append] at heq
  obtain ⟨rfl, hrest⟩ :=
    h a List.mem_cons_self b _ _ (ends_later f as _) (ends_later f bs _) heq
  obtain ⟨rfl, hu⟩ := later_append_inj (fun x hx => h x (List.mem_cons_of_mem _ hx)) hrest
  exact ⟨rfl, List.append_cancel_left hu⟩

theorem told_textAt (l : Nat) (v : Json) : Told (textAt l) v := by
  intro w r r' hr hr' h
  have hsort := sort_eq h
  match v, w with
  | .null, .null =>
    rw [textAt] at h
    exact ⟨rfl, List.append_cancel_left h⟩
  | .number n, .number m =>
    rw [textAt, textAt] at h
    obtain ⟨rfl, hrest⟩ := ofNat_append_told n m r r' hr hr' h
    exact ⟨rfl, hrest⟩
  | .string s, .string t =>
    rw [textAt, textAt] at h
    obtain ⟨rfl, hrest⟩ := stringText_append_inj h
    exact ⟨rfl, hrest⟩
  | .array [], .array [] =>
    rw [textAt] at h
    exact ⟨rfl, List.append_cancel_left h⟩
  | .array [], .array (w :: ws) =>
    rw [textAt, textAt, elementsText_cons, elementText, lineStart] at h
    exact absurd (List.cons.inj (List.cons.inj h).2).1 (by decide)
  | .array (v :: vs), .array [] =>
    rw [textAt, textAt, elementsText_cons, elementText, lineStart] at h
    exact absurd (List.cons.inj (List.cons.inj h).2).1 (by decide)
  | .array (v :: vs), .array (w :: ws) =>
    rw [textAt, textAt, elementsText_cons, elementsText_cons] at h
    have htold : ∀ x ∈ v :: vs, Told (elementText (l + 1)) x := fun x hx =>
      told_elementText (told_textAt (l + 1) x)
    obtain ⟨heq, hrest⟩ := bracketed_inj htold (List.replicate (2 * l) ' ' ++ [']'])
      (by simpa [lineStart] using h)
    exact ⟨congrArg Json.array heq, hrest⟩
  | .object [], .object [] =>
    rw [textAt] at h
    exact ⟨rfl, List.append_cancel_left h⟩
  | .object [], .object (g :: gs) =>
    rw [textAt, textAt, fieldsText_cons, fieldText, lineStart] at h
    exact absurd (List.cons.inj (List.cons.inj h).2).1 (by decide)
  | .object (f :: fs), .object [] =>
    rw [textAt, textAt, fieldsText_cons, fieldText, lineStart] at h
    exact absurd (List.cons.inj (List.cons.inj h).2).1 (by decide)
  | .object (f :: fs), .object (g :: gs) =>
    rw [textAt, textAt, fieldsText_cons, fieldsText_cons] at h
    have htold : ∀ x ∈ f :: fs, Told (fieldText (l + 1)) x := fun x hx =>
      told_fieldText (told_textAt (l + 1) x.2)
    obtain ⟨heq, hrest⟩ := bracketed_inj htold (List.replicate (2 * l) ' ' ++ ['\x7d'])
      (by simpa [lineStart] using h)
    exact ⟨congrArg Json.object heq, hrest⟩
termination_by v
decreasing_by
  · have hlt := List.sizeOf_lt_of_mem hx
    simp only [array.sizeOf_spec]
    omega
  · have hlt := List.sizeOf_lt_of_mem hx
    have hpair : sizeOf x = 1 + sizeOf x.1 + sizeOf x.2 := rfl
    simp only [object.sizeOf_spec]
    omega

theorem text_inj {v w : Json} (h : v.text = w.text) : v = w :=
  (told_textAt 0 v w [] [] ends_nil ends_nil (congrArg (· ++ []) h)).1

end Bilingua.Json

namespace Bilingua.Rendering

/-! ## Reports -/

theorem rangeJson_inj {a b : Range} (h : rangeJson a = rangeJson b) : a = b := by
  obtain ⟨⟨l, c⟩, ⟨l', c'⟩⟩ := a
  obtain ⟨⟨m, d⟩, ⟨m', d'⟩⟩ := b
  simpa [rangeJson, and_assoc] using h

theorem codeText_inj {a b : Code} (h : a.text = b.text) : a = b := by
  cases a <;> cases b <;> first | rfl | exact absurd h (by decide)

theorem findingJson_inj {f g : Finding} (h : findingJson f = findingJson g) : f = g := by
  obtain ⟨range, code, message⟩ := f
  obtain ⟨range', code', message'⟩ := g
  simp only [findingJson, Json.object.injEq, List.cons.injEq, Prod.mk.injEq, true_and, and_true,
    Json.string.injEq] at h
  obtain ⟨hrange, -, hcode, rfl⟩ := h
  rw [rangeJson_inj hrange, codeText_inj hcode]

theorem reportJson_inj {r r' : Text × List Finding} (h : reportJson r.1 r.2 = reportJson r'.1 r'.2) :
    r = r' := by
  simp only [reportJson, Json.object.injEq, List.cons.injEq, Prod.mk.injEq, true_and, and_true,
    Json.string.injEq, Json.array.injEq] at h
  exact Prod.ext h.1 (List.map_injective_iff.2 (fun _ _ => findingJson_inj) h.2)

theorem reports_inj {rs rs' : List (Text × List Finding)}
    (h : (Json.array (rs.map fun r => reportJson r.1 r.2)).text =
      (Json.array (rs'.map fun r => reportJson r.1 r.2)).text) : rs = rs' :=
  List.map_injective_iff.2 (fun _ _ => reportJson_inj) (Json.array.inj (Json.text_inj h))

end Bilingua.Rendering
