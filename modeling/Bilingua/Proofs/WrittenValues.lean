import Bilingua.Toml.Document
import Mathlib.Algebra.Group.Nat.Defs
import Mathlib.Data.List.Forall2

/-!
# Values as they are written

A text in quotes may be written in many ways, since each character of it can be written as an escape
and some have to be. All of them are `Spelled`, and what is spelled is read back (`basicRest_spelled`).
A number is written in decimal digits. `WrittenValue` has these and a few more ways of writing a value,
by the text alone, and `WrittenValue.readAs` says that the reader knows all of them.

What stands at the end of a line is read as a value if no longer value could stand there. For digits
this is the work of `AtLineEnd`: neither a point nor an exponent comes after them that would make
them a float, nor a dash or a colon that would make them a date or a time.
-/

namespace Bilingua.Toml

/-! ## Strings -/

/-- A control character. The tab does not count as one: it may stand in a text as it is. -/
def isControl (c : Char) : Bool := c != '\t' && (c.toNat < 0x20 || c.toNat == 0x7F)

def escapeLetters : List (Char × Char) :=
  [('b', '\x08'), ('t', '\t'), ('n', '\n'), ('f', '\x0c'), ('r', '\r'), ('"', '"'), ('\\', '\\')]

/-- The character is the digit of that value in base sixteen, in either case. -/
def IsHexDigit (c : Char) (d : Nat) : Prop :=
  "0123456789abcdef".toList[d]? = some c ∨ "0123456789ABCDEF".toList[d]? = some c

def HexNumber (digits : Text) (n : Nat) : Prop :=
  ∃ ds, List.Forall₂ IsHexDigit digits ds ∧ n = ds.foldl (fun n d => 16 * n + d) 0

/-- How a character may be written between double quotes. -/
inductive SpelledChar : Char → Text → Prop where
  | plain {c : Char} (hcontrol : isControl c = false) (hquote : c ≠ '"') (hbackslash : c ≠ '\\') :
      SpelledChar c [c]
  | letter {l c : Char} (h : (l, c) ∈ escapeLetters) : SpelledChar c ['\\', l]
  | short {c : Char} {digits : Text} (hlength : digits.length = 4) (h : HexNumber digits c.toNat) :
      SpelledChar c ('\\' :: 'u' :: digits)
  | long {c : Char} {digits : Text} (hlength : digits.length = 8) (h : HexNumber digits c.toNat) :
      SpelledChar c ('\\' :: 'U' :: digits)

/-- How a text may be written between double quotes, each character in its own way. -/
inductive Spelled : Text → Text → Prop where
  | nil : Spelled [] []
  | cons {c : Char} {s u w : Text} (hc : SpelledChar c u) (hs : Spelled s w) :
      Spelled (c :: s) (u ++ w)

variable {c : Char} {s t u w rest digits : Text} {ds : List Nat} {d n : Nat}

theorem isVisible_eq (c : Char) : isVisible c = !isControl c := by
  have htab : c = '\t' ↔ c.toNat = 9 := by
    rw [← Char.toNat_inj]
    rfl
  rw [Bool.eq_iff_iff]
  simp only [isVisible, isControl, Bool.or_eq_true, Bool.and_eq_true, Bool.not_eq_true',
    Bool.and_eq_false_iff, Bool.or_eq_false_iff, beq_iff_eq, bne_eq_false_iff_eq, decide_eq_true_eq,
    decide_eq_false_iff_not, beq_eq_false_iff_ne, htab]
  omega

theorem hexDigit?_eq (h : IsHexDigit c d) : hexDigit? c = some d := by
  have hall : ∀ table ∈ ["0123456789abcdef".toList, "0123456789ABCDEF".toList],
      ∀ d, d < table.length → (table[d]?.bind hexDigit?) = some d := by
    decide +kernel
  have htable : ∀ table ∈ ["0123456789abcdef".toList, "0123456789ABCDEF".toList],
      table[d]? = some c → hexDigit? c = some d := by
    intro table hmem hc
    have hd := hall table hmem d (List.getElem?_eq_some_iff.1 hc).1
    rwa [hc] at hd
  rcases h with h | h
  · exact htable _ (by simp) h
  · exact htable _ (by simp) h

theorem scalar?_toNat (c : Char) : scalar? c.toNat = some c := by
  have hvalid : c.toNat.isValidChar := c.valid
  rw [scalar?, if_pos hvalid, Char.ofNat_toNat]

theorem basicRest_digits (h : List.Forall₂ IsHexDigit digits ds) (hne : digits ≠ []) (v : Nat)
    (t : Text) (hc : ds.foldl (fun n d => 16 * n + d) v = c.toNat) :
    basicRest (some (.digits digits.length v)) (digits ++ t) = push c (basicRest none t) := by
  induction h generalizing v with
  | nil => exact absurd rfl hne
  | @cons x d digits ds hx hrest ih =>
    rw [List.foldl_cons] at hc
    rw [List.cons_append, basicRest]
    simp only [Escape.step, hexDigit?_eq hx, Option.bind_some, List.length_cons]
    cases digits with
    | nil =>
      cases hrest
      rw [List.foldl_nil] at hc
      simp [hc, scalar?_toNat]
    | cons y digits =>
      have hmissing : ¬ (y :: digits).length + 1 ≤ 1 := by simp
      simp only [if_neg hmissing, Nat.add_sub_cancel]
      exact ih (List.cons_ne_nil y digits) _ hc

theorem basicRest_hexNumber {k : Nat} (hlength : digits.length = k + 1)
    (h : HexNumber digits c.toNat) (t : Text) :
    basicRest (some (.digits (k + 1) 0)) (digits ++ t) = push c (basicRest none t) := by
  obtain ⟨ds, hdigits, hvalue⟩ := h
  rw [← hlength]
  exact basicRest_digits hdigits (by rintro rfl; cases hlength) 0 t hvalue.symm

theorem basicRest_spelledChar (h : SpelledChar c u) (t : Text) :
    basicRest none (u ++ t) = push c (basicRest none t) := by
  cases h with
  | plain hcontrol hquote hbackslash =>
    have hbasic : isBasicChar c = true := by
      simp [isBasicChar, isVisible_eq, hcontrol, hquote, hbackslash]
    simp [basicRest, hquote, hbackslash, hbasic]
  | @letter l c h =>
    have hall : escapeLetters.all (fun p => Escape.letter.step p.1 = some (.inr p.2)) = true := by decide
    have hstep : Escape.letter.step l = some (.inr c) :=
      of_decide_eq_true (List.all_eq_true.1 hall (l, c) h)
    simp [basicRest, hstep]
  | short hlength h =>
    rw [← basicRest_hexNumber hlength h]
    simp [basicRest, Escape.step]
  | long hlength h =>
    rw [← basicRest_hexNumber hlength h]
    simp [basicRest, Escape.step]

/-- A text is read back from between its quotes, however it is written there. -/
theorem basicRest_spelled (h : Spelled s w) (rest : Text) :
    basicRest none (w ++ '"' :: rest) = some (s, rest) := by
  induction h with
  | nil => simp [basicRest]
  | cons hc _ ih => rw [List.append_assoc, basicRest_spelledChar hc, ih, push]

theorem string_quote (h : ∀ u, t ≠ '"' :: '"' :: u) : string ('"' :: t) = basicRest none t := by
  rw [string]
  intro u hu
  exact h u hu

theorem SpelledChar.head?_ne (h : SpelledChar c u) (t : Text) : (u ++ t).head? ≠ some '"' := by
  cases h with
  | plain hcontrol hquote => simpa using hquote
  | letter => simp
  | short => simp
  | long => simp

/-- A text in double quotes is read as a string of one line, if no third quote comes after two. -/
theorem string_spelled (h : Spelled s w) (hrest : rest.head? ≠ some '"') :
    string ('"' :: (w ++ '"' :: rest)) = some (s, rest) := by
  rw [string_quote ?_, basicRest_spelled h]
  intro u hu
  cases h with
  | nil =>
    rw [List.nil_append, List.cons_eq_cons] at hu
    exact hrest (by rw [hu.2]; rfl)
  | cons hc hs =>
    rw [List.append_assoc] at hu
    exact hc.head?_ne _ (by rw [hu]; rfl)

theorem literalRest_eq (hcontrol : ∀ c ∈ s, isControl c = false) (hquote : '\'' ∉ s) (rest : Text) :
    literalRest (s ++ '\'' :: rest) = some (s, rest) := by
  induction s with
  | nil => simp [literalRest]
  | cons c s ih =>
    obtain ⟨hc, hcontrol⟩ := List.forall_mem_cons.1 hcontrol
    rw [List.mem_cons, not_or] at hquote
    obtain ⟨hne, hquote⟩ := hquote
    have hliteral : isLiteralChar c = true := by simp [isLiteralChar, isVisible_eq, hc, Ne.symm hne]
    rw [List.cons_append, literalRest, if_neg (Ne.symm hne), if_pos hliteral, ih hcontrol hquote, push]

theorem string_literal (hcontrol : ∀ c ∈ s, isControl c = false) (hquote : '\'' ∉ s)
    (hrest : rest.head? ≠ some '\'') :
    string ('\'' :: (s ++ '\'' :: rest)) = some (s, rest) := by
  rw [string, literalRest_eq hcontrol hquote]
  intro u hu
  cases s with
  | nil => exact hrest (by rw [(List.cons.inj hu).2]; rfl)
  | cons c s =>
    rw [List.cons_append, List.cons.injEq] at hu
    exact hquote (by rw [hu.1]; exact List.mem_cons_self)

def hexDigit (d : Nat) : Char := "0123456789abcdef".toList[d]?.getD '0'

theorem isHexDigit_hexDigit (h : d < 16) : IsHexDigit (hexDigit d) d := by
  have hall : ∀ d, d < 16 → "0123456789abcdef".toList[d]? = some (hexDigit d) := by decide +kernel
  exact .inl (hall d h)

/-- Each character can be written, a control character by its number. -/
theorem exists_spelledChar (c : Char) : ∃ u, SpelledChar c u := by
  by_cases hcontrol : isControl c = true
  · have hsmall : c.toNat < 128 := by
      simp only [isControl, Bool.and_eq_true, Bool.or_eq_true, decide_eq_true_eq, beq_iff_eq] at hcontrol
      omega
    refine ⟨['\\', 'u', '0', '0', hexDigit (c.toNat / 16), hexDigit (c.toNat % 16)], .short rfl
      ⟨[0, 0, c.toNat / 16, c.toNat % 16], ?_, ?_⟩⟩
    · have hzero : IsHexDigit '0' 0 := isHexDigit_hexDigit (by decide)
      exact .cons hzero (.cons hzero (.cons (isHexDigit_hexDigit (by omega))
        (.cons (isHexDigit_hexDigit (by omega)) .nil)))
    · simp only [List.foldl_cons, List.foldl_nil]
      omega
  · by_cases hquote : c = '"'
    · exact ⟨_, .letter (l := '"') (by rw [hquote]; decide)⟩
    · by_cases hbackslash : c = '\\'
      · exact ⟨_, .letter (l := '\\') (by rw [hbackslash]; decide)⟩
      · exact ⟨_, .plain (by simpa using hcontrol) hquote hbackslash⟩

/-- A text that holds nothing to be escaped may be written as it is. -/
theorem spelled_self (h : s.all isBasicChar = true) : Spelled s s := by
  induction s with
  | nil => exact .nil
  | cons c s ih =>
    rw [List.all_cons, Bool.and_eq_true] at h
    have hc := h.1
    simp only [isBasicChar, isVisible_eq, Bool.and_eq_true, Bool.not_eq_true', bne_iff_ne] at hc
    exact .cons (.plain hc.1.1 hc.1.2 hc.2) (ih h.2)

theorem exists_spelled (s : Text) : ∃ w, Spelled s w := by
  induction s with
  | nil => exact ⟨[], .nil⟩
  | cons c s ih =>
    obtain ⟨u, hu⟩ := exists_spelledChar c
    obtain ⟨w, hw⟩ := ih
    exact ⟨u ++ w, .cons hu hw⟩

/-! ## Integers -/

/-- What comes after the last value of a line. -/
inductive AtLineEnd : Text → Prop where
  | stop : AtLineEnd []
  | lf (t : Text) : AtLineEnd ('\n' :: t)
  | crlf (t : Text) : AtLineEnd ('\r' :: '\n' :: t)

theorem AtLineEnd.head?_ne (h : AtLineEnd rest) (hlf : c ≠ '\n') (hcr : c ≠ '\r') :
    rest.head? ≠ some c := by
  cases h with
  | stop => simp
  | lf => simpa using Ne.symm hlf
  | crlf => simpa using Ne.symm hcr

structure LastDigits (t digits rest : Text) : Prop where
  split : t = digits ++ rest
  digits : ∀ c ∈ digits, c.isDigit = true
  ends : AtLineEnd rest

theorem LastDigits.head?_ne (h : LastDigits t digits rest)
    (hc : (c.isDigit || c == '\n' || c == '\r') = false) : t.head? ≠ some c := by
  obtain ⟨rfl, hdigits, hends⟩ := h
  simp only [Bool.or_eq_false_iff, beq_eq_false_iff_ne] at hc
  obtain ⟨⟨hdigit, hlf⟩, hcr⟩ := hc
  cases digits with
  | nil => exact hends.head?_ne hlf hcr
  | cons x digits =>
    have hx : x.isDigit = true := hdigits x List.mem_cons_self
    rintro ⟨⟩
    rw [hx] at hdigit
    cases hdigit

theorem mark_eq_none (h : t.head? ≠ some c) : mark c t = none := by
  cases t with
  | nil => rfl
  | cons x t => exact if_neg fun hx => h (by rw [hx]; rfl)

theorem fixedDigits_eq_some {k : Nat} (h : fixedDigits k t = some (n, u)) :
    (t.take k).length = k ∧ (∀ c ∈ t.take k, c.isDigit = true) ∧ u = t.drop k := by
  simp only [fixedDigits, Bool.and_eq_true, decide_eq_true_eq, List.all_eq_true] at h
  split at h
  · next hall => exact ⟨hall.1, hall.2, (Prod.mk.inj (Option.some.inj h)).2.symm⟩
  · cases h

theorem LastDigits.fixedDigits (h : LastDigits t digits rest) {k : Nat}
    (hread : fixedDigits k t = some (n, u)) : ∃ digits', LastDigits u digits' rest := by
  obtain ⟨rfl, hdigits, hends⟩ := h
  obtain ⟨hlength, hall, rfl⟩ := fixedDigits_eq_some hread
  by_cases hk : k ≤ digits.length
  · refine ⟨digits.drop k, List.drop_append_of_le_length hk, fun c hc => ?_, hends⟩
    exact hdigits c (List.mem_of_mem_drop hc)
  · -- More digits than there are would take in the end of the line.
    obtain ⟨m, hm⟩ := Nat.exists_eq_add_of_lt (Nat.lt_of_not_le hk)
    rw [hm, Nat.add_assoc, List.take_length_add_append] at hlength hall
    cases hends with
    | stop => simp at hlength
    | lf t => cases hall '\n' (by simp)
    | crlf t => cases hall '\r' (by simp)

theorem LastDigits.twoDigits (h : LastDigits t digits rest) {least greatest : Nat}
    (hread : twoDigits least greatest t = some (n, u)) : ∃ digits', LastDigits u digits' rest :=
  h.fixedDigits (Option.filter_eq_some_iff.1 hread).1

theorem LastDigits.date_eq_none (h : LastDigits t digits rest) : date t = none := by
  unfold date
  cases hyear : Toml.fixedDigits 4 t with
  | none => rfl
  | some p =>
    obtain ⟨digits', hlast⟩ := h.fixedDigits hyear
    have hmark := mark_eq_none (hlast.head?_ne rfl : _ ≠ some '-')
    simp [hmark]

theorem LastDigits.time_eq_none (h : LastDigits t digits rest) : time t = none := by
  unfold time
  cases hhour : Toml.twoDigits 0 23 t with
  | none => rfl
  | some p =>
    obtain ⟨digits', hlast⟩ := h.twoDigits hhour
    have hmark := mark_eq_none (hlast.head?_ne rfl : _ ≠ some ':')
    simp [hmark]

theorem LastDigits.moment_eq_none (h : LastDigits t digits rest) : moment t = none := by
  simp [moment, h.date_eq_none, h.time_eq_none]

theorem LastDigits.moreDigits_eq (h : LastDigits t digits rest) :
    moreDigits Char.isDigit t = some (digits, rest) := by
  obtain ⟨rfl, hdigits, hends⟩ := h
  induction digits with
  | nil => cases hends <;> rfl
  | cons x digits ih =>
    obtain ⟨hx, hdigits⟩ := List.forall_mem_cons.1 hdigits
    have hlater := ih hdigits
    rw [List.cons_append, moreDigits]
    · simp only [hx, if_true, hlater, push]
    · rintro y u rfl
      cases hx

theorem LastDigits.someDigits_eq (h : LastDigits t digits rest) (hne : digits ≠ []) :
    someDigits Char.isDigit t = some (digits, rest) := by
  obtain ⟨rfl, hdigits, hends⟩ := h
  obtain ⟨x, digits, rfl⟩ := List.exists_cons_of_ne_nil hne
  obtain ⟨hx, hdigits⟩ := List.forall_mem_cons.1 hdigits
  have hlater := LastDigits.moreDigits_eq ⟨rfl, hdigits, hends⟩
  simp only [List.cons_append, someDigits, hx, if_true, hlater, push]

theorem lastDigits_ofNat (n : Nat) (h : AtLineEnd rest) :
    LastDigits (Text.ofNat n ++ rest) (Text.ofNat n) rest :=
  ⟨rfl, Text.isDigit_ofNat n, h⟩

theorem ofNat_eq (n : Nat) :
    Text.ofNat n = if n < 10 then [n.digitChar] else Text.ofNat (n / 10) ++ [(n % 10).digitChar] :=
  Nat.toDigits_eq_if (by decide)

theorem ofNat_ne_nil (n : Nat) : Text.ofNat n ≠ [] := Nat.toDigits_ne_nil

theorem numeral_concat (base : Nat) (digits : Text) (c : Char) :
    numeral base (digits ++ [c]) = base * numeral base digits + (hexDigit? c).getD 0 := by
  simp [numeral]

theorem numeral_ofNat (n : Nat) : numeral 10 (Text.ofNat n) = n := by
  have hdigit : ∀ d, d < 10 → (hexDigit? d.digitChar).getD 0 = d := by decide
  induction n using Nat.strongRecOn with
  | ind n ih =>
    rw [ofNat_eq]
    split
    · next hn => simp [numeral, hdigit n hn]
    · next hn =>
      rw [numeral_concat, ih (n / 10) (by omega), hdigit _ (Nat.mod_lt n (by decide))]
      omega

theorem head?_ofNat_ne (hn : 0 < n) : (Text.ofNat n).head? ≠ some '0' := by
  induction n using Nat.strongRecOn with
  | ind n ih =>
    rw [ofNat_eq]
    split
    · next hlt =>
      have hall : ∀ d, d < 10 → 0 < d → [d.digitChar].head? ≠ some '0' := by decide
      exact hall n hlt hn
    · next hge =>
      rw [List.head?_append_of_ne_nil _ (ofNat_ne_nil _)]
      exact ih (n / 10) (by omega) (by omega)

theorem unsignedDecimal_of_head? (h : t.head? ≠ some '0') :
    unsignedDecimal t = someDigits Char.isDigit t := by
  rw [unsignedDecimal]
  rintro u rfl
  exact h rfl

theorem unsignedDecimal_ofNat (n : Nat) (h : AtLineEnd rest) :
    unsignedDecimal (Text.ofNat n ++ rest) = some (Text.ofNat n, rest) := by
  by_cases hn : n = 0
  · rw [hn]
    rfl
  · have hhead := head?_ofNat_ne (Nat.pos_of_ne_zero hn)
    rw [← List.head?_append_of_ne_nil _ (ofNat_ne_nil n)] at hhead
    rw [unsignedDecimal_of_head? hhead]
    exact (lastDigits_ofNat n h).someDigits_eq (ofNat_ne_nil n)

theorem sign_of_head? (hplus : t.head? ≠ some '+') (hminus : t.head? ≠ some '-') :
    sign t = (false, t) := by
  rw [sign]
  · rintro u rfl
    exact hplus rfl
  · rintro u rfl
    exact hminus rfl

theorem LastDigits.sign_eq (h : LastDigits t digits rest) : sign t = (false, t) :=
  sign_of_head? (h.head?_ne rfl) (h.head?_ne rfl)

theorem AtLineEnd.fractionAndExponent_eq_none (h : AtLineEnd rest) :
    fractionAndExponent rest = none := by
  cases h <;> rfl

theorem float_ofNat (n : Nat) (h : AtLineEnd rest) : float (Text.ofNat n ++ rest) = none := by
  have hlast := lastDigits_ofNat n h
  have hdecimal : decimalFloat (Text.ofNat n ++ rest) = none := by
    simp only [decimalFloat, hlast.sign_eq, unsignedDecimal_ofNat n h, Option.bind_some,
      h.fractionAndExponent_eq_none, Option.bind_none]
  have hnamed : namedFloat (Text.ofNat n ++ rest) = none := by
    have hi := hlast.head?_ne (c := 'i') rfl
    have hn := hlast.head?_ne (c := 'n') rfl
    simp only [namedFloat, hlast.sign_eq]
    split
    · next heq => exact absurd (by rw [heq]; rfl) hi
    · next heq => exact absurd (by rw [heq]; rfl) hn
    · rfl
  rw [float, hdecimal, hnamed]
  rfl

theorem inBounds?_ofNat (h : n < 2 ^ 63) : inBounds? n = some n := by
  have hmin : minInteger ≤ (n : Int) := by
    unfold minInteger
    omega
  have hmax : (n : Int) ≤ maxInteger := by
    unfold maxInteger
    omega
  simp [inBounds?, hmin, hmax]

/-- A zero that starts a number is all of it, so no mark of a base comes after it. -/
theorem ofNat_append_ne (n : Nat) (h : AtLineEnd rest) (hlf : c ≠ '\n') (hcr : c ≠ '\r') (u : Text) :
    Text.ofNat n ++ rest ≠ '0' :: c :: u := by
  intro heq
  by_cases hn : n = 0
  · subst hn
    have hrest : rest = c :: u := (List.cons.inj heq).2
    exact h.head?_ne hlf hcr (by rw [hrest]; rfl)
  · refine head?_ofNat_ne (Nat.pos_of_ne_zero hn) ?_
    rw [← List.head?_append_of_ne_nil _ (ofNat_ne_nil n), heq]
    rfl

theorem integer_ofNat (hn : n < 2 ^ 63) (h : AtLineEnd rest) :
    integer (Text.ofNat n ++ rest) = some ((n : Int), rest) := by
  rw [integer]
  · simp [(lastDigits_ofNat n h).sign_eq, unsignedDecimal_ofNat n h, numeral_ofNat,
      inBounds?_ofNat hn]
  · exact ofNat_append_ne n h (by decide) (by decide)
  · exact ofNat_append_ne n h (by decide) (by decide)
  · exact ofNat_append_ne n h (by decide) (by decide)

/-! ## Values -/

/-- The text is read as the value where it stands at the end of a line. -/
def ReadAs (v : Value) (w : Text) : Prop :=
  ∀ rest, AtLineEnd rest → value maxDepth (skipSpaces (w ++ rest)) = some (v, rest)

def booleanName : Bool → Text
  | true => "true".toList
  | false => "false".toList

/-- How a value may be written: a number in decimal digits, a text in double quotes or, if nothing in
it has to be escaped, in single ones, and a boolean by its name. -/
inductive WrittenValue : Value → Text → Prop where
  | integer {n : Nat} (h : n < 2 ^ 63) : WrittenValue (.integer n) (Text.ofNat n)
  | string {s w : Text} (h : Spelled s w) : WrittenValue (.string s) ('"' :: (w ++ ['"']))
  | literal {s : Text} (hcontrol : ∀ c ∈ s, isControl c = false) (hquote : '\'' ∉ s) :
      WrittenValue (.string s) ('\'' :: (s ++ ['\'']))
  | boolean (b : Bool) : WrittenValue (.boolean b) (booleanName b)

theorem value_eq_scalar (harray : t.head? ≠ some '[') (htable : t.head? ≠ some '\x7b') :
    value maxDepth t = scalar t := by
  show value (78 + 1) t = scalar t
  rw [value]
  · rintro u rfl
    exact harray rfl
  · rintro u rfl
    exact htable rfl

theorem skipSpaces_of_head? (hspace : t.head? ≠ some ' ') (htab : t.head? ≠ some '\t') :
    skipSpaces t = t := by
  cases t with
  | nil => rfl
  | cons c t =>
    refine List.dropWhile_cons_of_neg ?_
    simp only [List.head?_cons, ne_eq, Option.some.injEq] at hspace htab
    simp [isSpace, hspace, htab]

theorem string_of_head? (hdouble : t.head? ≠ some '"') (hsingle : t.head? ≠ some '\'') :
    string t = none := by
  unfold string
  split
  · exact absurd rfl hdouble
  · exact absurd rfl hdouble
  · exact absurd rfl hsingle
  · exact absurd rfl hsingle
  · rfl

theorem readAs_integer (hn : n < 2 ^ 63) : ReadAs (.integer n) (Text.ofNat n) := by
  intro rest h
  have hlast := lastDigits_ofNat n h
  rw [skipSpaces_of_head? (hlast.head?_ne rfl) (hlast.head?_ne rfl),
    value_eq_scalar (hlast.head?_ne rfl) (hlast.head?_ne rfl), scalar,
    string_of_head? (hlast.head?_ne rfl) (hlast.head?_ne rfl),
    hlast.moment_eq_none, float_ofNat n h, integer_ofNat hn h]
  rfl

theorem value_of_string (h : string t = some (s, rest)) :
    value maxDepth (skipSpaces t) = some (.string s, rest) := by
  have hquote : ∀ c, c ≠ '"' → c ≠ '\'' → t.head? ≠ some c := by
    intro c hdouble hsingle hc
    have hnone : string t = none :=
      string_of_head? (by simpa [hc] using hdouble) (by simpa [hc] using hsingle)
    rw [hnone] at h
    cases h
  rw [skipSpaces_of_head? (hquote _ (by decide) (by decide)) (hquote _ (by decide) (by decide)),
    value_eq_scalar (hquote _ (by decide) (by decide)) (hquote _ (by decide) (by decide)), scalar, h]
  rfl

theorem readAs_string (hs : Spelled s w) : ReadAs (.string s) ('"' :: (w ++ ['"'])) := by
  intro rest h
  rw [List.cons_append, List.append_assoc, List.singleton_append]
  exact value_of_string (string_spelled hs (h.head?_ne (by decide) (by decide)))

theorem readAs_literal (hcontrol : ∀ c ∈ s, isControl c = false) (hquote : '\'' ∉ s) :
    ReadAs (.string s) ('\'' :: (s ++ ['\''])) := by
  intro rest h
  rw [List.cons_append, List.append_assoc, List.singleton_append]
  exact value_of_string (string_literal hcontrol hquote (h.head?_ne (by decide) (by decide)))

theorem boolean_booleanName (b : Bool) (rest : Text) :
    boolean (booleanName b ++ rest) = some (b, rest) := by
  cases b with
  | true =>
    rw [boolean, booleanName, Text.dropStart?_eq_some.2 rfl]
    rfl
  | false =>
    have hname : Text.dropStart? ("false".toList ++ rest) "true".toList = none := by
      simp [Text.dropStart?]
    rw [boolean, booleanName, hname, Text.dropStart?_eq_some.2 rfl]
    rfl

theorem readAs_boolean (b : Bool) : ReadAs (.boolean b) (booleanName b) := by
  intro rest _
  -- Neither name starts like a value of another kind.
  have hvalue : value maxDepth (skipSpaces (booleanName b ++ rest)) =
      (boolean (booleanName b ++ rest)).map fun x => (.boolean x.1, x.2) := by
    cases b <;> rfl
  rw [hvalue, boolean_booleanName]
  rfl

theorem WrittenValue.readAs {v : Value} (h : WrittenValue v w) : ReadAs v w := by
  cases h with
  | integer hn => exact readAs_integer hn
  | string hs => exact readAs_string hs
  | literal hcontrol hquote => exact readAs_literal hcontrol hquote
  | boolean b => exact readAs_boolean b

end Bilingua.Toml
