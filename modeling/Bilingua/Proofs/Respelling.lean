import Bilingua.Proofs.Columns
import Bilingua.Proofs.Trimming
import Bilingua.Proofs.WholeWords
import Mathlib.Data.List.Infix

/-!
# Respelling

Any line that starts with a leading keyword, or is a closer, can be written with that keyword or
closer in the other language. The rest of the line stays, and with it all that the line says: its
kind, its shape and its parentheses. The shape is what could go wrong, because it asks for words
anywhere in the line. But no spelling of a leading keyword holds the start of such a word, and each
ends with a word character, so a search passes over it in either language.
-/

namespace Bilingua

/-- The text with its leading keyword in the other language, if it starts with the keyword. -/
def Keyword.respell? (k : Keyword) (t : Text) : Option Text :=
  Language.all.findSome? fun l =>
    (Keyword.afterSpelling? (k.spelling l) t).map (k.spelling l.other ++ ·)

def Construct.respellCloser? (k : Construct) (t : Text) : Option Text :=
  (Language.all.find? fun l => t = k.closer l).map fun l => k.closer l.other

/-- A trimmed line with its leading keyword, or the closer that it is, in the other language. -/
def Line.respellContent (t : Text) : Text :=
  ((Keyword.leading.findSome? (·.respell? t)).or
    (Construct.all.findSome? (·.respellCloser? t))).getD t

/-- A line with its leading keyword, or the closer that it is, in the other language. -/
def Line.respell (line : Text) : Text :=
  line.take line.contentSpan.1 ++ Line.respellContent line.trim ++ line.drop line.contentSpan.2

def respellAt (chosen : Nat → Bool) (lines : List Text) : List Text :=
  lines.mapIdx fun i line => if chosen i then Line.respell line else line

/-! ## What respelling does -/

theorem findSome?_of_unique {α β : Type} {l : List α} {f : α → Option β} {a : α} {b : β}
    (ha : a ∈ l) (hf : f a = some b) (hne : ∀ c ∈ l, c ≠ a → f c = none) :
    l.findSome? f = some b := by
  induction l with
  | nil => cases ha
  | cons c l ih =>
    rw [List.findSome?_cons]
    by_cases hc : c = a
    · rw [hc, hf]
    · rw [hne c List.mem_cons_self hc]
      exact ih ((List.mem_cons.1 ha).resolve_left (Ne.symm hc))
        fun d hd => hne d (List.mem_cons_of_mem c hd)

namespace Line

variable {k : Keyword} {c : Construct} {l : Language} {t rest : Text}

theorem respellContent_keyword (hk : k ∈ Keyword.leading) (hr : Keyword.endsHere rest = true) :
    respellContent (k.spelling l ++ rest) = k.spelling l.other ++ rest := by
  have hself : k.respell? (k.spelling l ++ rest) = some (k.spelling l.other ++ rest) := by
    refine findSome?_of_unique (Language.mem_all l) ?_ fun l' _ hl' => ?_
    · rw [Keyword.afterSpelling?_eq_some.2 ⟨rfl, hr⟩]
      rfl
    · rw [Keyword.afterSpelling?_of_ne hk hk (by simpa using Ne.symm hl') hr]
      rfl
  have hlead : Keyword.leading.findSome? (·.respell? (k.spelling l ++ rest)) =
      some (k.spelling l.other ++ rest) := by
    refine findSome?_of_unique hk hself fun k' hk' hne => ?_
    refine List.findSome?_eq_none_iff.2 fun l' _ => ?_
    rw [Keyword.afterSpelling?_of_ne hk hk' (fun h => hne (Prod.mk.inj h).1.symm) hr]
    rfl
  unfold respellContent
  rw [hlead]
  rfl

example : respell "  Sinon si.  ".toList = "  Else si.  ".toList := by decide

theorem respellContent_closer : respellContent (c.closer l) = c.closer l.other := by
  cases c <;> cases l <;> decide

theorem respellContent_of_none (hlead : ∀ k ∈ Keyword.leading, k.after? t = none)
    (hcloser : ∀ c l, t ≠ Construct.closer c l) : respellContent t = t := by
  have hk : Keyword.leading.findSome? (·.respell? t) = none := by
    refine List.findSome?_eq_none_iff.2 fun k hk => List.findSome?_eq_none_iff.2 fun l hl => ?_
    rw [List.findSome?_eq_none_iff.1 (hlead k hk) l hl]
    rfl
  have hc : Construct.all.findSome? (·.respellCloser? t) = none := by
    refine List.findSome?_eq_none_iff.2 fun c _ => ?_
    rw [Construct.respellCloser?, List.find?_eq_none.2 fun l _ => by simpa using hcloser c l]
    rfl
  unfold respellContent
  rw [hk, hc]
  rfl

/-- A trimmed line starts with a leading keyword, or is a closer, or stays as it is. -/
theorem respellContent_cases (t : Text) :
    (∃ k ∈ Keyword.leading, ∃ l rest, Keyword.endsHere rest = true ∧ t = k.spelling l ++ rest) ∨
      (∃ c l, t = Construct.closer c l) ∨ respellContent t = t := by
  by_cases hlead : ∀ k ∈ Keyword.leading, k.after? t = none
  · by_cases hcloser : ∀ c l, t ≠ Construct.closer c l
    · exact .inr (.inr (respellContent_of_none hlead hcloser))
    · push Not at hcloser
      exact .inr (.inl hcloser)
  · push Not at hlead
    obtain ⟨k, hk, hsome⟩ := hlead
    obtain ⟨rest, hrest⟩ := Option.ne_none_iff_exists'.1 hsome
    obtain ⟨l, ht, hr⟩ := (Keyword.after?_eq_some_iff hk).1 hrest
    exact .inl ⟨k, hk, l, rest, hr, ht⟩

end Line

/-! ## The spellings of leading keywords -/

/-- A text as keywords are written: it has no blank at its ends, ends with a word character and
holds no character with a part of its own in a line. -/
structure Wordlike (w : Text) : Prop where
  trimmed : Text.IsTrimmed w
  ends : Text.Cursor.startsWord w.reverse = true
  plain : ∀ c ∈ w, c ∉ "()./".toList

theorem Keyword.wordlike {k : Keyword} (hk : k ∈ Keyword.leading) (l : Language) :
    Wordlike (k.spelling l) := by
  have hall : ∀ p ∈ Keyword.leadingSpellings,
      (p.1.spelling p.2).trim = p.1.spelling p.2 ∧
      Text.Cursor.startsWord (p.1.spelling p.2).reverse = true ∧
      (p.1.spelling p.2).filter (· ∈ "()./".toList) = [] := by
    decide +kernel
  obtain ⟨htrim, hends, hplain⟩ := hall _ (Keyword.mem_leadingSpellings hk)
  refine ⟨Text.isTrimmed_of_trim_eq htrim, hends, fun c hc hmem => ?_⟩
  exact List.filter_eq_nil_iff.1 hplain c hc (decide_eq_true hmem)

/-- The words that a shape asks for, those after which others must come included. -/
def Line.connectives : List Text :=
  Keyword.takesParameters.spellings ++ Line.calledForms ++ Keyword.assignTo.spellings ++
    Keyword.rangeFrom.spellings

/-- A search for connectives passes over a leading keyword. -/
theorem Keyword.passesOver {k : Keyword} (hk : k ∈ Keyword.leading) (l : Language) {rest : Text}
    (hr : Keyword.endsHere rest = true) {ws : List Text} (hws : ∀ v ∈ ws, v ∈ Line.connectives) :
    Text.PassesOver ws (k.spelling l) rest := by
  have hall : ∀ p ∈ Keyword.leadingSpellings, ∀ u ∈ (p.1.spelling p.2).tails, u ≠ [] →
      ∀ v ∈ Line.connectives, Keyword.excludes u v = true := by
    decide +kernel
  intro u hu hne v hv
  refine Keyword.dropStart?_of_excludes ?_ hr
  exact hall _ (Keyword.mem_leadingSpellings hk) u ((List.mem_tails _ _).2 hu) hne v (hws v hv)

namespace Wordlike

variable {w rest : Text}

theorem ne_nil (h : Wordlike w) : w ≠ [] := by
  rintro rfl
  cases h.ends

theorem endsWithPeriod_append (h : Wordlike w) :
    Text.endsWithPeriod (w ++ rest) = rest.endsWithPeriod := by
  unfold Text.endsWithPeriod
  rw [List.getLast?_append]
  cases hrest : rest.getLast? with
  | some c => rfl
  | none =>
    rw [Option.none_or]
    cases hw : w.getLast? with
    | none => rfl
    | some c =>
      have : c ≠ '.' := by
        rintro rfl
        exact h.plain '.' (List.mem_of_getLast? hw) (by decide)
      simpa using this

theorem parensBalanced_append (h : Wordlike w) :
    Line.parensBalanced (w ++ rest) = Line.parensBalanced rest := by
  have hcount : ∀ c ∈ "()./".toList, w.count c = 0 := fun c hc =>
    List.count_eq_zero.2 fun hw => h.plain c hw hc
  unfold Line.parensBalanced
  rw [List.count_append, List.count_append, hcount '(' (by decide), hcount ')' (by decide),
    Nat.zero_add, Nat.zero_add]

theorem comment_append (h : Wordlike w) : Line.Rule.comment (w ++ rest) = none := by
  cases w with
  | nil => exact absurd rfl h.ne_nil
  | cons c w =>
    have hc : '/' ≠ c := by
      rintro rfl
      exact h.plain '/' List.mem_cons_self (by decide)
    simp [Line.Rule.comment, Text.dropStart?, hc]

theorem blank_append (h : Wordlike w) : Line.Rule.blank (w ++ rest) = none := by
  simp [Line.Rule.blank, h.ne_nil]

/-- A beginning can be exchanged without a blank coming to an end of the text. -/
theorem isTrimmed_append {v : Text} (h : Wordlike w) (ht : Text.IsTrimmed (v ++ rest)) :
    Text.IsTrimmed (w ++ rest) := by
  constructor
  · intro c hc
    rw [List.head?_append_of_ne_nil _ h.ne_nil] at hc
    exact h.trimmed.first c hc
  · intro c hc
    rw [List.getLast?_append] at hc
    cases hrest : rest.getLast? with
    | none =>
      rw [hrest, Option.none_or] at hc
      exact h.trimmed.last c hc
    | some d =>
      rw [hrest, Option.some_or, Option.some_inj] at hc
      subst hc
      exact ht.last d (by rw [List.getLast?_append, hrest]; rfl)

end Wordlike

/-! ## What a respelled line says -/

namespace Line

variable {k : Keyword} {c : Construct} {l l' : Language} {t t' rest : Text}

theorem displayShape_eq (t : Text) : displayShape t = t.endsWithPeriod := by
  have hperiod : ∀ v : Text, Text.endsWith t (v ++ ['.']) = true → t.endsWithPeriod = true := by
    intro v hv
    obtain ⟨u, rfl⟩ := List.isSuffixOf_iff_suffix.1 hv
    rw [← List.append_assoc]
    simp [Text.endsWithPeriod]
  have hend : t.endsWithPeriod = true → Text.endsWith t ['.'] = true := by
    intro h
    obtain ⟨u, rfl⟩ := List.getLast?_eq_some_iff.1 (eq_of_beq h)
    exact List.isSuffixOf_iff_suffix.2 (List.suffix_append u ['.'])
  rw [Bool.eq_iff_iff]
  constructor
  · intro h
    obtain ⟨v, hv, hends⟩ := List.any_eq_true.1 h
    have hform : ∀ v ∈ displayTerminators, v = v.dropLast ++ ['.'] := by decide
    rw [hform v hv] at hends
    exact hperiod _ hends
  · intro h
    exact List.any_eq_true.2 ⟨['.'], by decide, hend h⟩

theorem closed?_keyword (hk : k ∈ Keyword.leading) (hr : Keyword.endsHere rest = true) :
    closed? (k.spelling l ++ rest) = none := by
  refine List.find?_eq_none.2 fun c _ hc => ?_
  obtain ⟨l', _, heq⟩ := List.any_eq_true.1 hc
  have hafter := (Keyword.after?_eq_some_iff hk).2 ⟨l, rfl, hr⟩
  rw [eq_of_beq heq, Keyword.after?_closer hk] at hafter
  cases hafter

/-- What the reading of a line takes from its trimmed text. -/
structure ContentAgree (t t' : Text) : Prop where
  kind : kindBy rules t = kindBy rules t'
  defect : defect (kindBy rules t) t = defect (kindBy rules t) t'
  parens : parensBalanced t = parensBalanced t'
  after : ∀ k ∈ Keyword.leading, k.after? t = k.after? t'

theorem ContentAgree.refl (t : Text) : ContentAgree t t := ⟨rfl, rfl, rfl, fun _ _ => rfl⟩

theorem contentAgree_closer : ContentAgree (c.closer l) (c.closer l') := by
  have hkind : ∀ l, kindBy rules (c.closer l) = .closer c := by
    intro l
    cases c <;> cases l <;> decide
  refine ⟨by rw [hkind, hkind], by rw [hkind]; rfl, ?_, fun k hk => ?_⟩
  · cases c <;> cases l <;> cases l' <;> decide
  · rw [Keyword.after?_closer hk, Keyword.after?_closer hk]

theorem after?_keyword (hk : k ∈ Keyword.leading) (hr : Keyword.endsHere rest = true)
    {k' : Keyword} (hk' : k' ∈ Keyword.leading) :
    k'.after? (k.spelling l ++ rest) = if k' = k then some rest else none := by
  split
  · next heq =>
    rw [heq]
    exact (Keyword.after?_eq_some_iff hk).2 ⟨l, rfl, hr⟩
  · next hne => exact Keyword.after?_of_ne hk hk' hne hr

theorem hasWord_keyword (hk : k ∈ Keyword.leading) (hr : Keyword.endsHere rest = true)
    (l l' : Language) {ws : List Text} (hws : ∀ v ∈ ws, v ∈ connectives) :
    Text.hasWord ws (k.spelling l ++ rest) = Text.hasWord ws (k.spelling l' ++ rest) :=
  Text.hasWord_of_passesOver (Keyword.passesOver hk l hr hws) (Keyword.passesOver hk l' hr hws)
    ((Keyword.wordlike hk l).ends.trans (Keyword.wordlike hk l').ends.symm)

theorem endsWithPeriod_keyword (hk : k ∈ Keyword.leading) (l l' : Language) (rest : Text) :
    Text.endsWithPeriod (k.spelling l ++ rest) = Text.endsWithPeriod (k.spelling l' ++ rest) := by
  rw [(Keyword.wordlike hk l).endsWithPeriod_append, (Keyword.wordlike hk l').endsWithPeriod_append]

theorem openerShape_keyword (hk : k ∈ Keyword.leading) (hr : Keyword.endsHere rest = true)
    (c : Construct) (l l' : Language) :
    openerShape c (k.spelling l ++ rest) = openerShape c (k.spelling l' ++ rest) := by
  have hperiod := endsWithPeriod_keyword hk l l' rest
  cases c with
  | function =>
    simp only [openerShape]
    rw [hperiod, hasWord_keyword hk hr l l' (by decide)]
  | conditional | whileLoop => exact hperiod
  | forLoop =>
    have hfrom : ∀ v ∈ Keyword.rangeFrom.spellings, v ∈ connectives := by decide
    have hwords := Text.hasWordsInOrder_of_passesOver Keyword.rangeTo.spellings
      (Keyword.passesOver hk l hr hfrom) (Keyword.passesOver hk l' hr hfrom)
      ((Keyword.wordlike hk l).ends.trans (Keyword.wordlike hk l').ends.symm)
    simp only [openerShape]
    rw [hperiod, hwords]

theorem defect_keyword (hk : k ∈ Keyword.leading) (hr : Keyword.endsHere rest = true)
    (kind : LineKind) :
    defect kind (k.spelling l ++ rest) = defect kind (k.spelling l' ++ rest) := by
  have hperiod := endsWithPeriod_keyword hk l l' rest
  cases kind with
  | opener c =>
    simp only [defect]
    rw [openerShape_keyword hk hr c l l']
  | declaration =>
    have hshape : declarationShape (k.spelling l ++ rest) =
        declarationShape (k.spelling l' ++ rest) := by
      unfold declarationShape
      rw [hperiod, hasWord_keyword hk hr l l' (by decide)]
    simp only [defect]
    rw [hshape]
  | assignment =>
    have hshape : assignmentShape (k.spelling l ++ rest) =
        assignmentShape (k.spelling l' ++ rest) := by
      unfold assignmentShape
      rw [hperiod, hasWord_keyword hk hr l l' (by decide)]
    simp only [defect]
    rw [hshape]
  | display =>
    simp only [defect]
    rw [displayShape_eq, displayShape_eq, hperiod]
  | _ => rfl

/-- The kind of a line, from what the rules look at. -/
theorem kindBy_congr (hblank : Rule.blank t = Rule.blank t')
    (hcomment : Rule.comment t = Rule.comment t')
    (hafter : ∀ k ∈ Keyword.leading, k.after? t = k.after? t') (hclosed : closed? t = closed? t')
    (hparens : parensBalanced t = parensBalanced t') : kindBy rules t = kindBy rules t' := by
  have hleading : ∀ k ∈ Keyword.leading, ∀ kind, Rule.leading k kind t = Rule.leading k kind t' := by
    intro k hk kind
    unfold Rule.leading Keyword.starts
    rw [hafter k hk]
  have hcloser : Rule.closer t = Rule.closer t' := by
    unfold Rule.closer
    rw [hclosed]
  have hopener : ∀ c, Rule.opener c t = Rule.opener c t' := fun c =>
    hleading (.opener c) (by cases c <;> decide) _
  unfold kindBy remainingKind rules
  simp only [List.findSome?_cons, List.findSome?_nil, hblank, hcomment, hcloser, hopener, hparens,
    hleading .elseBranch (by decide), hleading .declaration (by decide),
    hleading .assignment (by decide), hleading .display (by decide)]

theorem contentAgree_keyword (hk : k ∈ Keyword.leading) (hr : Keyword.endsHere rest = true) :
    ContentAgree (k.spelling l ++ rest) (k.spelling l' ++ rest) := by
  have hw := Keyword.wordlike hk l
  have hw' := Keyword.wordlike hk l'
  have hparens : parensBalanced (k.spelling l ++ rest) = parensBalanced (k.spelling l' ++ rest) := by
    rw [hw.parensBalanced_append, hw'.parensBalanced_append]
  have hafter : ∀ k' ∈ Keyword.leading,
      k'.after? (k.spelling l ++ rest) = k'.after? (k.spelling l' ++ rest) := by
    intro k' hk'
    rw [after?_keyword hk hr hk', after?_keyword hk hr hk']
  refine ⟨kindBy_congr ?_ ?_ hafter ?_ hparens, defect_keyword hk hr _, hparens, hafter⟩
  · rw [hw.blank_append, hw'.blank_append]
  · rw [hw.comment_append, hw'.comment_append]
  · rw [closed?_keyword hk hr, closed?_keyword hk hr]

theorem contentAgree_respellContent (t : Text) : ContentAgree t (respellContent t) := by
  rcases respellContent_cases t with ⟨k, hk, l, rest, hr, rfl⟩ | ⟨c, l, rfl⟩ | hsame
  · rw [respellContent_keyword hk hr]
    exact contentAgree_keyword hk hr
  · rw [respellContent_closer]
    exact contentAgree_closer
  · rw [hsame]
    exact .refl t

theorem isTrimmed_closer : Text.IsTrimmed (c.closer l) := by
  have htrim : (c.closer l).trim = c.closer l := by
    cases c <;> cases l <;> decide
  exact Text.isTrimmed_of_trim_eq htrim

theorem isTrimmed_respellContent (h : Text.IsTrimmed t) : Text.IsTrimmed (respellContent t) := by
  rcases respellContent_cases t with ⟨k, hk, l, rest, hr, rfl⟩ | ⟨c, l, rfl⟩ | hsame
  · rw [respellContent_keyword hk hr]
    exact (Keyword.wordlike hk l.other).isTrimmed_append h
  · rw [respellContent_closer]
    exact isTrimmed_closer
  · rw [hsame]
    exact h

theorem trim_respell (line : Text) : (respell line).trim = respellContent line.trim := by
  obtain ⟨_, hbefore, hafter⟩ := Text.contentSpan_split line
  exact (isTrimmed_respellContent (Text.isTrimmed_trim line)).trim_between hbefore hafter

theorem agree_respell (line : Text) : Agree (respell line) line := by
  have h := contentAgree_respellContent line.trim
  have hread : ∀ line, read line = ⟨kindBy rules line.trim, defect (kindBy rules line.trim) line.trim,
      !(kindBy rules line.trim).isCode || parensBalanced line.trim⟩ := fun _ => rfl
  constructor
  · rw [hread, hread, trim_respell, ← h.kind, ← h.defect, ← h.parens]
  · intro k hk
    rw [trim_respell, h.after k hk]

end Line

theorem agree_respellAt (chosen : Nat → Bool) (lines : List Text) :
    List.Forall₂ Line.Agree (respellAt chosen lines) lines := by
  induction lines generalizing chosen with
  | nil => exact .nil
  | cons line lines ih =>
    unfold respellAt
    rw [List.mapIdx_cons]
    refine .cons ?_ (ih fun i => chosen (i + 1))
    split
    · exact Line.agree_respell line
    · exact .refl line

/-- A document says the same in whatever mix of the two languages its leading keywords and closers
are written: respelling any of its lines keeps the reading of each line, the open blocks, the
findings but for their columns, and the symbols and their nesting but for their columns. -/
theorem respelling_keeps (check : ElseCheck) (chosen : Nat → Bool) (lines : List Text) :
    (respellAt chosen lines).map Line.read = lines.map Line.read ∧
    (validate check (respellAt chosen lines)).residue = (validate check lines).residue ∧
    (validate check (respellAt chosen lines)).findings.map Finding.gist =
      (validate check lines).findings.map Finding.gist ∧
    (Outline.ofLines (respellAt chosen lines)).symbols.map SymbolTree.dropColumns =
      (Outline.ofLines lines).symbols.map SymbolTree.dropColumns := by
  have h := agree_respellAt chosen lines
  refine ⟨Line.map_read_of_agree h, ?_, Validation.gist_validate h, Outline.dropColumns_ofLines h⟩
  rw [Validation.residue_validate, Validation.residue_validate, Line.kinds_of_agree h]

end Bilingua
