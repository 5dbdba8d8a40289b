import Bilingua.Proofs.Connectives
import Bilingua.Proofs.Contents
import Bilingua.Proofs.RuleOrder

/-!
# Sentences that introduce symbols

A function is introduced by a sentence of its opener, a name, a connective and parameters; a
variable by one of the keyword, a description, a form of `appelé` and a name. Written with single
spaces and a final period, such a sentence is read back as it was written: the outline of the line
has the one symbol with these parts, and the line has no defect.

What must not happen is that a connective is found too early. A name may be a part of one and
parameters may hold more of them, but none starts before the one that was written
(`FunctionSentence.passesOver`, `DeclarationSentence.first_called`).
-/

namespace Bilingua

/-- The outer parts of a line that a keyword leads: the blanks around the sentence, and the language
of the keyword. -/
structure SentenceFrame (k : Keyword) where
  before : Text
  language : Language
  after : Text
  blank_before : ∀ c ∈ before, Text.isBlank c = true
  blank_after : ∀ c ∈ after, Text.isBlank c = true

namespace SentenceFrame

variable {k : Keyword}

def sentence (x : SentenceFrame k) (body : Text) : Text :=
  k.spelling x.language ++ ' ' :: body ++ ['.']

def line (x : SentenceFrame k) (body : Text) : Text := x.before ++ x.sentence body ++ x.after

end SentenceFrame

structure FunctionSentence extends SentenceFrame (.opener .function) where
  name : Text
  connective : Language
  parameters : Text
  isName : Symbol.IsName name
  parameters_ne_nil : parameters ≠ []
  parameters_trim : parameters.trim = parameters
  one_line : '\n' ∉ parameters

namespace FunctionSentence

def body (x : FunctionSentence) : Text :=
  x.name ++ ' ' :: Keyword.takesParameters.spelling x.connective ++ ' ' :: x.parameters

def text (x : FunctionSentence) : Text := x.line x.body

def nameColumn (x : FunctionSentence) : Nat :=
  x.before.length + ((Keyword.opener .function).spelling x.language).length + 1

/-- The function that the sentence introduces as the only line of a document. -/
def symbol (x : FunctionSentence) : Symbol where
  name := x.name
  detail := some x.parameters
  kind := .function
  range := ⟨⟨0, x.before.length⟩, ⟨0, x.text.length⟩⟩
  selection := .onLine 0 (x.nameColumn, x.nameColumn + x.name.length)

end FunctionSentence

structure DeclarationSentence extends SentenceFrame .declaration where
  description : Text
  form : Text
  name : Text
  description_ne_nil : description ≠ []
  description_trim : description.trim = description
  not_called : ∀ w ∈ Keyword.called.spellings, ¬ w <:+: description
  mem_forms : form ∈ Line.calledForms
  isName : Symbol.IsName name

namespace DeclarationSentence

def body (y : DeclarationSentence) : Text :=
  y.description ++ ' ' :: y.form ++ ' ' :: y.name

def text (y : DeclarationSentence) : Text := y.line y.body

def nameColumn (y : DeclarationSentence) : Nat :=
  y.before.length + (Keyword.declaration.spelling y.language).length + 1 + y.description.length +
    1 + y.form.length + 1

/-- The variable that the sentence introduces on the first line of a document. -/
def symbol (y : DeclarationSentence) : Symbol where
  name := y.name
  detail := some y.description
  kind := .variable
  range := .onLine 0 (y.before.length, y.before.length + (y.sentence y.body).length)
  selection := .onLine 0 (y.nameColumn, y.nameColumn + y.name.length)

end DeclarationSentence

/-! ## One line -/

theorem Keyword.endsHere_space (t : Text) : endsHere (' ' :: t) = true := by
  have hspace : continues ' ' = false := by decide +kernel
  simp [endsHere, hspace]

theorem Text.contentSpan_between {before t after : Text} (hb : ∀ c ∈ before, isBlank c = true)
    (ht : IsTrimmed t) (hne : t ≠ []) (ha : ∀ c ∈ after, isBlank c = true) :
    contentSpan (before ++ t ++ after) = (before.length, before.length + t.length) := by
  unfold contentSpan
  rw [takeWhile_between hb ht hne, ht.trim_between hb ha]

theorem Text.Cursor.startsWord_space (t : Text) : startsWord (' ' :: t) = false :=
  isWordChar_of_isBlank (by decide)

theorem Text.Cursor.startsWord_reverse_space (t : Text) :
    startsWord (t ++ [' ']).reverse = false := by
  rw [List.reverse_append]
  exact startsWord_space t.reverse

theorem Text.isBlank_space : ∀ c ∈ [' '], isBlank c = true := List.all_eq_true.1 (by decide)

/-- A name between a space and a character that no name holds. -/
theorem Symbol.IsName.named {name : Text} {c : Char} (h : IsName name) (hc : isNameChar c = false)
    (t : Text) : Named [' '] name (c :: t) := by
  refine ⟨Text.isBlank_space, h, fun d hd => ?_⟩
  rw [← Option.some_inj.1 hd]
  exact hc

namespace SentenceFrame

open Text

variable {k : Keyword} (x : SentenceFrame k) (body : Text)

theorem isTrimmed_sentence (hk : k ∈ Keyword.leading) : IsTrimmed (x.sentence body) := by
  have hword := Keyword.wordlike hk x.language
  constructor
  · intro c hc
    rw [sentence, List.append_assoc, List.head?_append_of_ne_nil _ hword.ne_nil] at hc
    exact hword.trimmed.first c hc
  · intro c hc
    rw [sentence, List.getLast?_concat, Option.some_inj] at hc
    rw [← hc]
    decide

theorem trim_line (hk : k ∈ Keyword.leading) : (x.line body).trim = x.sentence body :=
  (x.isTrimmed_sentence body hk).trim_between x.blank_before x.blank_after

theorem contentSpan_line (hk : k ∈ Keyword.leading) : (x.line body).contentSpan =
    (x.before.length, x.before.length + (x.sentence body).length) := by
  refine contentSpan_between x.blank_before (x.isTrimmed_sentence body hk) ?_ x.blank_after
  simp [sentence]

theorem leads_line (hk : k ∈ Keyword.leading) : k.Leads (x.line body).trim := by
  rw [x.trim_line body hk]
  exact ⟨x.language, ' ' :: body ++ ['.'], by simp [sentence],
    Keyword.endsHere_iff.1 (Keyword.endsHere_space _)⟩

end SentenceFrame

namespace Outline

variable {line : Text} {s : Symbol}

theorem symbols_of_opener (hkind : Line.classify line = .opener .function)
    (hs : Symbol.ofFunction? 0 line = some s) :
    (ofLines [line]).symbols = [.node (s.endingAt ⟨0, line.length⟩) []] := by
  simp [ofLines, Builder.scan, Builder.step, Builder.empty, hkind, hs, Builder.closeMany,
    Builder.close, Builder.attach, Builder.attachTo, SymbolTree.endingAt]

theorem symbols_of_declaration (hkind : Line.classify line = .declaration)
    (hs : Symbol.ofDeclaration? 0 line = some s) : (ofLines [line]).symbols = [.node s []] := by
  simp [ofLines, Builder.scan, Builder.step, Builder.empty, hkind, hs, Builder.closeMany,
    Builder.attach, Builder.attachTo]

end Outline

/-! ## Functions -/

namespace FunctionSentence

open Text Cursor Bilingua.Symbol

variable {v w : Text}

/-- A connective is a word, a space and another word, which no connective starts with. -/
theorem connective_cut (hv : v ∈ Keyword.takesParameters.spellings) :
    ∃ v₁ v₂, v = v₁ ++ ' ' :: v₂ ∧ v₁ ≠ [] ∧ (∀ c ∈ v₁, (!isBlank c) = true) ∧
      ∀ w ∈ Keyword.takesParameters.spellings, Keyword.excludes w v₂ = true := by
  obtain ⟨l, _, rfl⟩ := List.mem_map.1 hv
  cases l with
  | french =>
    exact ⟨"qui".toList, "prend".toList, by decide, by decide, List.all_eq_true.1 (by decide),
      by decide +kernel⟩
  | english =>
    exact ⟨"that".toList, "takes".toList, by decide, by decide, List.all_eq_true.1 (by decide),
      by decide +kernel⟩

theorem run_before_space (h : ∀ c ∈ w, (!isBlank c) = true) (t : Text) :
    Run (fun c => !isBlank c) w (' ' :: t) := by
  refine ⟨h, fun c hc => ?_⟩
  obtain rfl := Option.some_inj.1 hc
  decide

variable (x : FunctionSentence)

def connectiveText : Text := Keyword.takesParameters.spelling x.connective

theorem connectiveText_mem : x.connectiveText ∈ Keyword.takesParameters.spellings :=
  List.mem_map.2 ⟨x.connective, Language.mem_all _, rfl⟩

def rest : Text := ' ' :: x.parameters ++ ['.']

theorem trim_text : x.text.trim = (Keyword.opener .function).spelling x.language ++
    ([' '] ++ (x.name ++ (' ' :: (x.connectiveText ++ x.rest)))) := by
  rw [text, x.trim_line _ (Keyword.opener_mem_leading _)]
  simp [SentenceFrame.sentence, body, connectiveText, rest]

theorem classify_text : Line.classify x.text = .opener .function :=
  Line.kindBy_eq_iff.2 (x.leads_line _ (Keyword.opener_mem_leading _))

/-- No connective starts in the name or in the spaces around it. It would go on with a word in place
of the connective that was written. -/
theorem passesOver : PassesOver Keyword.takesParameters.spellings (' ' :: x.name ++ [' '])
    (x.connectiveText ++ x.rest) := by
  intro u hu hne v hv
  rw [Option.eq_none_iff_forall_ne_some]
  intro r hr
  have heq := dropStart?_eq_some.1 hr
  obtain ⟨v₁, v₂, rfl, hv₁, hword, hexcludes⟩ := connective_cut hv
  have hrun := run_before_space hword (v₂ ++ r)
  obtain rfl | ⟨u, rfl, hsuffix⟩ := List.suffix_concat_iff.1 hu
  · exact hne rfl
  · rcases List.suffix_cons_iff.1 hsuffix with rfl | hname
    · have hnil := run_before_space (w := []) (by simp)
        (x.name ++ ' ' :: (x.connectiveText ++ x.rest))
      exact hv₁ (hrun.unique hnil (by simpa using heq.symm)).1
    · have hwithin : ∀ c ∈ u, (!isBlank c) = true := by
        intro c hc
        rw [(x.isName.chars c (hname.subset hc)).1]
        rfl
      have hname := run_before_space hwithin (x.connectiveText ++ x.rest)
      obtain ⟨_, hrest⟩ := hname.unique hrun (by simpa using heq)
      exact Keyword.append_ne_of_excludes (hexcludes _ x.connectiveText_mem)
        (Keyword.endsHere_space _) r (List.cons.inj hrest).2

theorem whole_connective : Whole (' ' :: x.name ++ [' ']) x.connectiveText x.rest := by
  have hworded : ∀ w ∈ Keyword.takesParameters.spellings,
      startsWord w = true ∧ startsWord w.reverse = true := by
    decide +kernel
  obtain ⟨hfirst, hlast⟩ := hworded _ x.connectiveText_mem
  have hword : Worded x.connectiveText := ⟨hfirst, hlast⟩
  exact ⟨hword.atBoundary_first (startsWord_reverse_space _) _,
    hword.atBoundary_last _ (startsWord_space _)⟩

theorem trimStart_rest : x.rest.trimStart = x.parameters ++ ['.'] := by
  have hstart : ∀ c, (x.parameters ++ ['.']).head? = some c → isBlank c = false := by
    intro c hc
    rw [List.head?_append_of_ne_nil _ x.parameters_ne_nil] at hc
    exact (isTrimmed_of_trim_eq x.parameters_trim).first c hc
  exact (trimStart_append isBlank_space).trans (trimStart_of_head hstart)

/-- Only the period that ends the sentence is taken off its parameters. -/
theorem parameters?_text :
    parameters? ([' '] ++ (x.name ++ (' ' :: (x.connectiveText ++ x.rest)))) =
      some x.parameters := by
  have hline : '\n' ∉ x.rest.trimStart := by
    rw [trimStart_rest]
    simpa using x.one_line
  have hperiod : (x.parameters ++ ['.'] : Text).dropPeriod = x.parameters := by
    simp [dropPeriod, endsWithPeriod]
  have hparameters :=
    parameters?_of_first x.connectiveText_mem x.whole_connective hline x.passesOver
  rw [trimStart_rest, hperiod, x.parameters_trim,
    nonempty?_eq_some.2 ⟨x.parameters_ne_nil, rfl⟩] at hparameters
  simpa using hparameters

theorem ofFunction?_text : ofFunction? 0 x.text = some (onLine 0 x.text .function
    (((Keyword.opener .function).spelling x.language).length + 1) x.name (some x.parameters)) := by
  refine ofFunction?_eq_some_iff.2 ⟨x.language, [' '], x.name, _, x.trim_text,
    Keyword.endsHere_space _, x.isName.named (by decide) _, ?_⟩
  rw [x.parameters?_text]
  rfl

theorem defect_text : (Line.read x.text).defect = none :=
  Line.defect_of_ofFunction? x.classify_text x.ofFunction?_text rfl

theorem symbols_text : (Outline.ofLines [x.text]).symbols = [.node x.symbol []] := by
  rw [Outline.symbols_of_opener x.classify_text x.ofFunction?_text]
  have hspan := x.contentSpan_line x.body (Keyword.opener_mem_leading _)
  simp only [onLine, text, hspan, endingAt, symbol, nameColumn, Range.onLine, Nat.add_assoc]

end FunctionSentence

/-! ## Declarations -/

namespace DeclarationSentence

open Text Cursor Bilingua.Symbol

variable (y : DeclarationSentence)

theorem trim_text : y.text.trim = Keyword.declaration.spelling y.language ++
    ((' ' :: y.description ++ [' ']) ++ (y.form ++ ([' '] ++ (y.name ++ ['.'])))) := by
  rw [text, y.trim_line _ (by decide)]
  simp [SentenceFrame.sentence, body]

theorem classify_text : Line.classify y.text = .declaration :=
  Line.kindBy_eq_iff.2 (y.leads_line _ (by decide))

/-- No form of `appelé` starts in the description or in the spaces around it. It would end there
too, since it holds no space, and so the description would hold `appelé` or `called`. -/
theorem first_called (a u : Text) (h : ' ' :: y.description ++ [' '] = a ++ u) (hne : u ≠ [])
    (t : Text) : nameAfterCalled? (between a (u ++ t)) = none := by
  rw [Option.eq_none_iff_forall_ne_some]
  rintro ⟨offset, name⟩ hcalled
  obtain ⟨form, blanks, more, heq, hform, _⟩ := nameAfterCalled?_eq_some.1 hcalled
  have hforms : ∀ form ∈ Line.calledForms, ' ' ∉ form ∧
      ∃ w ∈ Keyword.called.spellings, w ≠ [] ∧ w <+: form := by
    decide
  obtain ⟨hspace, w, hw, hword, hstart⟩ := hforms form hform.mem_forms
  obtain rfl | ⟨u, rfl, hsuffix⟩ := List.suffix_concat_iff.1 ⟨a, h.symm⟩
  · exact hne rfl
  · have hwithin : form <+: u := by
      rcases List.prefix_or_prefix_of_prefix ⟨_, heq.symm⟩ (List.prefix_append (u ++ [' ']) t) with
        hlt | hge
      · rcases List.prefix_concat_iff.1 hlt with rfl | hlt
        · simp at hspace
        · exact hlt
      · exact absurd (hge.subset (by simp)) hspace
    have hinfix : w <:+: ' ' :: y.description :=
      (hstart.trans hwithin).isInfix.trans hsuffix.isInfix
    rcases List.infix_cons_iff.1 hinfix with hhead | hdescription
    · rcases List.prefix_cons_iff.1 hhead with rfl | ⟨w, rfl, _⟩
      · exact hword rfl
      · exact hspace (hstart.subset (by simp))
    · exact y.not_called w hw hdescription

theorem called : Called (' ' :: y.description ++ [' ']) y.form [' '] y.name ['.'] := by
  have hword := worded_calledForm y.mem_forms
  exact ⟨y.mem_forms, hword.atBoundary_first (startsWord_reverse_space _) _, by decide,
    y.isName.named (by decide) _⟩

theorem ofDeclaration?_text : ofDeclaration? 0 y.text = some (onLine 0 y.text .variable
    ((Keyword.declaration.spelling y.language).length +
      ((y.description.length + 1 + 1) + y.form.length + 1)) y.name (some y.description)) := by
  refine ofDeclaration?_eq_some_iff.2 ⟨y.language, ' ' :: y.description ++ [' '], y.form, [' '],
    y.name, ['.'], ?_, Keyword.endsHere_space _, y.called, ?_, ?_⟩
  · exact y.trim_text
  · intro a u h hne
    exact y.first_called a u h hne _
  · have htrim : Text.trim (' ' :: y.description ++ [' ']) = y.description :=
      (isTrimmed_of_trim_eq y.description_trim).trim_between isBlank_space isBlank_space
    rw [htrim, nonempty?_eq_some.2 ⟨y.description_ne_nil, rfl⟩]
    simp

theorem defect_text : (Line.read y.text).defect = none := by
  rw [Line.defect_of_ofDeclaration? y.classify_text y.ofDeclaration?_text, text,
    y.trim_line _ (by decide), SentenceFrame.sentence, List.getLast?_concat]
  rfl

theorem symbols_text : (Outline.ofLines [y.text]).symbols = [.node y.symbol []] := by
  rw [Outline.symbols_of_declaration y.classify_text y.ofDeclaration?_text]
  have hspan := y.contentSpan_line y.body (by decide)
  have hcolumn : y.before.length + ((Keyword.declaration.spelling y.language).length +
      ((y.description.length + 1 + 1) + y.form.length + 1)) = y.nameColumn := by
    unfold nameColumn
    omega
  simp only [onLine, text, hspan, hcolumn, symbol, Range.onLine]

end DeclarationSentence

/-- A sentence that introduces a symbol is of its kind and of good shape, and gives the symbol that
it was written for. -/
theorem sentences_read_back (x : FunctionSentence) (y : DeclarationSentence) :
    (Line.classify x.text = .opener .function ∧ (Line.read x.text).defect = none ∧
      (Outline.ofLines [x.text]).symbols = [.node x.symbol []]) ∧
    (Line.classify y.text = .declaration ∧ (Line.read y.text).defect = none ∧
      (Outline.ofLines [y.text]).symbols = [.node y.symbol []]) :=
  ⟨⟨x.classify_text, x.defect_text, x.symbols_text⟩,
    ⟨y.classify_text, y.defect_text, y.symbols_text⟩⟩

/-- A function named like a part of a connective, with connectives and periods in its parameters. -/
def quiSentence : FunctionSentence where
  before := "\u3000\t".toList
  language := .french
  after := " ".toList
  blank_before := List.all_eq_true.1 (by decide)
  blank_after := List.all_eq_true.1 (by decide)
  name := "qui".toList
  connective := .english
  parameters := "x. that takes y, qui prend z.".toList
  isName := by decide
  parameters_ne_nil := by decide
  parameters_trim := by decide +kernel
  one_line := by decide

/-- A variable named like a connective, with the start of one at the end of its description. -/
def calledSentence : DeclarationSentence where
  before := []
  language := .english
  after := []
  blank_before := List.forall_mem_nil _
  blank_after := List.forall_mem_nil _
  description := "un nom, appel".toList
  form := "appelée".toList
  name := "called".toList
  description_ne_nil := by decide
  description_trim := by decide +kernel
  not_called := by decide
  mem_forms := by decide
  isName := by decide

theorem quiSentence_read_back :
    quiSentence.text =
      "\u3000\tCrée une fonction nommée qui that takes x. that takes y, qui prend z.. ".toList ∧
    calledSentence.text = "I have un nom, appel appelée called.".toList ∧
    quiSentence.symbol.selection = ⟨⟨0, 27⟩, ⟨0, 30⟩⟩ ∧
    (Outline.ofLines [quiSentence.text]).symbols = [.node quiSentence.symbol []] ∧
    (Outline.ofLines [calledSentence.text]).symbols = [.node calledSentence.symbol []] := by
  obtain ⟨⟨_, _, hfunction⟩, ⟨_, _, hdeclaration⟩⟩ := sentences_read_back quiSentence calledSentence
  exact ⟨by decide, by decide, by decide, hfunction, hdeclaration⟩

end Bilingua
