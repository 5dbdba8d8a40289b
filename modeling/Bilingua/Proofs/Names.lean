import Bilingua.Proofs.SourceOrder
import Bilingua.Proofs.Underlines

/-!
# Names and details on their lines

The name of a symbol is written where its selection says, and its detail is written on the same
line: the parameters of a function after the name, the description of a variable before it. A
function's parameters are looked for in all that follows the keyword, its name included. That they
come after the name all the same is because the connective before them holds a blank and a name does
not (`Symbol.Named.le_connective`).
-/

namespace Bilingua

/-- The detail is written on the line, trimmed, on its side of the name. -/
structure Symbol.DetailOn (line : Text) (s : Symbol) (detail : Text) (column : Nat) : Prop where
  ne_nil : detail ≠ []
  trim : detail.trim = detail
  extract : line.extract column (column + detail.length) = detail
  after_name : s.kind = .function → s.selection.stop.column ≤ column
  before_name : s.kind = .variable → column + detail.length ≤ s.selection.start.column

/-- The symbol is written on the line: its selection covers its name, within the content of the line
on which it starts, and its detail, if it has one, is on the line too. -/
structure Symbol.WrittenOn (lines : List Text) (s : Symbol) (line : Text) : Prop where
  starts : s.selection.start.line = s.range.start.line
  covers : s.selection.Covers lines line s.name
  content : line.contentSpan.1 ≤ s.selection.start.column ∧
    s.selection.stop.column ≤ line.contentSpan.2
  isName : Symbol.IsName s.name
  detail : ∀ detail, s.detail = some detail → ∃ column, s.DetailOn line detail column

/-! ## Parts of a text -/

namespace Text

variable {t u : Text}

theorem isSuffix_trimStart (t : Text) : t.trimStart <:+ t := List.dropWhile_suffix isBlank

theorem isPrefix_dropPeriod (t : Text) : t.dropPeriod <+: t := by
  unfold dropPeriod
  split
  · exact List.dropLast_prefix t
  · exact List.prefix_rfl

theorem isInfix_trim (t : Text) : t.trim <:+: t := by
  obtain ⟨hline, _, _⟩ := contentSpan_split t
  exact ⟨_, _, hline.symm⟩

theorem trim_trim (t : Text) : t.trim.trim = t.trim := by
  have := (isTrimmed_trim t).trim_between (a := []) (b := []) (by simp) (by simp)
  rwa [List.nil_append, List.append_nil] at this

end Text

namespace Symbol

open Text

variable {i : Nat} {line : Text} {lines : List Text} {s : Symbol} {kind : SymbolKind}
  {a w b blanks name more rest detail before after : Text} {c : Char} {j : Nat}

/-! ## Names -/

/-- What is no blank comes after the blanks before a name, and a blank that comes after these comes
after the name. -/
theorem Named.le_of_getElem? (h : Named blanks name more)
    (hc : (blanks ++ (name ++ more))[j]? = some c) :
    (isBlank c = false → blanks.length ≤ j) ∧
      (isBlank c = true → blanks.length ≤ j → blanks.length + name.length ≤ j) := by
  constructor
  · intro hword
    by_contra hlt
    rw [List.getElem?_append_left (by omega)] at hc
    have := h.blank c (List.mem_of_getElem? hc)
    rw [hword] at this
    cases this
  · intro hblank hle
    by_contra hlt
    rw [List.getElem?_append_right hle, List.getElem?_append_left (by omega)] at hc
    have := (h.isName.chars c (List.mem_of_getElem? hc)).1
    rw [hblank] at this
    cases this

/-- A connective does not end within the name that comes first. -/
theorem Named.le_connective (h : Named blanks name more)
    (hw : w ∈ Keyword.takesParameters.spellings)
    (heq : blanks ++ (name ++ more) = a ++ (w ++ b)) :
    blanks.length + name.length ≤ a.length + w.length := by
  -- It starts with a letter, and so not among the blanks; and it goes on with a blank.
  have hall : ∀ w ∈ Keyword.takesParameters.spellings,
      w[0]?.map isBlank = some false ∧ ∃ j < w.length, w[j]?.map isBlank = some true := by
    decide
  obtain ⟨hfirst, j, hj, hblank⟩ := hall w hw
  have hat : ∀ j < w.length, (blanks ++ (name ++ more))[a.length + j]? = w[j]? := by
    intro j hj
    rw [heq, List.getElem?_append_right (by omega), Nat.add_sub_cancel_left,
      List.getElem?_append_left hj]
  obtain ⟨c, hc, hletter⟩ := Option.map_eq_some_iff.1 hfirst
  obtain ⟨d, hd, hgap⟩ := Option.map_eq_some_iff.1 hblank
  rw [← hat 0 (by omega)] at hc
  rw [← hat j hj] at hd
  have hstart := (h.le_of_getElem? hc).1 hletter
  have hend := (h.le_of_getElem? hd).2 hgap (by omega)
  omega

/-! ## Lines -/

theorem writtenOn_onLine {detail? : Option Text} (hline : lines[i]? = some line)
    (htrim : line.trim = before ++ (name ++ after)) (hname : IsName name)
    (hdetail : ∀ detail, detail? = some detail →
      ∃ column, (onLine i line kind before.length name detail?).DetailOn line detail column) :
    (onLine i line kind before.length name detail?).WrittenOn lines line := by
  have hlength : before.length + name.length ≤ line.trim.length := by
    rw [htrim]
    simp only [List.length_append]
    omega
  have hspan : line.contentSpan.2 = line.contentSpan.1 + line.trim.length := rfl
  have hinside := contentSpan_le_length line
  refine ⟨rfl, ⟨hline, rfl, Nat.le_add_right _ _, ?_, extract_content htrim⟩, ⟨?_, ?_⟩, hname,
    hdetail⟩
  · show line.contentSpan.1 + before.length + name.length ≤ line.length
    omega
  · exact Nat.le_add_right _ _
  · show line.contentSpan.1 + before.length + name.length ≤ line.contentSpan.2
    omega

theorem writtenOn_of_ofFunction? (hline : lines[i]? = some line) (h : ofFunction? i line = some s) :
    s.WrittenOn lines line := by
  obtain ⟨l, blanks, name, more, htrim, _, hnamed, rfl⟩ := ofFunction?_eq_some_iff.1 h
  rw [← List.length_append]
  refine writtenOn_onLine hline (by rw [htrim, List.append_assoc]) hnamed.isName ?_
  intro detail hdetail
  obtain ⟨a, w, b, hw, hrest, _, rfl, hne⟩ := parameters?_eq_some hdetail
  -- The detail is a part of what follows the connective.
  obtain ⟨x, y, hxy⟩ : b.trimStart.dropPeriod.trim <:+: b :=
    (isInfix_trim _).trans ((isPrefix_dropPeriod _).isInfix.trans (isSuffix_trimStart b).isInfix)
  have hplace : line.trim =
      (Keyword.opener .function).spelling l ++ a ++ w ++ x ++
        (b.trimStart.dropPeriod.trim ++ y) := by
    rw [htrim, hrest]
    conv_lhs => rw [← hxy]
    simp only [List.append_assoc]
  refine ⟨_, hne, trim_trim _, extract_content hplace, fun _ => ?_, fun hkind => ?_⟩
  · have := hnamed.le_connective hw hrest
    simp only [onLine, Range.onLine, List.length_append]
    omega
  · cases hkind

theorem writtenOn_of_ofDeclaration? (hline : lines[i]? = some line)
    (h : ofDeclaration? i line = some s) : s.WrittenOn lines line := by
  obtain ⟨l, a, form, blanks, name, more, htrim, _, hcalled, _, rfl⟩ :=
    ofDeclaration?_eq_some_iff.1 h
  have hname : line.trim =
      Keyword.declaration.spelling l ++ (a ++ form ++ blanks) ++ (name ++ more) := by
    rw [htrim]
    simp only [List.append_assoc]
  rw [← List.length_append, ← List.length_append, ← List.length_append]
  refine writtenOn_onLine hline hname hcalled.named.isName ?_
  intro detail hdetail
  obtain ⟨hne, rfl⟩ := nonempty?_eq_some.1 hdetail
  obtain ⟨x, y, hxy⟩ := isInfix_trim a
  have hplace : line.trim = Keyword.declaration.spelling l ++ x ++
      (a.trim ++ (y ++ (form ++ (blanks ++ (name ++ more))))) := by
    rw [htrim]
    conv_lhs => rw [← hxy]
    simp only [List.append_assoc]
  refine ⟨_, hne, trim_trim _, extract_content hplace, fun hkind => ?_, fun _ => ?_⟩
  · cases hkind
  · have hlength := congrArg List.length hxy
    simp only [List.length_append] at hlength
    simp only [onLine, Range.onLine, List.length_append]
    omega

theorem writtenOn_of_ofLine? (hline : lines[i]? = some line) (h : ofLine? i line = some s) :
    s.WrittenOn lines line := by
  unfold ofLine? at h
  split at h
  · exact writtenOn_of_ofFunction? hline h
  · exact writtenOn_of_ofDeclaration? hline h
  · cases h

theorem WrittenOn.endingAt (h : s.WrittenOn lines line) (stop : Position) :
    (s.endingAt stop).WrittenOn lines line := by
  refine ⟨h.starts, h.covers, h.content, h.isName, fun detail hdetail => ?_⟩
  obtain ⟨column, hon⟩ := h.detail detail hdetail
  exact ⟨column, hon.ne_nil, hon.trim, hon.extract, hon.after_name, hon.before_name⟩

end Symbol

namespace Outline

/-- Every symbol of an outline is written on the line on which it starts. -/
theorem symbols_written (lines : List Text) (t : SymbolTree) (ht : t ∈ (ofLines lines).preorder) :
    ∃ line, t.symbol.WrittenOn lines line := by
  obtain ⟨line, s, hline, hs, hsymbol⟩ := exists_ofLine?_of_mem_preorder ht
  rw [hsymbol]
  exact ⟨line, (Symbol.writtenOn_of_ofLine? hline hs).endingAt _⟩

/-- A function whose name is the first word of the connective, and a variable in both languages. -/
def overlapDocument : List Text :=
  ["\tCrée une fonction nommée qui prend é2, ça.".toList,
    "  I have un nom appelée 名前 (x)".toList]

theorem overlapDocument_written :
    (ofLines overlapDocument).preorder.map
        (fun t => (t.symbol.name, t.symbol.detail, t.symbol.selection)) =
      [("qui".toList, some "é2, ça".toList, ⟨⟨0, 26⟩, ⟨0, 29⟩⟩),
        ("名前".toList, some "un nom".toList, ⟨⟨1, 24⟩, ⟨1, 26⟩⟩)] ∧
    ∃ t ∈ (ofLines overlapDocument).preorder, t.symbol.name = "qui".toList ∧
      ∃ line, t.symbol.WrittenOn overlapDocument line := by
  have hsymbols : (ofLines overlapDocument).preorder.map
        (fun t => (t.symbol.name, t.symbol.detail, t.symbol.selection)) =
      [("qui".toList, some "é2, ça".toList, ⟨⟨0, 26⟩, ⟨0, 29⟩⟩),
        ("名前".toList, some "un nom".toList, ⟨⟨1, 24⟩, ⟨1, 26⟩⟩)] := by
    decide +kernel
  obtain ⟨t, ht, hsymbol⟩ := List.mem_map.1 (hsymbols ▸ List.mem_cons_self)
  exact ⟨hsymbols, t, ht, (Prod.mk.inj hsymbol).1, symbols_written overlapDocument t ht⟩

end Outline

end Bilingua
