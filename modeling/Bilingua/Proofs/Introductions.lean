import Bilingua.Proofs.Extraction

/-!
# Symbols of single lines

A line introduces at most one symbol: the function that it opens or the variable that it declares.
`Symbol.ofLine?_cases` is all that the outline needs of it: the symbol stands on the line, and its
name lies within the line's content.
-/

namespace Bilingua

namespace Symbol

variable {i i' : Nat} {line line' : Text} {s : Symbol}

def ofLine? (i : Nat) (line : Text) : Option Symbol :=
  match Line.classify line with
  | .opener .function => ofFunction? i line
  | .declaration => ofDeclaration? i line
  | _ => none

theorem ofLine?_function (h : Line.classify line = .opener .function) :
    ofLine? i line = ofFunction? i line := by
  rw [ofLine?, h]

/-- What does not tell two places apart does not tell apart the symbols of lines of one kind that stand
there, if the same follows their leading keywords. -/
theorem map_ofLine? {α : Type} {g g' : Symbol → α}
    (hkind : Line.classify line = Line.classify line')
    (hafter : ∀ k ∈ Keyword.leading, k.after? line.trim = k.after? line'.trim)
    (hg : ∀ kind (rest : Text) offset name detail,
      g (onLine i line kind (line.trim.length - rest.length + offset) name detail) =
        g' (onLine i' line' kind (line'.trim.length - rest.length + offset) name detail)) :
    (ofLine? i line).map g = (ofLine? i' line').map g' := by
  unfold ofLine?
  rw [hkind]
  split
  · unfold ofFunction?
    rw [hafter (.opener .function) (by decide)]
    cases (Keyword.opener .function).after? line'.trim with
    | none => rfl
    | some rest =>
      simp only [Option.bind_some, Option.map_map]
      congr 1
      funext found
      exact hg _ _ _ _ _
  · unfold ofDeclaration?
    rw [hafter .declaration (by decide)]
    cases Keyword.declaration.after? line'.trim with
    | none => rfl
    | some rest =>
      simp only [Option.bind_some, List.map_findSome?]
      congr 1
      funext p
      simp only [Function.comp_apply, Option.map_map]
      congr 1
      funext found
      exact hg _ _ _ _ _
  · rfl

theorem ofFunction?_eq_some (h : ofFunction? i line = some s) :
    ∃ offset name detail, offset + name.length ≤ line.trim.length ∧
      s = onLine i line .function offset name detail := by
  obtain ⟨l, blanks, name, more, htrim, _, _, rfl⟩ := ofFunction?_eq_some_iff.1 h
  refine ⟨_, name, _, ?_, rfl⟩
  rw [htrim]
  simp only [List.length_append]
  omega

theorem ofDeclaration?_eq_some (h : ofDeclaration? i line = some s) :
    ∃ offset name detail, offset + name.length ≤ line.trim.length ∧
      s = onLine i line .variable offset name detail := by
  obtain ⟨l, a, form, blanks, name, more, htrim, _, _, _, rfl⟩ := ofDeclaration?_eq_some_iff.1 h
  refine ⟨_, name, _, ?_, rfl⟩
  rw [htrim]
  simp only [List.length_append]
  omega

theorem ofLine?_cases (h : ofLine? i line = some s) :
    ∃ offset name detail, offset + name.length ≤ line.trim.length ∧
      (Line.classify line = .opener .function ∧ s = onLine i line .function offset name detail ∨
        Line.classify line = .declaration ∧ s = onLine i line .variable offset name detail) := by
  unfold ofLine? at h
  split at h
  · next hkind =>
    obtain ⟨offset, name, detail, hle, hs⟩ := ofFunction?_eq_some h
    exact ⟨offset, name, detail, hle, .inl ⟨hkind, hs⟩⟩
  · next hkind =>
    obtain ⟨offset, name, detail, hle, hs⟩ := ofDeclaration?_eq_some h
    exact ⟨offset, name, detail, hle, .inr ⟨hkind, hs⟩⟩
  · cases h

theorem range_of_ofLine? (h : ofLine? i line = some s) : s.range = .onLine i line.contentSpan := by
  obtain ⟨_, _, _, _, ⟨_, rfl⟩ | ⟨_, rfl⟩⟩ := ofLine?_cases h <;> rfl

end Symbol

end Bilingua
