import Bilingua.Proofs.LineBreaks

/-!
# Texts and their lines

A text is cut after each of its breaks, and a carriage return with the line feed after it is one
break. There is one such cut (`Text.Cut`), and the lines are its pieces without a line feed at their
end, or a carriage return and a line feed.

So the lines of a text follow from any cut of it that one can find. Two texts with a line feed
between them are cut as each of them alone (`Text.Cut.lines_append_lf`). If the first one ended with
a carriage return, the line feed would be a part of that break instead of one of its own.
-/

namespace Bilingua.Text

def Unbroken (s : Text) : Prop := ∀ c ∈ s, [c] ∉ breaks

/-- The cut of a text after its breaks. -/
inductive Cut : Text → List Text → Prop where
  | last {s : Text} (hs : Unbroken s) : Cut s [s]
  /-- Any other piece has one break, at its end, and this does not go on after it. -/
  | cons {body nl rest : Text} {ss : List Text} (hbody : Unbroken body) (hnl : nl ∈ breaks)
      (hends : nl = ['\r'] → rest.head? ≠ some '\n') (hrest : Cut rest ss) :
      Cut (body ++ nl ++ rest) ((body ++ nl) :: ss)

/-- The line of a piece: the piece without a final line feed, or carriage return and line feed. -/
inductive LineOf : Text → Text → Prop where
  | crlf (l : Text) : LineOf (l ++ ['\r', '\n']) l
  | lf {l : Text} (h : l.getLast? ≠ some '\r') : LineOf (l ++ ['\n']) l
  | same {l : Text} (h : l.getLast? ≠ some '\n') : LineOf l l

/-- A break ends with the character at the position. -/
def breakEnds (t : Text) (i : Nat) : Bool :=
  (t[i]?.any fun c => [c] ∈ breaks) && !(t[i]? == some '\r' && t[i + 1]? == some '\n')

def breakCount (t : Text) : Nat := (List.range t.length).countP (breakEnds t)

variable {t rest body nl s l : Text} {ss ss' : List Text} {c : Char}

/-! ## The one cut -/

theorem singleton_mem_breaks : [c] ∈ breaks ↔ c = '\r' ∨ isSimpleBreak c = true := by
  simp only [breaks, List.mem_cons, List.cons.injEq, and_true, List.not_mem_nil, or_false,
    isSimpleBreak, Bool.or_eq_true, beq_iff_eq]
  grind

theorem unbroken_cons : Unbroken (c :: s) ↔ [c] ∉ breaks ∧ Unbroken s := List.forall_mem_cons

theorem segments_append_of_unbroken (h : Unbroken body) :
    segments (body ++ t) = body.foldr consFirst (segments t) := by
  induction body with
  | nil => rfl
  | cons c body ih =>
    obtain ⟨hc, hbody⟩ := unbroken_cons.1 h
    rw [singleton_mem_breaks, not_or] at hc
    rw [List.cons_append, segments_cons hc.1, if_neg hc.2, ih hbody, List.foldr_cons]

theorem foldr_consFirst (s body : Text) (ss : List Text) :
    body.foldr consFirst (s :: ss) = (body ++ s) :: ss := by
  induction body with
  | nil => rfl
  | cons c body ih => rw [List.foldr_cons, ih, consFirst, List.cons_append]

theorem segments_append_break (hnl : nl ∈ breaks) (h : nl = ['\r'] → t.head? ≠ some '\n') :
    segments (nl ++ t) = nl :: segments t := by
  rcases breaks_cases hnl with ⟨c, hc, rfl⟩ | rfl | rfl
  · exact (segments_cons (ne_cr_of_isSimpleBreak hc)).trans (if_pos hc)
  · exact segments_cr (h rfl)
  · show segments ('\r' :: '\n' :: t) = _
    rw [segments]

/-- A text has no other cut than that into its segments. -/
theorem Cut.segments_eq (h : Cut t ss) : segments t = ss := by
  induction h with
  | @last s hs =>
    have hcut := segments_append_of_unbroken (t := []) hs
    rwa [List.append_nil, segments, foldr_consFirst, List.append_nil] at hcut
  | @cons body nl rest ss hbody hnl hends _ ih =>
    rw [List.append_assoc, segments_append_of_unbroken hbody, segments_append_break hnl hends, ih,
      foldr_consFirst]

theorem unbroken_nil : Unbroken [] := List.forall_mem_nil _

theorem Cut.consFirst (h : Cut t ss) (hc : [c] ∉ breaks) : Cut (c :: t) (consFirst c ss) := by
  cases h with
  | last hs => exact .last (unbroken_cons.2 ⟨hc, hs⟩)
  | cons hbody hnl hends hrest => exact .cons (unbroken_cons.2 ⟨hc, hbody⟩) hnl hends hrest

theorem cut_segments (t : Text) : Cut t (segments t) := by
  fun_induction segments t with
  | case1 => exact .last unbroken_nil
  | case2 t ih =>
    have hcrlf : ['\r', '\n'] ∈ breaks := by decide
    exact .cons unbroken_nil hcrlf (fun h => by cases h) ih
  | case3 c t hcrlf hc ih =>
    refine .cons unbroken_nil (singleton_mem_breaks.2 (by simpa using hc)) (fun hcr hlf => ?_) ih
    obtain ⟨u, rfl⟩ := List.head?_eq_some_iff.1 hlf
    exact hcrlf u (List.cons.inj hcr).1 rfl
  | case4 c t _ hc ih => exact ih.consFirst (mt singleton_mem_breaks.1 (by simpa using hc))

/-! ## Lines of a cut -/

theorem lineOf_dropNewline (s : Text) : LineOf s (dropNewline s) := by
  by_cases hlf : s.getLast? = some '\n'
  · obtain ⟨u, rfl⟩ := List.getLast?_eq_some_iff.1 hlf
    by_cases hcr : u.getLast? = some '\r'
    · obtain ⟨l, rfl⟩ := List.getLast?_eq_some_iff.1 hcr
      rw [List.append_assoc, List.singleton_append, dropNewline_append_crlf]
      exact .crlf l
    · rw [dropNewline_append_lf hcr]
      exact .lf hcr
  · rw [dropNewline_of_getLast hlf]
    exact .same hlf

theorem forall₂_lineOf (ss : List Text) : List.Forall₂ LineOf ss (ss.map dropNewline) := by
  rw [List.forall₂_map_right_iff, List.forall₂_same]
  exact fun s _ => lineOf_dropNewline s

theorem lines_eq (ht : t ≠ []) : t.lines = (segments t).map dropNewline := if_neg (by simpa using ht)

theorem Unbroken.not_mem (h : Unbroken s) (hc : [c] ∈ breaks) : c ∉ s := fun hmem => h c hmem hc

theorem Unbroken.getLast?_ne (h : Unbroken s) (hc : [c] ∈ breaks) : s.getLast? ≠ some c :=
  fun hlast => h.not_mem hc (List.mem_of_getLast? hlast)

/-- The line of a piece with a break has no line feed, since the break is the only one. -/
theorem not_mem_dropNewline (hbody : Unbroken body) (hnl : nl ∈ breaks) :
    '\n' ∉ dropNewline (body ++ nl) := by
  have hlf : '\n' ∉ body := hbody.not_mem (by decide)
  rcases breaks_cases hnl with ⟨c, hc, rfl⟩ | rfl | rfl
  · by_cases hc' : c = '\n'
    · rwa [hc', dropNewline_append_lf (hbody.getLast?_ne (by decide))]
    · rw [dropNewline_of_getLast (by simpa using hc')]
      simpa [hlf] using Ne.symm hc'
  · rw [dropNewline_of_getLast (by simp)]
    simpa using hlf
  · rwa [dropNewline_append_crlf]

theorem Cut.not_mem_line (h : Cut t ss) : ∀ s ∈ ss, '\n' ∉ dropNewline s := by
  induction h with
  | @last s hs =>
    rw [List.forall_mem_singleton, dropNewline_of_getLast (hs.getLast?_ne (by decide))]
    exact hs.not_mem (by decide)
  | cons hbody hnl _ _ ih => exact List.forall_mem_cons.2 ⟨not_mem_dropNewline hbody hnl, ih⟩

theorem not_mem_of_mem_lines (h : l ∈ t.lines) : '\n' ∉ l := by
  by_cases ht : t = []
  · rw [ht] at h
    cases h
  · rw [lines_eq ht] at h
    obtain ⟨s, hs, rfl⟩ := List.mem_map.1 h
    exact (cut_segments t).not_mem_line s hs

/-! ## Counting breaks -/

theorem breakEnds_zero (c : Char) (t : Text) :
    breakEnds (c :: t) 0 = (decide ([c] ∈ breaks) && !(c == '\r' && t.head? == some '\n')) := by
  simp [breakEnds, List.head?_eq_getElem?]

theorem breakCount_cons (c : Char) (t : Text) :
    breakCount (c :: t) = breakCount t + if breakEnds (c :: t) 0 then 1 else 0 := by
  unfold breakCount
  rw [List.length_cons, List.range_succ_eq_map, List.countP_cons, List.countP_map]
  -- Whether a break ends at a position depends on the text from there on.
  rfl

theorem breakCount_append (h : Unbroken body) (t : Text) : breakCount (body ++ t) = breakCount t := by
  induction body with
  | nil => rfl
  | cons c body ih =>
    obtain ⟨hc, hbody⟩ := unbroken_cons.1 h
    rw [List.cons_append, breakCount_cons, ih hbody, breakEnds_zero]
    simp [hc]

theorem breakCount_break (hnl : nl ∈ breaks) (h : nl = ['\r'] → t.head? ≠ some '\n') :
    breakCount (nl ++ t) = breakCount t + 1 := by
  rcases breaks_cases hnl with ⟨c, hc, rfl⟩ | rfl | rfl
  · rw [List.singleton_append, breakCount_cons, breakEnds_zero]
    simp [hnl, ne_cr_of_isSimpleBreak hc]
  · rw [List.singleton_append, breakCount_cons, breakEnds_zero]
    simp [hnl, h rfl]
  · show breakCount ('\r' :: '\n' :: t) = _
    rw [breakCount_cons, breakCount_cons, breakEnds_zero, breakEnds_zero]
    simp [show ['\n'] ∈ breaks by decide]

theorem Cut.length_eq (h : Cut t ss) : ss.length = breakCount t + 1 := by
  induction h with
  | @last s hs =>
    have hnone := breakCount_append hs []
    rw [List.append_nil] at hnone
    rw [hnone]
    rfl
  | cons hbody hnl hends _ ih =>
    rw [List.length_cons, ih, List.append_assoc, breakCount_append hbody, breakCount_break hnl hends]

/-! ## Texts one after the other -/

theorem Cut.lines_append_lf {t' : Text} (h : Cut t ss) (hcr : t.getLast? ≠ some '\r') :
    (segments (t ++ '\n' :: t')).map dropNewline =
      ss.map dropNewline ++ (segments t').map dropNewline := by
  induction h with
  | @last s hs =>
    have hcut : Cut (s ++ ['\n'] ++ t') ((s ++ ['\n']) :: segments t') :=
      .cons hs (by decide) (fun h => by cases h) (cut_segments t')
    rw [List.append_cons, hcut.segments_eq, List.map_cons, List.map_singleton,
      dropNewline_append_lf hcr, dropNewline_of_getLast (hs.getLast?_ne (by decide))]
    rfl
  | @cons body nl rest ss hbody hnl hends hrest ih =>
    have hlater : rest.getLast? ≠ some '\r' := by
      intro hlast
      rw [List.getLast?_append, hlast] at hcr
      exact hcr rfl
    have hends' : nl = ['\r'] → (rest ++ '\n' :: t').head? ≠ some '\n' := by
      rintro rfl
      cases rest with
      | nil => simp at hcr
      | cons c rest => exact hends rfl
    have hcut : Cut (body ++ nl ++ (rest ++ '\n' :: t'))
        ((body ++ nl) :: segments (rest ++ '\n' :: t')) :=
      .cons hbody hnl hends' (cut_segments _)
    rw [List.append_assoc _ rest, hcut.segments_eq, List.map_cons, ih hlater, List.map_cons,
      List.cons_append]

theorem dropNewline_withBreaks_crlf (h : '\r' ∉ t) (hs : s ∈ segments t) :
    dropNewline (withBreaks ['\r', '\n'] s) = dropNewline s := by
  obtain ⟨body, hlf, hcr, rfl | rfl⟩ := exists_body h hs
  · rw [withBreaks_of_not_mem hlf]
  · have hend : body.getLast? ≠ some '\r' := fun hlast => hcr (List.mem_of_getLast? hlast)
    rw [withBreaks_append_lf hlf, dropNewline_append_crlf, dropNewline_append_lf hend]

theorem lines_withBreaks_crlf (h : '\r' ∉ t) : (withBreaks ['\r', '\n'] t).lines = t.lines := by
  have hcrlf : ['\r', '\n'] ∈ breaks := by decide
  by_cases ht : t = []
  · rw [ht]
    rfl
  · rw [lines_eq ht, lines_eq (mt (withBreaks_eq_nil hcrlf).1 ht), segments_withBreaks hcrlf h,
      List.map_map]
    exact List.map_congr_left fun s hs => dropNewline_withBreaks_crlf h hs

/-- What the lines of a text are. The empty text has none. Any other text has one cut after its
breaks, and its lines are those of the pieces, one more than there are breaks and none with a line
feed. The lines of two texts with a line feed in between are those of the first and then those of the
second, and it does not matter whether line feeds have carriage returns before them. -/
theorem lines_by_breaks :
    lines [] = [] ∧
    (∀ t : Text, t ≠ [] →
      (∃ ss, Cut t ss ∧ (∀ ss', Cut t ss' → ss' = ss) ∧ List.Forall₂ LineOf ss t.lines) ∧
      t.lines.length = breakCount t + 1 ∧ ∀ l ∈ t.lines, '\n' ∉ l) ∧
    (∀ t t' : Text, t ≠ [] → t' ≠ [] → t.getLast? ≠ some '\r' →
      lines (t ++ '\n' :: t') = t.lines ++ t'.lines) ∧
    ∀ t : Text, '\r' ∉ t → (withBreaks ['\r', '\n'] t).lines = t.lines := by
  refine ⟨rfl, fun t ht => ?_, fun t t' ht ht' hcr => ?_, fun t h => lines_withBreaks_crlf h⟩
  · have hcut := cut_segments t
    rw [lines_eq ht, List.length_map, List.forall_mem_map]
    exact ⟨⟨segments t, hcut, fun ss' h => h.segments_eq.symm, forall₂_lineOf _⟩, hcut.length_eq,
      hcut.not_mem_line⟩
  · rw [lines_eq ht, lines_eq ht', lines_eq (by simp)]
    exact (cut_segments t).lines_append_lf hcr

/-- A text in which a carriage return stands before another one and after a line feed, with breaks
that stay on their lines and one at its end. -/
def tangledText : Text := "a\r\r\n\n\rb\u2028c\x0b\n".toList

theorem tangledText_lines :
    tangledText ≠ [] ∧ tangledText.lines.length = 8 ∧
    ['a', '\r'] ∈ tangledText.lines ∧ '\n' ∉ ['a', '\r'] ∧
    tangledText.getLast? ≠ some '\r' ∧
    lines (tangledText ++ '\n' :: tangledText) = tangledText.lines ++ tangledText.lines ∧
    '\r' ∉ "x\n\ny\n".toList ∧
    lines "x\r\n\r\ny\r\n".toList = ["x".toList, [], "y".toList, []] := by
  obtain ⟨_, hlines, happend, hcrlf⟩ := lines_by_breaks
  have hne : tangledText ≠ [] := by decide
  have hend : tangledText.getLast? ≠ some '\r' := by decide
  have hmem : ['a', '\r'] ∈ tangledText.lines := by decide
  obtain ⟨_, hlength, hlf⟩ := hlines tangledText hne
  refine ⟨hne, ?_, hmem, hlf _ hmem, hend, happend _ _ hne hne hend, by decide, ?_⟩
  · rw [hlength]
    decide
  · exact (hcrlf "x\n\ny\n".toList (by decide)).trans (by decide)

end Bilingua.Text
