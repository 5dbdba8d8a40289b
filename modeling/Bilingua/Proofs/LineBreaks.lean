import Bilingua.Analysis
import Bilingua.Proofs.Contents

/-!
# Ways to break lines

Whichever of the line breaks a text is written with, the same is told of it. A break other than the
line feed may stay at the end of a line, but it is blank, and the last line has none.

The text is cut into the same pieces (`Text.segments_withBreaks`), and of each piece the line has the
same content (`Text.sameContent_dropNewline`). A text that has carriage returns of its own is another
matter: in front of a line feed they are a part of the break.
-/

namespace Bilingua

namespace Text

/-- The line breaks: a line feed, a carriage return with and without one, a vertical tab, a form feed
and the three breaks of Unicode. -/
def breaks : List Text :=
  [['\n'], ['\r', '\n'], ['\r'], ['\x0b'], ['\x0c'], ['\u0085'], ['\u2028'], ['\u2029']]

/-- The text with a break in the place of each line feed. -/
def withBreaks (nl : Text) (t : Text) : Text := t.flatMap fun c => if c = '\n' then nl else [c]

variable {nl t s : Text} {c : Char}

theorem withBreaks_lf (nl t : Text) : withBreaks nl ('\n' :: t) = nl ++ withBreaks nl t := by
  simp [withBreaks]

theorem withBreaks_cons (hc : c ≠ '\n') (nl t : Text) :
    withBreaks nl (c :: t) = c :: withBreaks nl t := by
  simp [withBreaks, hc]

theorem withBreaks_append (nl s t : Text) :
    withBreaks nl (s ++ t) = withBreaks nl s ++ withBreaks nl t := List.flatMap_append

theorem withBreaks_of_not_mem (h : '\n' ∉ t) : withBreaks nl t = t := by
  induction t with
  | nil => rfl
  | cons c t ih =>
    obtain ⟨hc, ht⟩ := not_or.1 (mt List.mem_cons.2 h)
    rw [withBreaks_cons (Ne.symm hc), ih ht]

theorem withBreaks_append_lf (h : '\n' ∉ t) : withBreaks nl (t ++ ['\n']) = t ++ nl := by
  rw [withBreaks_append, withBreaks_of_not_mem h, withBreaks_lf]
  exact congrArg (t ++ ·) (List.append_nil nl)

theorem not_mem_withBreaks (h : '\n' ∉ nl) : '\n' ∉ withBreaks nl t := by
  intro hmem
  obtain ⟨c, _, hc⟩ := List.mem_flatMap.1 hmem
  split at hc
  · exact h hc
  · next hne => exact hne (List.mem_singleton.1 hc).symm

/-! ## Pieces -/

theorem segments_cons (hc : c ≠ '\r') : segments (c :: t) =
    if isSimpleBreak c then [c] :: segments t else consFirst c (segments t) := by
  rw [segments]
  · simp [hc]
  · rintro u rfl
    exact absurd rfl hc

theorem segments_cr (h : t.head? ≠ some '\n') :
    segments ('\r' :: t) = ['\r'] :: segments t := by
  rw [segments]
  · simp
  · rintro u _ rfl
    exact h rfl

theorem breaks_cases (h : nl ∈ breaks) :
    (∃ c, isSimpleBreak c = true ∧ nl = [c]) ∨ nl = ['\r'] ∨ nl = ['\r', '\n'] := by
  have hall : ∀ nl ∈ breaks, nl.all isSimpleBreak = true ∧ nl.length = 1 ∨ nl = ['\r'] ∨
      nl = ['\r', '\n'] := by
    decide
  refine (hall nl h).imp_left fun ⟨hbreak, hlength⟩ => ?_
  obtain ⟨c, rfl⟩ := List.length_eq_one_iff.1 hlength
  exact ⟨c, List.all_eq_true.1 hbreak c List.mem_cons_self, rfl⟩

theorem ne_cr_of_isSimpleBreak (h : isSimpleBreak c = true) : c ≠ '\r' := by
  rintro rfl
  cases h

theorem isBlank_of_isSimpleBreak (h : isSimpleBreak c = true) : isBlank c = true := by
  simp only [isSimpleBreak, Bool.or_eq_true, beq_iff_eq] at h
  rcases h with ((((rfl | rfl) | rfl) | rfl) | rfl) | rfl <;> decide

theorem segments_append_withBreaks (hnl : nl ∈ breaks) :
    segments (nl ++ withBreaks nl t) = nl :: segments (withBreaks nl t) := by
  rcases breaks_cases hnl with ⟨c, hc, rfl⟩ | rfl | rfl
  · exact (segments_cons (ne_cr_of_isSimpleBreak hc)).trans (if_pos hc)
  · -- No line feed is left that the carriage return could be a part of a break with.
    exact segments_cr fun hlf => not_mem_withBreaks (by decide) (List.mem_of_head? hlf)
  · show segments ('\r' :: '\n' :: withBreaks ['\r', '\n'] t) = _
    rw [segments]

theorem map_consFirst (hc : c ≠ '\n') (ss : List Text) :
    (consFirst c ss).map (withBreaks nl) = consFirst c (ss.map (withBreaks nl)) := by
  cases ss with
  | nil => simp [consFirst, withBreaks, hc]
  | cons s ss => simp [consFirst, withBreaks_cons hc]

/-- A text is cut into the same pieces whatever its breaks are. -/
theorem segments_withBreaks (hnl : nl ∈ breaks) (h : '\r' ∉ t) :
    segments (withBreaks nl t) = (segments t).map (withBreaks nl) := by
  induction t with
  | nil => rfl
  | cons c t ih =>
    obtain ⟨hcr, ht⟩ := not_or.1 (mt List.mem_cons.2 h)
    have hlater := ih ht
    rw [segments_cons (Ne.symm hcr)]
    by_cases hc : c = '\n'
    · subst hc
      rw [withBreaks_lf, segments_append_withBreaks hnl, hlater, if_pos (by decide), List.map_cons]
      simp [withBreaks]
    · rw [withBreaks_cons hc, segments_cons (Ne.symm hcr), hlater]
      split
      · simp [withBreaks, hc]
      · rw [map_consFirst hc]

theorem mem_consFirst {ss : List Text} (h : s ∈ consFirst c ss) :
    s = [c] ∨ (∃ u ∈ ss, s = c :: u) ∨ s ∈ ss := by
  cases ss with
  | nil => exact .inl (List.mem_singleton.1 h)
  | cons u ss =>
    rcases List.mem_cons.1 h with rfl | h
    · exact .inr (.inl ⟨u, List.mem_cons_self, rfl⟩)
    · exact .inr (.inr (List.mem_cons_of_mem u h))

theorem exists_body (h : '\r' ∉ t) (hs : s ∈ segments t) :
    ∃ body, '\n' ∉ body ∧ '\r' ∉ body ∧ (s = body ∨ s = body ++ ['\n']) := by
  induction t generalizing s with
  | nil =>
    rw [segments, List.mem_singleton] at hs
    exact ⟨[], List.not_mem_nil, List.not_mem_nil, .inl hs⟩
  | cons c t ih =>
    obtain ⟨hcr, ht⟩ := not_or.1 (mt List.mem_cons.2 h)
    have hsingle : ∃ body, '\n' ∉ body ∧ '\r' ∉ body ∧ ([c] = body ∨ [c] = body ++ ['\n']) := by
      by_cases hc : c = '\n'
      · exact ⟨[], List.not_mem_nil, List.not_mem_nil, .inr (by rw [hc]; rfl)⟩
      · exact ⟨[c], by simpa using Ne.symm hc, by simpa using hcr, .inl rfl⟩
    rw [segments_cons (Ne.symm hcr)] at hs
    split at hs
    · rcases List.mem_cons.1 hs with rfl | hs
      · exact hsingle
      · exact ih ht hs
    · next hbreak =>
      have hc : c ≠ '\n' := by
        rintro rfl
        exact hbreak (by decide)
      rcases mem_consFirst hs with rfl | ⟨u, hu, rfl⟩ | hs
      · exact hsingle
      · obtain ⟨body, hlf, hbody, hform⟩ := ih ht hu
        refine ⟨c :: body, ?_, ?_, hform.imp (congrArg (c :: ·)) (congrArg (c :: ·))⟩
        · exact mt List.mem_cons.1 (not_or.2 ⟨Ne.symm hc, hlf⟩)
        · exact mt List.mem_cons.1 (not_or.2 ⟨hcr, hbody⟩)
      · exact ih ht hs

theorem segments_ne_nil (t : Text) : segments t ≠ [] := by
  unfold segments
  split
  · exact List.cons_ne_nil _ _
  · exact List.cons_ne_nil _ _
  · split
    · exact List.cons_ne_nil _ _
    · cases segments _ <;> exact List.cons_ne_nil _ _

theorem not_mem_last (h : '\r' ∉ t) (hs : (segments t).getLast? = some s) : '\n' ∉ s := by
  induction t generalizing s with
  | nil =>
    rw [segments, List.getLast?_singleton, Option.some_inj] at hs
    exact hs ▸ List.not_mem_nil
  | cons c t ih =>
    obtain ⟨hcr, ht⟩ := not_or.1 (mt List.mem_cons.2 h)
    obtain ⟨u, us, hsegments⟩ := List.exists_cons_of_ne_nil (segments_ne_nil t)
    rw [hsegments] at ih
    rw [segments_cons (Ne.symm hcr), hsegments] at hs
    split at hs
    · exact ih ht (by rwa [List.getLast?_cons_cons] at hs)
    · next hbreak =>
      cases us with
      | nil =>
        rw [consFirst, List.getLast?_singleton, Option.some_inj] at hs
        rw [← hs, List.mem_cons, not_or]
        refine ⟨?_, ih ht rfl⟩
        rintro rfl
        exact hbreak (by decide)
      | cons v us => exact ih ht (by rwa [consFirst, List.getLast?_cons_cons] at hs)

/-! ## Lines -/

theorem dropNewline_of_getLast (h : s.getLast? ≠ some '\n') : dropNewline s = s := by
  rw [← List.head?_reverse] at h
  unfold dropNewline
  split
  · next heq => exact absurd (heq ▸ rfl) h
  · next heq => exact absurd (heq ▸ rfl) h
  · rfl

theorem dropNewline_append_lf (h : s.getLast? ≠ some '\r') : dropNewline (s ++ ['\n']) = s := by
  rw [← List.head?_reverse] at h
  unfold dropNewline
  rw [List.reverse_append]
  cases hs : s.reverse with
  | nil => simpa using hs.symm
  | cons c r =>
    have hc : c ≠ '\r' := by
      rintro rfl
      exact h (hs ▸ rfl)
    have hback : (c :: r).reverse = s := by rw [← hs, List.reverse_reverse]
    simpa [hc] using hback

theorem dropNewline_append_crlf (s : Text) : dropNewline (s ++ ['\r', '\n']) = s := by
  unfold dropNewline
  rw [List.reverse_append]
  exact List.reverse_reverse s

/-- Whatever break a piece has, the line has the same content. -/
theorem sameContent_dropNewline (hnl : nl ∈ breaks) (h : '\r' ∉ t) (hs : s ∈ segments t) :
    Line.SameContent (dropNewline s) (dropNewline (withBreaks nl s)) := by
  obtain ⟨body, hlf, hcr, rfl | rfl⟩ := exists_body h hs
  · rw [withBreaks_of_not_mem hlf]
    exact .refl _
  · -- Any other character stays on the line, but as a blank at its end.
    have hkept : ∀ c, c ≠ '\n' → isBlank c = true →
        Line.SameContent body (dropNewline (body ++ [c])) := by
      intro c hc hblank
      rw [dropNewline_of_getLast (by simpa using hc)]
      refine Line.sameContent_append body fun d hd => ?_
      rwa [List.mem_singleton.1 hd]
    have hend : body.getLast? ≠ some '\r' := fun hlast => hcr (List.mem_of_getLast? hlast)
    rw [dropNewline_append_lf hend, withBreaks_append_lf hlf]
    rcases breaks_cases hnl with ⟨c, hc, rfl⟩ | rfl | rfl
    · by_cases hc' : c = '\n'
      · rw [hc', dropNewline_append_lf hend]
        exact .refl _
      · exact hkept c hc' (isBlank_of_isSimpleBreak hc)
    · exact hkept '\r' (by decide) (by decide)
    · rw [dropNewline_append_crlf]
      exact .refl _

theorem withBreaks_eq_nil (hnl : nl ∈ breaks) : withBreaks nl t = [] ↔ t = [] := by
  have hne : nl ≠ [] := by
    rintro rfl
    revert hnl
    decide
  refine ⟨fun h => ?_, fun h => by rw [h]; rfl⟩
  cases t with
  | nil => rfl
  | cons c t =>
    by_cases hc : c = '\n'
    · rw [hc, withBreaks_lf] at h
      exact absurd (List.append_eq_nil_iff.1 h).1 hne
    · rw [withBreaks_cons hc] at h
      cases h

theorem lines_withBreaks (hnl : nl ∈ breaks) (h : '\r' ∉ t) :
    List.Forall₂ Line.SameContent t.lines (withBreaks nl t).lines ∧
      t.lines.getLast? = (withBreaks nl t).lines.getLast? := by
  by_cases ht : t = []
  · rw [ht]
    exact ⟨.nil, rfl⟩
  · have hlines : t.lines = (segments t).map dropNewline := if_neg (by simpa using ht)
    have hlines' : (withBreaks nl t).lines = (segments t).map (dropNewline ∘ withBreaks nl) := by
      rw [← List.map_map, ← segments_withBreaks hnl h]
      exact if_neg (by simpa [withBreaks_eq_nil hnl] using ht)
    rw [hlines, hlines']
    constructor
    · rw [List.forall₂_map_left_iff, List.forall₂_map_right_iff, List.forall₂_same]
      exact fun s hs => sameContent_dropNewline hnl h hs
    · rw [List.getLast?_map, List.getLast?_map]
      cases hlast : (segments t).getLast? with
      | none => rfl
      | some s =>
        rw [Option.map_some, Option.map_some, Function.comp_apply,
          withBreaks_of_not_mem (not_mem_last h hlast)]

end Text

/-- The same is told of a text, down to columns, with whatever break its lines are written. -/
theorem breaks_interchangeable (s : Settings) (text nl : Text) (hnl : nl ∈ Text.breaks)
    (h : '\r' ∉ text) :
    s.report (Text.withBreaks nl text) = s.report text ∧
      s.outline (Text.withBreaks nl text) = s.outline text := by
  obtain ⟨hcontent, hlast⟩ := Text.lines_withBreaks hnl h
  exact ⟨(Validation.validate_of_sameContent hcontent hlast).symm,
    (Outline.ofLines_of_sameContent hcontent hlast).symm⟩

/-- A text with a vertical tab of its own, a closer of nothing and a function that stays open. -/
def tabbedText : Text :=
  "  Create a function named f.\n\n\tJ'ai un nombre appelé x.\x0bFinSi.\n".toList

theorem tabbedText_breaks :
    ['\r'] ∈ Text.breaks ∧ '\r' ∉ tabbedText ∧
    (Text.withBreaks ['\r'] tabbedText).lines ≠ tabbedText.lines ∧
    (Settings.default.report (Text.withBreaks ['\r'] tabbedText)).findings.map
        (fun f => (f.code, f.range)) =
      [(.unmatchedCloser, ⟨⟨3, 0⟩, ⟨3, 6⟩⟩), (.unclosedConstruct, ⟨⟨4, 0⟩, ⟨4, 0⟩⟩)] ∧
    (Settings.default.outline (Text.withBreaks ['\r'] tabbedText)).symbols.map
        (fun t => (t.symbol.range, t.children.map fun u => u.symbol.range)) =
      [(⟨⟨0, 2⟩, ⟨4, 0⟩⟩, [⟨⟨2, 1⟩, ⟨2, 25⟩⟩])] := by
  have hbreak : ['\r'] ∈ Text.breaks := by decide
  have hplain : '\r' ∉ tabbedText := by decide +kernel
  obtain ⟨hreport, houtline⟩ := breaks_interchangeable .default tabbedText ['\r'] hbreak hplain
  rw [hreport, houtline]
  exact ⟨hbreak, hplain, by decide +kernel, by decide +kernel, by decide +kernel⟩

end Bilingua
