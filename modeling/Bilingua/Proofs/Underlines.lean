import Bilingua.Proofs.Balance
import Bilingua.Proofs.Contents

/-!
# The text under a finding

A finding is shown as a line under the text of its range. That is always the whole content of one
line, without a blank at its ends, or all of the last line where the finding tells of blocks left
open. The span of a line's content comes from two scans of the line, one for its start and one for
its length; `Text.extract_contentSpan` says that they agree on every line.
-/

namespace Bilingua

/-- The range covers the text, on one line of the document. -/
structure Range.Covers (lines : List Text) (r : Range) (line text : Text) : Prop where
  on_line : lines[r.start.line]? = some line
  single : r.stop.line = r.start.line
  ordered : r.start.column ≤ r.stop.column
  inside : r.stop.column ≤ line.length
  extract : line.extract r.start.column r.stop.column = text

/-! ## Parts of a line -/

namespace Text

variable {line a w b : Text}

theorem extract_between (a w b : Text) :
    (a ++ (w ++ b)).extract a.length (a.length + w.length) = w := by
  rw [List.extract_eq_take_drop, List.drop_left, Nat.add_sub_cancel_left, List.take_left]

theorem extract_content (h : line.trim = a ++ (w ++ b)) :
    line.extract (line.contentSpan.1 + a.length) (line.contentSpan.1 + a.length + w.length) =
      w := by
  obtain ⟨hline, _, _⟩ := contentSpan_split line
  have hstart : (line.take line.contentSpan.1).length = line.contentSpan.1 := by
    have hle := contentSpan_le_length line
    have hspan : line.contentSpan.2 = line.contentSpan.1 + line.trim.length := rfl
    rw [List.length_take]
    omega
  have hwhole : line.take line.contentSpan.1 ++ a ++ (w ++ (b ++ line.drop line.contentSpan.2)) =
      line := by
    conv_rhs => rw [hline, h]
    simp only [List.append_assoc]
  have hpart := extract_between (line.take line.contentSpan.1 ++ a) w
    (b ++ line.drop line.contentSpan.2)
  rwa [hwhole, List.length_append, hstart] at hpart

theorem extract_contentSpan (line : Text) :
    line.extract line.contentSpan.1 line.contentSpan.2 = line.trim :=
  extract_content (a := []) (b := []) (by simp)

end Text

/-! ## Findings -/

namespace Validation

variable {check : ElseCheck} {n : Nesting} {i : Nat} {line : Text} {lines : List Text} {f : Finding}

theorem range_of_mem_lineFindings (h : f ∈ lineFindings check n i line) :
    f.range = .onLine i line.contentSpan := by
  rcases mem_lineFindings.1 h with hp | ⟨c, _, rfl⟩ | ⟨_, rfl⟩
  · rcases mem_placement hp with ⟨k, _, _, rfl⟩ | ⟨_, _, _, rfl⟩ <;> rfl
  · rfl
  · rfl

/-- What a line causes is told of its content, which is not empty. -/
theorem covers_of_mem_scan (h : f ∈ (scan check 0 n lines).1) :
    ∃ line, line.trim ≠ [] ∧ f.range.Covers lines line line.trim := by
  obtain ⟨j, line, hline, hf⟩ := mem_scan.1 h
  rw [Nat.zero_add] at hf
  refine ⟨line, fun hblank => ?_, ?_⟩
  · rw [lineFindings_of_blank hblank] at hf
    cases hf
  · rw [range_of_mem_lineFindings hf]
    exact ⟨hline, rfl, Nat.le_add_right _ _, Text.contentSpan_le_length line,
      Text.extract_contentSpan line⟩

theorem range_of_mem_unclosedFindings (h : f ∈ unclosedFindings n lines) :
    ∃ last, lines.getLast? = some last ∧
      f.range = .onLine (lines.length - 1) (0, last.length) := by
  unfold unclosedFindings at h
  split at h
  · cases h
  · next last hlast =>
    obtain ⟨p, _, rfl⟩ := List.mem_map.1 h
    exact ⟨last, hlast, rfl⟩

/-- Each finding underlines the content of one line, which is not empty, or the whole of the last
line if it is about blocks left open; and the content span of any line, also of one that is all
blank, covers the trimmed line. -/
theorem findings_underline (check : ElseCheck) (lines : List Text) :
    (∀ f ∈ (validate check lines).findings, ∃ line,
      (f.code ≠ .unclosedConstruct → line.trim ≠ [] ∧ f.range.Covers lines line line.trim) ∧
      (f.code = .unclosedConstruct → lines.getLast? = some line ∧
        f.range = .onLine (lines.length - 1) (0, line.length) ∧ f.range.Covers lines line line)) ∧
    ∀ line : Text, line.contentSpan.1 ≤ line.contentSpan.2 ∧ line.contentSpan.2 ≤ line.length ∧
      line.extract line.contentSpan.1 line.contentSpan.2 = line.trim := by
  refine ⟨fun f hf => ?_, fun line => ⟨Nat.le_add_right _ _, Text.contentSpan_le_length line,
    Text.extract_contentSpan line⟩⟩
  rw [findings_validate, List.mem_append] at hf
  rcases hf with hf | hf
  · obtain ⟨line, hcovers⟩ := covers_of_mem_scan hf
    exact ⟨line, fun _ => hcovers, fun hcode => absurd hcode (code_ne_of_mem_scan hf)⟩
  · obtain ⟨last, hlast, hrange⟩ := range_of_mem_unclosedFindings hf
    refine ⟨last, fun hcode => absurd (code_of_mem_unclosedFindings hf) hcode,
      fun _ => ⟨hlast, hrange, ?_⟩⟩
    rw [hrange]
    rw [List.getLast?_eq_getElem?] at hlast
    refine ⟨hlast, rfl, Nat.zero_le _, Nat.le_refl _, ?_⟩
    simp [Range.onLine, List.extract_eq_take_drop]

/-- A conditional with a line break inside and blanks around it, a closer of nothing, and a last
line of blanks. -/
def brokenDocument : List Text :=
  ["\u2003Si (x\u2028= 2 ".toList, "FinPour.\u0085".toList, " \t\u3000".toList]

theorem brokenDocument_underlined :
    (validate .warn brokenDocument).findings.map (fun f => (f.code, f.range)) =
      [(.malformedConditional, ⟨⟨0, 1⟩, ⟨0, 10⟩⟩), (.unbalancedParentheses, ⟨⟨0, 1⟩, ⟨0, 10⟩⟩),
        (.unmatchedCloser, ⟨⟨1, 0⟩, ⟨1, 8⟩⟩), (.unclosedConstruct, ⟨⟨2, 0⟩, ⟨2, 3⟩⟩)] ∧
    ∃ f ∈ (validate .warn brokenDocument).findings, f.range.Covers brokenDocument
      "\u2003Si (x\u2028= 2 ".toList "Si (x\u2028= 2".toList := by
  have hfindings : (validate .warn brokenDocument).findings.map (fun f => (f.code, f.range)) =
      [(.malformedConditional, ⟨⟨0, 1⟩, ⟨0, 10⟩⟩), (.unbalancedParentheses, ⟨⟨0, 1⟩, ⟨0, 10⟩⟩),
        (.unmatchedCloser, ⟨⟨1, 0⟩, ⟨1, 8⟩⟩), (.unclosedConstruct, ⟨⟨2, 0⟩, ⟨2, 3⟩⟩)] := by
    decide +kernel
  obtain ⟨f, hf, hpair⟩ := List.mem_map.1 (hfindings ▸ List.mem_cons_self)
  obtain ⟨hcode, hrange⟩ := Prod.mk.inj hpair
  obtain ⟨line, hcontent, _⟩ := (findings_underline .warn brokenDocument).1 f hf
  obtain ⟨_, hcovers⟩ := hcontent (by rw [hcode]; decide)
  have hline := hcovers.on_line
  rw [hrange] at hline
  obtain rfl : "\u2003Si (x\u2028= 2 ".toList = line := Option.some_inj.1 hline
  exact ⟨hfindings, f, hf, hcovers⟩

end Validation

end Bilingua
