import Bilingua.Host.Path
import Bilingua.Proofs.ByteOrder
import Mathlib.Data.Char

/-!
# Texts and their bytes

No character's bytes are the start of another's, so bytes that write a text are read as that text
(`Utf8.decode_utf8`), and bytes in which nothing is malformed write the text that is read
(`Utf8.utf8_of_decodeAfter`). A path that is a text is therefore shown as it is, and two such paths
that look alike are the same.
-/

namespace Bilingua.Utf8

variable {c d : Char} {w r bytes : Bytes}

/-! ## Single characters -/

/-- No character's bytes are the start of another's. -/
theorem utf8EncodeChar_append_inj {s t : Bytes}
    (h : String.utf8EncodeChar c ++ s = String.utf8EncodeChar d ++ t) : c = d ∧ s = t := by
  have hirrefl : ∀ v : Bytes, ¬ v < v := fun _ => Std.lt_irrefl
  rcases lt_trichotomy c d with hlt | rfl | hgt
  · have hbytes := Text.utf8EncodeChar_append_lt hlt s t
    exact absurd (h ▸ hbytes) (hirrefl _)
  · exact ⟨rfl, List.append_cancel_left h⟩
  · have hbytes := Text.utf8EncodeChar_append_lt hgt t s
    exact absurd (h ▸ hbytes) (hirrefl _)

theorem codePoint_utf8EncodeChar (c : Char) : codePoint (String.utf8EncodeChar c) = c.toNat := by
  have hmax := Text.toNat_lt c
  have hval : c.val.toNat = c.toNat := rfl
  unfold String.utf8EncodeChar
  rw [hval]
  dsimp only
  split_ifs <;> simp only [codePoint, UInt8.toNat_ofNat'] <;> omega

theorem char?_eq_some : char? w = some c ↔ String.utf8EncodeChar c = w := by
  unfold char?
  dsimp only
  constructor
  · intro h
    split at h
    · next henc =>
      cases h
      exact henc
    · cases h
  · rintro rfl
    rw [codePoint_utf8EncodeChar, Char.ofNat_toNat, if_pos rfl]

/-- What is not all of a character's bytes is no character. -/
theorem char?_of_append (h : w ++ r = String.utf8EncodeChar c) (hr : r ≠ []) : char? w = none := by
  refine Option.eq_none_iff_forall_ne_some.2 fun d hd => hr ?_
  rw [← char?_eq_some.1 hd, ← List.append_nil (String.utf8EncodeChar c)] at h
  exact (utf8EncodeChar_append_inj h).2

theorem continues_iff {b : UInt8} : continues b = true ↔ 0x80 ≤ b.toNat ∧ b.toNat ≤ 0xBF := by
  rw [continues, Bool.and_eq_true, decide_eq_true_eq, decide_eq_true_eq]

theorem follows_iff {a b : UInt8} :
    follows a b = true ↔
      (0x80 ≤ b.toNat ∧ b.toNat ≤ 0xBF) ∧ (a.toNat = 0xE0 → 0xA0 ≤ b.toNat) ∧
        (a.toNat = 0xED → b.toNat ≤ 0x9F) ∧ (a.toNat = 0xF0 → 0x90 ≤ b.toNat) ∧
        (a.toNat = 0xF4 → b.toNat ≤ 0x8F) := by
  rw [follows, Bool.and_eq_true, continues_iff]
  refine and_congr_right fun _ => ?_
  split <;> simp_all

theorem isStart_of_append (h : w ++ r = String.utf8EncodeChar c) (hw : w ≠ []) (hr : r ≠ []) :
    isStart w = true := by
  have hvalid : c.toNat < 0xD800 ∨ 0xDFFF < c.toNat ∧ c.toNat < 0x110000 := c.valid
  have hval : c.val.toNat = c.toNat := rfl
  unfold String.utf8EncodeChar at h
  rw [hval] at h
  dsimp only at h
  -- One case for each number of bytes, and in it one for each number of them that have come.
  split_ifs at h with h1 h2 h3 <;>
    rcases w with _ | ⟨x, _ | ⟨y, _ | ⟨z, _ | ⟨_, w⟩⟩⟩⟩ <;>
    simp_all [isStart, follows_iff, continues_iff, UInt8.toNat_ofNat'] <;>
    omega

/-! ## One byte -/

theorem step_of_char? {b : UInt8} (h : char? (w ++ [b]) = some c) : step w b = ([some c], []) := by
  rw [step, piece?, h]
  rfl

theorem step_of_isStart {b : UInt8} (hchar : char? (w ++ [b]) = none)
    (hstart : isStart (w ++ [b]) = true) : step w b = ([], w ++ [b]) := by
  simp only [step, piece?, hchar, hstart, if_true, Option.getD_some]

/-- A byte that does not belong to a start makes it malformed, or else is so itself. -/
theorem none_mem_step {b : UInt8} (hchar : char? (w ++ [b]) = none)
    (hstart : isStart (w ++ [b]) = false) : none ∈ (step w b).1 := by
  have hpiece : piece? (w ++ [b]) = none := by simp [piece?, hchar, hstart]
  rw [step, hpiece, Option.getD_none]
  cases w with
  | nil =>
    rw [List.nil_append] at hpiece
    rw [hpiece]
    exact List.mem_singleton_self none
  | cons x w => exact List.mem_cons_self

/-! ## Whole texts -/

theorem decodeAfter_cons (w : Bytes) (b : UInt8) (bytes : Bytes) :
    decodeAfter w (b :: bytes) = (step w b).1 ++ decodeAfter (step w b).2 bytes := rfl

theorem decodeAfter_rest (h : w ++ r = String.utf8EncodeChar c) (hr : r ≠ []) (bytes : Bytes) :
    decodeAfter w (r ++ bytes) = some c :: decodeAfter [] bytes := by
  induction r generalizing w with
  | nil => exact absurd rfl hr
  | cons b r ih =>
    rw [List.append_cons] at h
    rw [List.cons_append, decodeAfter_cons]
    cases r with
    | nil =>
      rw [List.append_nil] at h
      rw [step_of_char? (char?_eq_some.2 h.symm)]
      rfl
    | cons b' r =>
      have hr' := List.cons_ne_nil b' r
      rw [step_of_isStart (char?_of_append h hr') (isStart_of_append h (by simp) hr')]
      exact ih h hr'

theorem decode_utf8 (t : Text) : decode t.utf8 = t.map some := by
  unfold decode
  induction t with
  | nil => rfl
  | cons c t ih =>
    rw [Text.utf8, List.flatMap_cons, decodeAfter_rest (List.nil_append _)
      String.utf8EncodeChar_ne_nil, List.map_cons, ← ih]
    rfl

theorem lossy_utf8 (t : Text) : lossy t.utf8 = t := by
  rw [lossy, decode_utf8, List.map_map]
  exact List.map_id t

theorem utf8_of_decodeAfter (h : ∀ c ∈ decodeAfter w bytes, c.isSome) :
    Text.utf8 ((decodeAfter w bytes).map (·.getD '�')) = w ++ bytes := by
  induction bytes generalizing w with
  | nil =>
    cases w with
    | nil => rfl
    | cons b w => exact absurd (h none List.mem_cons_self) Bool.false_ne_true
  | cons b bytes ih =>
    rw [decodeAfter_cons] at h ⊢
    have hlater := ih fun c hc => h c (List.mem_append_right _ hc)
    cases hchar : char? (w ++ [b]) with
    | some c =>
      rw [step_of_char? hchar] at hlater ⊢
      rw [List.singleton_append, List.map_cons, Option.getD_some, Text.utf8, List.flatMap_cons,
        char?_eq_some.1 hchar, List.append_assoc]
      exact congrArg _ (congrArg _ hlater)
    | none =>
      cases hstart : isStart (w ++ [b]) with
      | true =>
        rw [step_of_isStart hchar hstart] at hlater ⊢
        rw [List.nil_append, hlater, List.append_assoc]
        rfl
      | false =>
        have hnone := h none (List.mem_append_left _ (none_mem_step hchar hstart))
        exact absurd hnone Bool.false_ne_true

theorem text?_eq_some {t : Text} : text? bytes = some t ↔ t.utf8 = bytes := by
  unfold text?
  constructor
  · intro h
    split at h
    · next hall =>
      cases h
      exact utf8_of_decodeAfter (List.all_eq_true.1 hall)
    · cases h
  · rintro rfl
    rw [if_pos (by simp [decode_utf8]), lossy_utf8]

end Bilingua.Utf8

namespace Bilingua.Path

variable {path path' : Path} {t : Text}

theorem text?_eq_some : path.text? = some t ↔ ofText t = path := Utf8.text?_eq_some

theorem display_of_text? (h : path.text? = some t) : path.display = t := by
  rw [← text?_eq_some.1 h]
  exact Utf8.lossy_utf8 t

theorem display_inj (h : path.text?.isSome) (h' : path'.text?.isSome)
    (heq : path.display = path'.display) : path = path' := by
  obtain ⟨t, ht⟩ := Option.isSome_iff_exists.1 h
  obtain ⟨t', ht'⟩ := Option.isSome_iff_exists.1 h'
  rw [display_of_text? ht, display_of_text? ht'] at heq
  rw [← text?_eq_some.1 ht, ← text?_eq_some.1 ht', heq]

end Bilingua.Path
