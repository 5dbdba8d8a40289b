import Bilingua.Text.Blank
import Mathlib.Data.List.TakeWhile

/-!
# Trimmed texts

A line is its trimmed text between blanks, and its content span says where the text stands. A text
that neither starts nor ends with a blank is what trimming leaves of it between any blanks.
-/

namespace Bilingua.Text

/-- Neither the first nor the last character is a blank. -/
structure IsTrimmed (t : Text) : Prop where
  first : ∀ c, t.head? = some c → isBlank c = false
  last : ∀ c, t.getLast? = some c → isBlank c = false

variable {a b t : Text}

theorem trimStart_of_head (h : ∀ c, t.head? = some c → isBlank c = false) : t.trimStart = t := by
  cases t with
  | nil => rfl
  | cons c t => exact List.dropWhile_cons_of_neg (by simp [h c rfl])

theorem trimStart_append (h : ∀ c ∈ a, isBlank c = true) : trimStart (a ++ t) = t.trimStart :=
  List.dropWhile_append_of_pos h

theorem trimEnd_of_getLast (h : ∀ c, t.getLast? = some c → isBlank c = false) : t.trimEnd = t := by
  have hreverse : t.reverse.dropWhile isBlank = t.reverse :=
    trimStart_of_head fun c hc => h c (by rwa [List.head?_reverse] at hc)
  unfold trimEnd
  rw [hreverse, List.reverse_reverse]

theorem trimEnd_append (h : ∀ c ∈ b, isBlank c = true) : trimEnd (t ++ b) = t.trimEnd := by
  unfold trimEnd
  rw [List.reverse_append, List.dropWhile_append_of_pos fun c hc => h c (List.mem_reverse.1 hc)]

/-- Trimming takes off the blanks around a trimmed text. -/
theorem IsTrimmed.trim_between (h : IsTrimmed t) (ha : ∀ c ∈ a, isBlank c = true)
    (hb : ∀ c ∈ b, isBlank c = true) : trim (a ++ t ++ b) = t := by
  unfold trim
  rw [List.append_assoc, trimStart_append ha]
  cases t with
  | nil =>
    have hnil : trimStart ([] ++ b) = [] := List.dropWhile_eq_nil_iff.2 hb
    rw [hnil]
    rfl
  | cons c t =>
    rw [trimStart_of_head (t := c :: t ++ b) h.first, trimEnd_append hb, trimEnd_of_getLast h.last]

theorem exists_trimEnd_append (t : Text) :
    ∃ b, (∀ c ∈ b, isBlank c = true) ∧ t = t.trimEnd ++ b := by
  refine ⟨(t.reverse.takeWhile isBlank).reverse, ?_, ?_⟩
  · intro c hc
    exact List.mem_takeWhile_imp (List.mem_reverse.1 hc)
  · unfold trimEnd
    rw [← List.reverse_append, List.takeWhile_append_dropWhile, List.reverse_reverse]

theorem isTrimmed_trim (t : Text) : IsTrimmed t.trim := by
  constructor
  · intro c hc
    obtain ⟨b, _, hend⟩ := exists_trimEnd_append t.trimStart
    have hhead : t.trimStart.head? = some c := by
      rw [hend, List.head?_append, show t.trimStart.trimEnd.head? = some c from hc]
      rfl
    have := List.head?_dropWhile_not isBlank t
    rw [show (t.dropWhile isBlank).head? = some c from hhead] at this
    exact this
  · intro c hc
    unfold trim trimEnd at hc
    rw [List.getLast?_reverse] at hc
    have := List.head?_dropWhile_not isBlank t.trimStart.reverse
    rw [hc] at this
    exact this

theorem isTrimmed_of_trim_eq (h : t.trim = t) : IsTrimmed t := by
  have := isTrimmed_trim t
  rwa [h] at this

/-- A line is its trimmed text between the blanks before and after its content span. -/
theorem contentSpan_split (line : Text) :
    line = line.take line.contentSpan.1 ++ line.trim ++ line.drop line.contentSpan.2 ∧
      (∀ c ∈ line.take line.contentSpan.1, isBlank c = true) ∧
      ∀ c ∈ line.drop line.contentSpan.2, isBlank c = true := by
  obtain ⟨b, hb, hend⟩ := exists_trimEnd_append line.trimStart
  have hline : line = line.takeWhile isBlank ++ line.trim ++ b := by
    rw [List.append_assoc]
    unfold trim
    rw [← hend]
    exact List.takeWhile_append_dropWhile.symm
  have htake : line.take line.contentSpan.1 = line.takeWhile isBlank := by
    have hfirst : (line.takeWhile isBlank ++ (line.trim ++ b)).take (line.takeWhile isBlank).length =
        line.takeWhile isBlank := List.take_left
    rwa [← List.append_assoc, ← hline] at hfirst
  have hdrop : line.drop line.contentSpan.2 = b := by
    have hlast : (line.takeWhile isBlank ++ line.trim ++ b).drop
        (line.takeWhile isBlank ++ line.trim).length = b := List.drop_left
    rwa [List.length_append, ← hline] at hlast
  rw [htake, hdrop]
  exact ⟨hline, fun c hc => List.mem_takeWhile_imp hc, hb⟩

theorem contentSpan_le_length (line : Text) : line.contentSpan.2 ≤ line.length := by
  obtain ⟨b, _, hend⟩ := exists_trimEnd_append line.trimStart
  have hstart : line.length = (line.takeWhile isBlank).length + line.trimStart.length := by
    rw [← List.length_append]
    exact congrArg List.length List.takeWhile_append_dropWhile.symm
  have htrim := congrArg List.length hend
  rw [List.length_append] at htrim
  have hspan : line.contentSpan.2 =
      (line.takeWhile isBlank).length + line.trimStart.trimEnd.length := rfl
  omega

end Bilingua.Text
