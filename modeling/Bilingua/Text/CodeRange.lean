/-!
# Code point ranges

A Unicode property is given as a table of closed ranges of code points in increasing order, and a
look-up walks the table until it meets or passes the code point.
-/

namespace Bilingua.Text

/-- The code points from the first number to the second, both included. -/
abbrev CodeRange := Nat × Nat

/-- The code point lies in one of the ranges, which stand in increasing order. -/
def inRanges : List CodeRange → Nat → Bool
  | [], _ => false
  | (lo, hi) :: rs, n => bif Nat.blt n lo then false else bif Nat.ble n hi then true else inRanges rs n

theorem exists_of_inRanges {rs : List CodeRange} {n : Nat} (h : inRanges rs n = true) :
    ∃ r ∈ rs, r.1 ≤ n ∧ n ≤ r.2 := by
  induction rs with
  | nil => simp [inRanges] at h
  | cons r rs ih =>
    obtain ⟨lo, hi⟩ := r
    simp only [inRanges] at h
    cases hlo : Nat.blt n lo with
    | true => simp [hlo] at h
    | false =>
      have hlo' : ¬ n < lo := by simpa [Nat.blt_eq] using (show ¬ Nat.blt n lo = true by simp [hlo])
      cases hhi : Nat.ble n hi with
      | true => exact ⟨(lo, hi), by simp, by simp; omega, by simpa using Nat.le_of_ble_eq_true hhi⟩
      | false =>
        simp only [hlo, hhi, cond_false] at h
        obtain ⟨r, hr, h⟩ := ih h
        exact ⟨r, by simp [hr], h⟩

end Bilingua.Text
