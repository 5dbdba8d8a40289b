import Bilingua.Text.Utf8
import Mathlib.Algebra.Ring.Nat
import Mathlib.Data.List.Lex

/-!
# Byte order

Texts are ordered by their characters. That is the order of the bytes by which they are written in
UTF-8: the first byte of a character says how many follow, and longer characters start with greater
bytes; the bytes that follow hold six bits each, the most significant ones first.
-/

namespace Bilingua.Text

/-- How many bytes continue the character of a code point after its first byte. -/
def trailing (v : Nat) : Nat :=
  if v ≤ 0x7F then 0 else if v ≤ 0x7FF then 1 else if v ≤ 0xFFFF then 2 else 3

/-- The first byte of a character that `n` bytes continue, but for the bits of the character. -/
def leadMark : Nat → Nat
  | 0 => 0
  | 1 => 0xC0
  | 2 => 0xE0
  | _ => 0xF0

def lead (v : Nat) : Nat := leadMark (trailing v) + v / 64 ^ trailing v

/-- The last `n` groups of six bits of a code point, each in a byte that continues a character. -/
def continuation (v : Nat) : Nat → List UInt8
  | 0 => []
  | n + 1 => .ofNat (v / 64 ^ n % 64 + 128) :: continuation v n

variable {a b n v w : Nat} {c d : Char} {s t : List UInt8}

theorem trailing_cases (v : Nat) :
    trailing v = 0 ∧ v ≤ 0x7F ∨ trailing v = 1 ∧ 0x7F < v ∧ v ≤ 0x7FF ∨
      trailing v = 2 ∧ 0x7FF < v ∧ v ≤ 0xFFFF ∨ trailing v = 3 ∧ 0xFFFF < v := by
  unfold trailing
  split_ifs <;> omega

theorem toNat_lt (c : Char) : c.toNat < 0x110000 := by
  have hvalid : c.toNat < 0xD800 ∨ 0xDFFF < c.toNat ∧ c.toNat < 0x110000 := c.valid
  omega

theorem ofNat_cons_lt (ha : a < 256) (hb : b < 256) :
    UInt8.ofNat a :: s < UInt8.ofNat b :: t ↔ a < b ∨ a = b ∧ s < t := by
  rw [List.cons_lt_cons_iff, UInt8.lt_iff_toNat_lt, ← UInt8.toNat_inj, UInt8.toNat_ofNat_of_lt' ha,
    UInt8.toNat_ofNat_of_lt' hb]

/-- A character is its first byte, which has the most significant bits, and what continues it. -/
theorem utf8EncodeChar_eq (c : Char) :
    String.utf8EncodeChar c = .ofNat (lead c.toNat) :: continuation c.toNat (trailing c.toNat) := by
  have hmax := toNat_lt c
  have hval : c.val.toNat = c.toNat := rfl
  unfold String.utf8EncodeChar lead
  rw [hval]
  rcases trailing_cases c.toNat with ⟨hn, h⟩ | ⟨hn, h⟩ | ⟨hn, h⟩ | ⟨hn, h⟩
  · simp [hn, h, leadMark, continuation]
  · have hbits : c.toNat / 64 % 32 = c.toNat / 64 := by omega
    simp [hn, show ¬ c.toNat ≤ 127 by omega, h.2, leadMark, continuation, hbits, Nat.add_comm]
  · have hbits : c.toNat / 4096 % 16 = c.toNat / 4096 := by omega
    simp [hn, show ¬ c.toNat ≤ 127 by omega, show ¬ c.toNat ≤ 2047 by omega, h.2, leadMark,
      continuation, hbits, Nat.add_comm]
  · have hbits : c.toNat / 262144 % 8 = c.toNat / 262144 := by omega
    simp [hn, show ¬ c.toNat ≤ 127 by omega, show ¬ c.toNat ≤ 2047 by omega,
      show ¬ c.toNat ≤ 65535 by omega, leadMark, continuation, hbits, Nat.add_comm]

/-- Codes of the same length are in the order of what the bits after the first byte say. -/
theorem continuation_lt (h : v % 64 ^ n < w % 64 ^ n) :
    continuation v n ++ s < continuation w n ++ t := by
  induction n with
  | zero => simp [Nat.mod_one] at h
  | succ n ih =>
    have hv : v % 64 ^ (n + 1) = v % 64 ^ n + 64 ^ n * (v / 64 ^ n % 64) := Nat.mod_mul
    have hw : w % 64 ^ (n + 1) = w % 64 ^ n + 64 ^ n * (w / 64 ^ n % 64) := Nat.mod_mul
    rw [hv, hw] at h
    rw [continuation, continuation, List.cons_append, List.cons_append,
      ofNat_cons_lt (by omega) (by omega)]
    rcases Nat.lt_trichotomy (v / 64 ^ n % 64) (w / 64 ^ n % 64) with hlt | heq | hgt
    · exact .inl (by omega)
    · rw [heq] at h ⊢
      exact .inr ⟨rfl, ih (by omega)⟩
    · have hgap := Nat.mul_le_mul_left (64 ^ n) (Nat.succ_le_of_lt hgt)
      have hrest := Nat.mod_lt w (Nat.pow_pos (n := n) (show 0 < 64 by decide))
      rw [Nat.mul_succ] at hgap
      omega

theorem lead_lt_256 (h : v < 0x110000) : lead v < 256 := by
  unfold lead
  rcases trailing_cases v with ⟨hn, hv⟩ | ⟨hn, hv⟩ | ⟨hn, hv⟩ | ⟨hn, hv⟩ <;>
    rw [hn, leadMark] <;> omega

theorem trailing_le (h : v ≤ w) : trailing v ≤ trailing w := by
  rcases trailing_cases v with hv | hv | hv | hv <;> rcases trailing_cases w with hw | hw | hw | hw <;>
    omega

theorem lead_lt (h : trailing v < trailing w) : lead v < lead w := by
  unfold lead
  rcases trailing_cases v with ⟨hn, hv⟩ | ⟨hn, hv⟩ | ⟨hn, hv⟩ | ⟨hn, hv⟩ <;>
    rcases trailing_cases w with ⟨hm, hw⟩ | ⟨hm, hw⟩ | ⟨hm, hw⟩ | ⟨hm, hw⟩ <;>
    rw [hn, hm] at h ⊢ <;> simp only [leadMark] <;> omega

theorem utf8EncodeChar_append_lt (h : c < d) (s t : List UInt8) :
    String.utf8EncodeChar c ++ s < String.utf8EncodeChar d ++ t := by
  have hlt : c.toNat < d.toNat := h
  rw [utf8EncodeChar_eq, utf8EncodeChar_eq, List.cons_append, List.cons_append,
    ofNat_cons_lt (lead_lt_256 (toNat_lt c)) (lead_lt_256 (toNat_lt d))]
  rcases Nat.lt_or_eq_of_le (trailing_le hlt.le) with hlength | hlength
  · exact .inl (lead_lt hlength)
  · have hc := Nat.div_add_mod c.toNat (64 ^ trailing d.toNat)
    have hd := Nat.div_add_mod d.toNat (64 ^ trailing d.toNat)
    unfold lead
    rw [hlength]
    rcases Nat.lt_or_eq_of_le (Nat.div_le_div_right (c := 64 ^ trailing d.toNat) hlt.le) with
      hfirst | hfirst
    · exact .inl (Nat.add_lt_add_left hfirst _)
    · rw [hfirst] at hc ⊢
      exact .inr ⟨rfl, continuation_lt (by omega)⟩

theorem utf8_lt_utf8 {s t : Text} (h : s < t) : s.utf8 < t.utf8 := by
  induction h with
  | @nil c t =>
    obtain ⟨x, xs, hcode⟩ := List.exists_cons_of_ne_nil (String.utf8EncodeChar_ne_nil (c := c))
    show [] < String.utf8EncodeChar c ++ utf8 t
    rw [hcode]
    exact .nil
  | cons _ ih => exact List.append_left_lt ih
  | rel hcd => exact utf8EncodeChar_append_lt hcd _ _

end Bilingua.Text
