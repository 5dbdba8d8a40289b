import Bilingua.Proofs.Occurrences
import Bilingua.Proofs.Respelling
import Mathlib.Logic.Basic

/-!
# What the shapes of lines ask for

A connective stands in a line as a whole word if exactly one of the two characters around each of
its ends is a word character. This is said here of positions in the text, without a search
(`Text.WholeAt`), and the shape of a line by the words that stand somewhere in it
(`Line.WellShaped`).

A search goes through the positions from left to right. That it finds a word wherever there is one
is `Text.hasWord_iff_wholeAt`. For two words in order, `Text.hasWordsInOrder_iff_wholeAt`, it has to
try every first word with every second one: the first `de` of a line may be followed by a line feed,
or by no `à`, and a later one be the right one.
-/

namespace Bilingua

namespace Text

def WordAt (t : Text) (i : Nat) : Prop := ∃ c, t[i]? = some c ∧ isWordChar c = true

/-- Of the characters before and after the position, exactly one is a word character. -/
def BoundaryAt (t : Text) (i : Nat) : Prop := Xor (∃ j, j + 1 = i ∧ WordAt t j) (WordAt t i)

/-- The word stands at the position, with a boundary at each of its ends. -/
structure WholeAt (t w : Text) (i : Nat) : Prop where
  stands : w <+: t.drop i
  first : BoundaryAt t i
  last : BoundaryAt t (i + w.length)

def SameLine (t : Text) (i j : Nat) : Prop := ∀ k, i ≤ k → k < j → t[k]? ≠ some '\n'

open Cursor

variable {a b t w behind : Text} {ws first second : List Text} {i : Nat} {p : Cursor}

/-! ## Boundaries -/

theorem startsWord_iff : startsWord t = true ↔ ∃ c, t.head? = some c ∧ isWordChar c = true := by
  cases t with
  | nil => simp [startsWord]
  | cons c t => simp [startsWord]

theorem wordAt_after : WordAt (a ++ b) a.length ↔ startsWord b = true := by
  unfold WordAt
  rw [startsWord_iff, List.getElem?_append_right le_rfl, Nat.sub_self, List.head?_eq_getElem?]

theorem wordAt_before :
    (∃ j, j + 1 = a.length ∧ WordAt (a ++ b) j) ↔ startsWord a.reverse = true := by
  rw [startsWord_iff, List.head?_reverse]
  induction a using List.reverseRecOn with
  | nil => simp
  | append_singleton a c _ =>
    have hlast : (a ++ [c] ++ b)[a.length]? = some c := by simp
    rw [List.getLast?_concat, List.length_append, List.length_singleton]
    constructor
    · rintro ⟨j, hj, hword⟩
      obtain rfl : j = a.length := by omega
      unfold WordAt at hword
      rwa [hlast] at hword
    · rintro ⟨d, hd, hword⟩
      refine ⟨a.length, rfl, d, ?_, hword⟩
      rw [hlast, hd]

theorem boundaryAt_iff : BoundaryAt (a ++ b) a.length ↔ (between a b).atBoundary = true := by
  unfold BoundaryAt
  rw [wordAt_before, wordAt_after, atBoundary_between, bne_iff_ne, xor_iff_not_iff]
  exact not_congr Bool.eq_iff_iff.symm

theorem wholeAt_append : WholeAt (a ++ w ++ b) w a.length ↔ Whole a w b := by
  have hfirst : BoundaryAt (a ++ w ++ b) a.length ↔ (between a (w ++ b)).atBoundary = true := by
    rw [List.append_assoc, boundaryAt_iff]
  have hlast : BoundaryAt (a ++ w ++ b) (a.length + w.length) ↔
      (between (a ++ w) b).atBoundary = true := by
    rw [← List.length_append, boundaryAt_iff]
  constructor
  · intro h
    exact ⟨hfirst.1 h.first, hlast.1 h.last⟩
  · intro h
    refine ⟨?_, hfirst.2 h.first, hlast.2 h.last⟩
    rw [List.append_assoc, List.drop_left]
    exact List.prefix_append w b

theorem lt_length_of_wordAt (h : WordAt t i) : i < t.length := by
  obtain ⟨c, hc, _⟩ := h
  exact (List.getElem?_eq_some_iff.1 hc).1

theorem BoundaryAt.le_length (h : BoundaryAt t i) : i ≤ t.length := by
  rcases h with ⟨⟨j, rfl, hj⟩, _⟩ | ⟨hi, _⟩
  · exact lt_length_of_wordAt hj
  · exact (lt_length_of_wordAt hi).le

/-- A whole word at a position is one between the texts before and after it. -/
theorem wholeAt_iff : WholeAt t w i ↔ ∃ a b, t = a ++ w ++ b ∧ a.length = i ∧ Whole a w b := by
  constructor
  · intro h
    obtain ⟨b, hb⟩ := h.stands
    have ht : t = t.take i ++ w ++ b := by
      rw [List.append_assoc, hb, List.take_append_drop]
    have hi : (t.take i).length = i := List.length_take_of_le h.first.le_length
    refine ⟨t.take i, b, ht, hi, wholeAt_append.1 ?_⟩
    rwa [← ht, hi]
  · rintro ⟨a, b, rfl, rfl, hwhole⟩
    exact wholeAt_append.2 hwhole

/-! ## Searches -/

theorem hasWord_iff_wholeAt : hasWord ws t = true ↔ ∃ w ∈ ws, ∃ i, WholeAt t w i := by
  rw [hasWord_iff]
  constructor
  · rintro ⟨a, w, b, hw, ht, hwhole⟩
    exact ⟨w, hw, a.length, wholeAt_iff.2 ⟨a, b, ht, rfl, hwhole⟩⟩
  · rintro ⟨w, hw, i, hwhole⟩
    obtain ⟨a, b, ht, _, hwhole⟩ := wholeAt_iff.1 hwhole
    exact ⟨a, w, b, hw, ht, hwhole⟩

theorem mem_sameLineFrom : p ∈ sameLineFrom behind t ↔
    ∃ m, t = m ++ p.ahead ∧ p.behind = m.reverse ++ behind ∧ '\n' ∉ m := by
  obtain ⟨pb, pa⟩ := p
  induction t generalizing behind with
  | nil =>
    rw [sameLineFrom, List.mem_singleton]
    constructor
    · rintro ⟨⟩
      exact ⟨[], rfl, rfl, List.not_mem_nil⟩
    · rintro ⟨m, hm, rfl, _⟩
      obtain ⟨rfl, rfl⟩ := List.append_eq_nil_iff.1 hm.symm
      rfl
  | cons c t ih =>
    rw [sameLineFrom, List.mem_cons]
    constructor
    · rintro (h | h)
      · obtain ⟨rfl, rfl⟩ := Cursor.mk.inj h
        exact ⟨[], rfl, rfl, List.not_mem_nil⟩
      · split at h
        · cases h
        · next hc =>
          obtain ⟨m, rfl, hb, hm⟩ := ih.1 h
          refine ⟨c :: m, rfl, by simpa using hb, ?_⟩
          exact mt List.mem_cons.1 (not_or.2 ⟨Ne.symm hc, hm⟩)
    · rintro ⟨m, hm, rfl, hlf⟩
      cases m with
      | nil =>
        obtain rfl : c :: t = pa := hm
        exact .inl rfl
      | cons d m =>
        obtain ⟨rfl, rfl⟩ := List.cons.inj hm
        obtain ⟨hc, hlf⟩ := not_or.1 (mt List.mem_cons.2 hlf)
        rw [if_neg (Ne.symm hc)]
        exact .inr (ih.2 ⟨m, rfl, by simp, hlf⟩)

theorem mem_sameLine_drop : p ∈ ((between a b).sameLine.drop 1) ↔
    ∃ m, b = m ++ p.ahead ∧ p.before = a ++ m ∧ '\n' ∉ m ∧ m ≠ [] := by
  unfold sameLine between
  cases b with
  | nil =>
    simp only [sameLineFrom, List.drop_one, List.tail_cons, List.not_mem_nil, false_iff]
    rintro ⟨m, hm, _, _, hne⟩
    exact hne (List.append_eq_nil_iff.1 hm.symm).1
  | cons c b =>
    rw [sameLineFrom, List.drop_one, List.tail_cons]
    split
    · next hc =>
      simp only [List.not_mem_nil, false_iff]
      rintro ⟨m, hm, _, hlf, hne⟩
      obtain ⟨d, m, rfl⟩ := List.exists_cons_of_ne_nil hne
      exact hlf (by rw [← (List.cons.inj hm).1, hc]; exact List.mem_cons_self)
    · next hc =>
      rw [mem_sameLineFrom]
      constructor
      · rintro ⟨m, rfl, hb, hlf⟩
        refine ⟨c :: m, rfl, ?_, mt List.mem_cons.1 (not_or.2 ⟨Ne.symm hc, hlf⟩), List.cons_ne_nil c m⟩
        rw [before, hb]
        simp
      · rintro ⟨m, hm, hb, hlf, hne⟩
        obtain ⟨d, m, rfl⟩ := List.exists_cons_of_ne_nil hne
        obtain ⟨rfl, hrest⟩ := List.cons.inj hm
        refine ⟨m, hrest, ?_, fun h => hlf (List.mem_cons_of_mem _ h)⟩
        rw [← List.reverse_reverse p.behind, show p.behind.reverse = a ++ c :: m from hb]
        simp

def PrefixFree (ws : List Text) : Prop := ∀ w ∈ ws, ∀ w' ∈ ws, w <+: w' → w = w'

theorem PrefixFree.eq_of_append (h : PrefixFree ws) {w w' b b' : Text} (hw : w ∈ ws) (hw' : w' ∈ ws)
    (heq : w ++ b = w' ++ b') : w = w' := by
  rcases List.prefix_or_prefix_of_prefix (List.prefix_append w b) (heq ▸ List.prefix_append w' b')
    with hpre | hpre
  · exact h w hw w' hw' hpre
  · exact (h w' hw' w hw hpre).symm

/-- Where only one of the words can stand, the whole word that is found is any that stands there. -/
theorem PrefixFree.pastWord?_eq_some {q : Cursor} (h : PrefixFree ws) :
    (between a t).pastWord? ws = some q ↔
      ∃ w ∈ ws, ∃ b, t = w ++ b ∧ q = between (a ++ w) b ∧ Whole a w b := by
  refine ⟨pastWord?_between_eq_some, ?_⟩
  rintro ⟨w, hw, b, rfl, rfl, hwhole⟩
  have hsome : ((between a (w ++ b)).pastWord? ws).isSome = true :=
    isSome_pastWord?_between.2 ⟨w, hw, b, rfl, hwhole⟩
  obtain ⟨q, hq⟩ := Option.isSome_iff_exists.1 hsome
  obtain ⟨w', hw', b', heq, rfl, _⟩ := pastWord?_between_eq_some hq
  obtain rfl := h.eq_of_append hw hw' heq
  rw [hq, List.append_cancel_left heq]

/-- A search for two words in order finds them if they stand in the text with characters of one line
between them. -/
theorem hasWordsInOrder_iff (h : PrefixFree first) :
    hasWordsInOrder first second t = true ↔
      ∃ a v m w b, v ∈ first ∧ w ∈ second ∧ t = a ++ v ++ m ++ w ++ b ∧
        Whole a v (m ++ (w ++ b)) ∧ Whole (a ++ v ++ m) w b ∧ '\n' ∉ m ∧ m ≠ [] := by
  unfold hasWordsInOrder
  rw [List.any_eq_true]
  constructor
  · rintro ⟨p, hp, hsearch⟩
    rw [← between_before_ahead p] at hsearch
    split at hsearch
    · cases hsearch
    · next q hq =>
      obtain ⟨v, hv, c, hahead, rfl, hfirst⟩ := h.pastWord?_eq_some.1 hq
      obtain ⟨r, hr, hsecond⟩ := List.any_eq_true.1 hsearch
      obtain ⟨m, rfl, hbefore, hlf, hne⟩ := mem_sameLine_drop.1 hr
      rw [← between_before_ahead r, isSome_pastWord?_between, hbefore] at hsecond
      obtain ⟨w, hw, b, hrest, hwhole⟩ := hsecond
      rw [hrest] at hahead hfirst
      refine ⟨p.before, v, m, w, b, hv, hw, ?_, hfirst, hwhole, hlf, hne⟩
      rw [mem_onward_start.1 hp, hahead]
      simp only [List.append_assoc]
  · rintro ⟨a, v, m, w, b, hv, hw, rfl, hfirst, hsecond, hlf, hne⟩
    refine ⟨between a (v ++ (m ++ (w ++ b))), mem_onward_start.2 ?_, ?_⟩
    · simp only [before_between, ahead_between, List.append_assoc]
    · rw [h.pastWord?_eq_some.2 ⟨v, hv, _, rfl, rfl, hfirst⟩]
      refine List.any_eq_true.2 ⟨between (a ++ v ++ m) (w ++ b), mem_sameLine_drop.2 ?_, ?_⟩
      · exact ⟨m, rfl, before_between _ _, hlf, hne⟩
      · exact isSome_pastWord?_between.2 ⟨w, hw, b, rfl, hsecond⟩

theorem sameLine_iff {m : Text} :
    SameLine (a ++ m ++ b) a.length (a ++ m).length ↔ '\n' ∉ m := by
  have hget : ∀ k, k < m.length → (a ++ m ++ b)[a.length + k]? = m[k]? := by
    intro k hk
    rw [List.append_assoc, List.getElem?_append_right (by omega), Nat.add_sub_cancel_left,
      List.getElem?_append_left hk]
  rw [List.length_append]
  constructor
  · intro h hmem
    obtain ⟨k, hk, hlf⟩ := List.getElem_of_mem hmem
    refine h (a.length + k) (by omega) (by omega) ?_
    rw [hget k hk, List.getElem?_eq_getElem hk, hlf]
  · intro h k hlo hhi hlf
    obtain ⟨k, rfl⟩ := Nat.exists_eq_add_of_le hlo
    rw [hget k (by omega)] at hlf
    exact h (List.mem_of_getElem? hlf)

/-- A search for two words in order finds them if they stand somewhere in that order, whichever of
the words they are. -/
theorem hasWordsInOrder_iff_wholeAt (h : PrefixFree first) :
    hasWordsInOrder first second t = true ↔
      ∃ v ∈ first, ∃ w ∈ second, ∃ i j, WholeAt t v i ∧ WholeAt t w j ∧ i + v.length < j ∧
        SameLine t (i + v.length) j := by
  rw [hasWordsInOrder_iff h]
  constructor
  · rintro ⟨a, v, m, w, b, hv, hw, rfl, hfirst, hsecond, hlf, hne⟩
    have hpos := List.length_pos_iff.2 hne
    refine ⟨v, hv, w, hw, a.length, (a ++ v ++ m).length, ?_, wholeAt_append.2 hsecond, ?_, ?_⟩
    · refine wholeAt_iff.2 ⟨a, m ++ (w ++ b), ?_, rfl, hfirst⟩
      simp only [List.append_assoc]
    · simp only [List.length_append]
      omega
    · rw [← List.length_append, List.append_assoc _ w b]
      exact sameLine_iff.2 hlf
  · rintro ⟨v, hv, w, hw, i, j, hfirstAt, hsecondAt, hlt, hline⟩
    obtain ⟨a, c, ht, rfl, hfirst⟩ := wholeAt_iff.1 hfirstAt
    obtain ⟨a', b, ht', rfl, hsecond⟩ := wholeAt_iff.1 hsecondAt
    -- The second word starts after the first one, so the text before it goes on after the first.
    have hpre : a ++ v <+: t := ht ▸ List.prefix_append _ c
    have hpre' : a' <+: t := by
      rw [ht', List.append_assoc]
      exact List.prefix_append _ _
    have hle : (a ++ v).length ≤ a'.length := by
      rw [List.length_append]
      exact hlt.le
    obtain ⟨m, rfl⟩ := List.prefix_of_prefix_length_le hpre hpre' hle
    have hc : c = m ++ (w ++ b) := by
      rw [ht'] at ht
      simpa using ht.symm
    have hne : m ≠ [] := by
      rintro rfl
      simp at hlt
    rw [hc] at hfirst
    rw [ht', ← List.length_append, List.append_assoc _ w b, sameLine_iff] at hline
    exact ⟨a, v, m, w, b, hv, hw, ht', hfirst, hsecond, hline, hne⟩

end Text

namespace Line

open Text

/-- What is asked of a trimmed line of each kind, by the words that stand in it. -/
def WellShaped : LineKind → Text → Prop
  | .opener .function, t =>
    t.getLast? = some '.' ∨ ∃ w ∈ ["qui prend".toList, "that takes".toList], ∃ i, WholeAt t w i
  | .opener .forLoop, t =>
    t.getLast? = some '.' ∧
      ∃ v ∈ ["de".toList, "from".toList], ∃ w ∈ ["à".toList, "to".toList], ∃ i j,
        WholeAt t v i ∧ WholeAt t w j ∧ i + v.length < j ∧ SameLine t (i + v.length) j
  | .declaration, t =>
    t.getLast? = some '.' ∧
      ∃ w ∈ ["appelé".toList, "called".toList], ∃ e ∈ [[], ['e']], ∃ i, WholeAt t (w ++ e) i
  | .assignment, t =>
    t.getLast? = some '.' ∧ ∃ w ∈ ["à".toList, "to".toList], ∃ i, WholeAt t w i
  | .opener .conditional, t | .opener .whileLoop, t | .display, t => t.getLast? = some '.'
  | _, _ => True

def shapeCode? : LineKind → Option Code
  | .opener .function => some .malformedFunction
  | .opener .conditional => some .malformedConditional
  | .opener .whileLoop => some .malformedWhileLoop
  | .opener .forLoop => some .malformedForLoop
  | .declaration => some .malformedDeclaration
  | .assignment => some .malformedAssignment
  | .display => some .displayTerminator
  | _ => none

variable {k : Construct} {kind : LineKind} {t : Text} {code : Code}

theorem endsWithPeriod_iff : t.endsWithPeriod = true ↔ t.getLast? = some '.' := beq_iff_eq

theorem hasWord_calledForms : t.hasWord calledForms = true ↔
    ∃ w ∈ ["appelé".toList, "called".toList], ∃ e ∈ [[], ['e']], ∃ i, WholeAt t (w ++ e) i := by
  have hforms : ∀ form ∈ calledForms,
      ∃ w ∈ ["appelé".toList, "called".toList], ∃ e ∈ [[], ['e']], form = w ++ e := by
    decide
  have hmem : ∀ w ∈ ["appelé".toList, "called".toList], ∀ e ∈ [[], ['e']], w ++ e ∈ calledForms := by
    decide
  rw [hasWord_iff_wholeAt]
  constructor
  · rintro ⟨form, hform, i, hwhole⟩
    obtain ⟨w, hw, e, he, rfl⟩ := hforms form hform
    exact ⟨w, hw, e, he, i, hwhole⟩
  · rintro ⟨w, hw, e, he, i, hwhole⟩
    exact ⟨w ++ e, hmem w hw e he, i, hwhole⟩

theorem openerShape_iff : openerShape k t = true ↔ WellShaped (.opener k) t := by
  cases k with
  | function =>
    simp only [openerShape, WellShaped, Bool.or_eq_true, endsWithPeriod_iff, hasWord_iff_wholeAt]
    exact or_comm
  | conditional => exact endsWithPeriod_iff
  | whileLoop => exact endsWithPeriod_iff
  | forLoop =>
    have hfree : PrefixFree Keyword.rangeFrom.spellings := by
      unfold PrefixFree
      decide
    simp only [openerShape, WellShaped, Bool.and_eq_true, endsWithPeriod_iff,
      hasWordsInOrder_iff_wholeAt hfree]
    rfl

theorem declarationShape_iff : declarationShape t = true ↔ WellShaped .declaration t := by
  simp only [declarationShape, WellShaped, Bool.and_eq_true, endsWithPeriod_iff, hasWord_calledForms]

theorem assignmentShape_iff : assignmentShape t = true ↔ WellShaped .assignment t := by
  simp only [assignmentShape, WellShaped, Bool.and_eq_true, endsWithPeriod_iff, hasWord_iff_wholeAt]
  rfl

theorem displayShape_iff : displayShape t = true ↔ WellShaped .display t := by
  rw [displayShape_eq]
  exact endsWithPeriod_iff

/-- A check that gives a code unless it holds tells whether it holds. -/
theorem code_unless {check : Bool} {P : Prop} {c : Code} (h : check = true ↔ P) :
    ((if check then none else some c) = none ↔ P) ∧
      ∀ code, (if check then none else some c) = some code ↔ ¬ P ∧ some c = some code := by
  by_cases hP : P
  · simp [h.2 hP, hP]
  · simp [mt h.1 hP, hP]

theorem defect_iff (kind : LineKind) (t : Text) :
    (defect kind t = none ↔ WellShaped kind t) ∧
      ∀ code, defect kind t = some code ↔ ¬ WellShaped kind t ∧ shapeCode? kind = some code := by
  cases kind with
  | opener k => cases k <;> exact code_unless openerShape_iff
  | declaration => exact code_unless declarationShape_iff
  | assignment => exact code_unless assignmentShape_iff
  | display => exact code_unless displayShape_iff
  | _ => simp [defect, WellShaped]

/-- The shape of a line is found wrong exactly if the words that its kind asks for do not stand in
it, and then the code is that of the kind. -/
theorem shape_decided (line : Text) :
    ((read line).defect = none ↔ WellShaped (classify line) line.trim) ∧
      ∀ code, (read line).defect = some code ↔
        ¬ WellShaped (classify line) line.trim ∧ shapeCode? (classify line) = some code :=
  defect_iff (classify line) line.trim

/-- The first `de` is cut off from what follows by a line feed, the second one is no whole word. -/
example : (read "Pour i de\n x, d'entre x\u0301de, from 1 à 3.".toList).defect = none := by
  decide +kernel

end Line

end Bilingua
