import Bilingua.Proofs.Respelling

/-!
# The order of the rules

The kind of a line is found by trying eleven rules one after the other. But no text is accepted by two
of them: where one leading keyword ends no other one does, and a line that it leads is neither empty
nor a comment nor a closer (`Line.accepted_unique`). So the rules may be tried in any order, with the
shapes that they ask for (`Line.readBy_perm`), and what a line of some kind looks like can be said
without the failure of other rules (`Line.Fits`).
-/

namespace Bilingua

/-! ## Lines by their text -/

/-- The text starts with a spelling of the keyword, and if a character comes next, it does not
continue the word. -/
def Keyword.Leads (k : Keyword) (t : Text) : Prop :=
  ∃ l rest, t = k.spelling l ++ rest ∧
    ∀ c, rest.head? = some c → Text.isAlphanumeric c = false ∧ c ≠ '_' ∧ c ≠ '\''

/-- What the trimmed text of a line of the kind looks like. -/
def Line.Fits (t : Text) : LineKind → Prop
  | .blank => t = []
  | .comment => "//".toList <+: t
  | .opener k => (Keyword.opener k).Leads t
  | .closer k => ∃ l, t = k.closer l
  | .elseBranch => Keyword.elseBranch.Leads t
  | .declaration => Keyword.declaration.Leads t
  | .assignment => Keyword.assignment.Leads t
  | .display => Keyword.display.Leads t
  | .plain => (∀ rule ∈ Line.rules, rule t = none) ∧ t.count '(' = t.count ')'
  | .unrecognized => (∀ rule ∈ Line.rules, rule t = none) ∧ t.count '(' ≠ t.count ')'

namespace Keyword

variable {k k' : Keyword} {t rest : Text}

theorem endsHere_iff : endsHere rest = true ↔
    ∀ c, rest.head? = some c → Text.isAlphanumeric c = false ∧ c ≠ '_' ∧ c ≠ '\'' := by
  cases rest with
  | nil => simp [endsHere]
  | cons c rest => simp [endsHere, continues, and_assoc]

theorem starts_iff (hk : k ∈ leading) : k.starts t = true ↔ k.Leads t := by
  unfold starts Leads
  simp only [Option.isSome_iff_exists, after?_eq_some_iff hk, endsHere_iff]
  exact exists_comm

/-- The kind of the lines that a keyword leads; a connective leads none. -/
def lineKind : Keyword → LineKind
  | .opener k => .opener k
  | .elseBranch => .elseBranch
  | .declaration => .declaration
  | .assignment => .assignment
  | .display => .display
  | _ => .plain

theorem forall_leading {p : Keyword → Prop} (hopener : ∀ c, p (.opener c))
    (helse : p .elseBranch) (hdeclaration : p .declaration) (hassignment : p .assignment)
    (hdisplay : p .display) : ∀ k ∈ leading, p k := by
  intro k hk
  cases k with
  | opener c => exact hopener c
  | elseBranch => exact helse
  | declaration => exact hdeclaration
  | assignment => exact hassignment
  | display => exact hdisplay
  | _ => exact absurd hk (by decide)

theorem opener_mem_leading (c : Construct) : .opener c ∈ leading := by cases c <;> decide

theorem Leads.after?_ne_none (hk : k ∈ leading) (h : k.Leads t) : k.after? t ≠ none :=
  Option.isSome_iff_ne_none.1 ((starts_iff hk).2 h)

theorem Leads.unique (hk : k ∈ leading) (hk' : k' ∈ leading) (h : k.Leads t) (h' : k'.Leads t) :
    k' = k := by
  obtain ⟨l, rest, rfl, hr⟩ := h
  by_contra hne
  exact h'.after?_ne_none hk' (after?_of_ne hk hk' hne (endsHere_iff.2 hr))

end Keyword

theorem countP_le_one {α : Type} {p : α → Bool} {xs : List α}
    (h : xs.Pairwise fun a b => ¬ (p a = true ∧ p b = true)) : xs.countP p ≤ 1 := by
  induction xs with
  | nil => simp
  | cons a xs ih =>
    rw [List.pairwise_cons] at h
    rw [List.countP_cons]
    split
    · next ha =>
      have hnone : xs.countP p = 0 := List.countP_eq_zero.2 fun b hb hp => h.1 b hb ⟨ha, hp⟩
      omega
    · have := ih h.2
      omega

namespace Line

variable {k : Keyword} {c : Construct} {l : Language} {t : Text} {kind kind' : LineKind}
  {rule : Rule}

/-! ## What a rule accepts -/

theorem mem_rules : rule ∈ rules ↔ rule = .blank ∨ rule = .comment ∨ rule = .closer ∨
    ∃ k ∈ Keyword.leading, rule = .leading k k.lineKind := by
  constructor
  · intro h
    simp only [rules, List.mem_cons, List.not_mem_nil, or_false] at h
    rcases h with h | h | h | h | h | h | h | h | h | h | h
    · exact .inl h
    · exact .inr (.inl h)
    · exact .inr (.inr (.inr ⟨.opener .function, by decide, h⟩))
    · exact .inr (.inr (.inr ⟨.opener .conditional, by decide, h⟩))
    · exact .inr (.inr (.inr ⟨.opener .whileLoop, by decide, h⟩))
    · exact .inr (.inr (.inr ⟨.opener .forLoop, by decide, h⟩))
    · exact .inr (.inr (.inl h))
    · exact .inr (.inr (.inr ⟨.elseBranch, by decide, h⟩))
    · exact .inr (.inr (.inr ⟨.declaration, by decide, h⟩))
    · exact .inr (.inr (.inr ⟨.assignment, by decide, h⟩))
    · exact .inr (.inr (.inr ⟨.display, by decide, h⟩))
  · rintro (rfl | rfl | rfl | ⟨k, hk, rfl⟩)
    · simp [rules]
    · simp [rules]
    · simp [rules]
    · revert k
      refine Keyword.forall_leading (fun c => ?_) ?_ ?_ ?_ ?_
      · cases c <;> simp [rules, Rule.opener, Keyword.lineKind]
      all_goals simp [rules, Keyword.lineKind]

theorem blank_eq_some : Rule.blank t = some kind ↔ t = [] ∧ kind = .blank := by
  unfold Rule.blank
  rw [Option.ite_none_right_eq_some, List.isEmpty_iff, Option.some_inj]
  exact and_congr_right fun _ => eq_comm

theorem comment_eq_some : Rule.comment t = some kind ↔ "//".toList <+: t ∧ kind = .comment := by
  have hstart : (t.dropStart? "//".toList).isSome = true ↔ "//".toList <+: t := by
    simp only [Option.isSome_iff_exists, Text.dropStart?_eq_some]
    exact exists_congr fun _ => eq_comm
  unfold Rule.comment
  rw [Option.ite_none_right_eq_some, hstart, Option.some_inj]
  exact and_congr_right fun _ => eq_comm

theorem closed?_closer : closed? (c.closer l) = some c := by
  cases c <;> cases l <;> decide

theorem closer_eq_some :
    Rule.closer t = some kind ↔ ∃ c, (∃ l, t = Construct.closer c l) ∧ kind = .closer c := by
  unfold Rule.closer
  rw [Option.map_eq_some_iff]
  constructor
  · rintro ⟨c, hc, rfl⟩
    unfold closed? at hc
    have hany := List.find?_some hc
    obtain ⟨l, _, hl⟩ := List.any_eq_true.1 hany
    exact ⟨c, ⟨l, eq_of_beq hl⟩, rfl⟩
  · rintro ⟨c, ⟨l, rfl⟩, rfl⟩
    exact ⟨c, closed?_closer, rfl⟩

theorem leading_eq_some (hk : k ∈ Keyword.leading) :
    Rule.leading k k.lineKind t = some kind ↔ k.Leads t ∧ kind = k.lineKind := by
  unfold Rule.leading
  rw [Option.ite_none_right_eq_some, Keyword.starts_iff hk, Option.some_inj]
  exact and_congr_right fun _ => eq_comm

theorem kind_of_leading (h : Rule.leading k kind t = some kind') : kind' = kind := by
  unfold Rule.leading at h
  rw [Option.ite_none_right_eq_some, Option.some_inj] at h
  exact h.2.symm

def Accepted (t : Text) (kind : LineKind) : Prop := ∃ rule ∈ rules, rule t = some kind

theorem accepted_iff : Accepted t kind ↔
    (t = [] ∧ kind = .blank) ∨ ("//".toList <+: t ∧ kind = .comment) ∨
      (∃ c, (∃ l, t = Construct.closer c l) ∧ kind = .closer c) ∨
      ∃ k ∈ Keyword.leading, k.Leads t ∧ kind = k.lineKind := by
  constructor
  · rintro ⟨rule, hrule, h⟩
    rcases mem_rules.1 hrule with rfl | rfl | rfl | ⟨k, hk, rfl⟩
    · exact .inl (blank_eq_some.1 h)
    · exact .inr (.inl (comment_eq_some.1 h))
    · exact .inr (.inr (.inl (closer_eq_some.1 h)))
    · exact .inr (.inr (.inr ⟨k, hk, (leading_eq_some hk).1 h⟩))
  · rintro (h | h | h | ⟨k, hk, h⟩)
    · exact ⟨.blank, mem_rules.2 (.inl rfl), blank_eq_some.2 h⟩
    · exact ⟨.comment, mem_rules.2 (.inr (.inl rfl)), comment_eq_some.2 h⟩
    · exact ⟨.closer, mem_rules.2 (.inr (.inr (.inl rfl))), closer_eq_some.2 h⟩
    · exact ⟨.leading k k.lineKind, mem_rules.2 (.inr (.inr (.inr ⟨k, hk, rfl⟩))),
        (leading_eq_some hk).2 h⟩

/-! ## At most one rule accepts -/

theorem kind_of_leads (hk : k ∈ Keyword.leading) (hlead : k.Leads t) (h : Accepted t kind) :
    kind = k.lineKind := by
  obtain ⟨l, rest, ht, hr⟩ := id hlead
  have hword := Keyword.wordlike hk l
  rcases accepted_iff.1 h with hblank | hcomment | hcloser | ⟨k', hk', hlead', rfl⟩
  · have := blank_eq_some.2 hblank
    rw [ht, hword.blank_append] at this
    cases this
  · have := comment_eq_some.2 hcomment
    rw [ht, hword.comment_append] at this
    cases this
  · have := closer_eq_some.2 hcloser
    unfold Rule.closer at this
    rw [ht, closed?_keyword hk (Keyword.endsHere_iff.2 hr)] at this
    cases this
  · rw [Keyword.Leads.unique hk hk' hlead hlead']

theorem kind_of_closer (h : Accepted (c.closer l) kind) : kind = .closer c := by
  rcases accepted_iff.1 h with ⟨hnil, _⟩ | ⟨hcomment, _⟩ | ⟨c', ⟨l', heq⟩, rfl⟩ | ⟨k, hk, hlead, _⟩
  · have hne : c.closer l ≠ [] := by cases c <;> cases l <;> decide
    exact absurd hnil hne
  · have hne : ¬ "//".toList <+: c.closer l := by cases c <;> cases l <;> decide
    exact absurd hcomment hne
  · have hsame := closed?_closer (c := c) (l := l)
    rw [heq, closed?_closer, Option.some_inj] at hsame
    rw [hsame]
  · exact absurd (Keyword.after?_closer hk) (hlead.after?_ne_none hk)

/-- No text is accepted by rules that give it different kinds. -/
theorem accepted_unique (h : Accepted t kind) (h' : Accepted t kind') : kind = kind' := by
  have hcomment : ¬ "//".toList <+: [] := by decide
  rcases accepted_iff.1 h with ⟨rfl, rfl⟩ | ⟨ht, rfl⟩ | ⟨c, ⟨l, rfl⟩, rfl⟩ | ⟨k, hk, hlead, rfl⟩
  · rcases accepted_iff.1 h' with ⟨_, rfl⟩ | ⟨ht, _⟩ | ⟨c, ⟨l, hc⟩, rfl⟩ | ⟨k, hk, hlead, rfl⟩
    · rfl
    · exact absurd ht hcomment
    · exact kind_of_closer (hc ▸ h)
    · exact kind_of_leads hk hlead h
  · rcases accepted_iff.1 h' with ⟨rfl, _⟩ | ⟨_, rfl⟩ | ⟨c, ⟨l, rfl⟩, rfl⟩ | ⟨k, hk, hlead, rfl⟩
    · exact absurd ht hcomment
    · rfl
    · exact kind_of_closer h
    · exact kind_of_leads hk hlead h
  · exact (kind_of_closer h').symm
  · exact (kind_of_leads hk hlead h').symm

theorem kinds_apart : rules.Pairwise fun rule rule' =>
    ∀ t kind, rule t = some kind → rule' t ≠ some kind := by
  simp [rules, Rule.blank, Rule.comment, Rule.opener, Rule.closer, Rule.leading]

theorem pairwise_rules (t : Text) :
    rules.Pairwise fun rule rule' => ¬ ((rule t).isSome = true ∧ (rule' t).isSome = true) := by
  refine kinds_apart.imp_of_mem fun hrule hrule' hapart => ?_
  rintro ⟨h, h'⟩
  obtain ⟨kind, hkind⟩ := Option.isSome_iff_exists.1 h
  obtain ⟨kind', hkind'⟩ := Option.isSome_iff_exists.1 h'
  have := accepted_unique ⟨_, hrule, hkind⟩ ⟨_, hrule', hkind'⟩
  exact hapart t kind hkind (this ▸ hkind')

theorem countP_rules_le_one (t : Text) : rules.countP (fun rule => (rule t).isSome) ≤ 1 :=
  countP_le_one (pairwise_rules t)

theorem findSome?_rules : rules.findSome? (fun rule => rule t) = some kind ↔ Accepted t kind :=
  findSome?_eq_some_iff_exists fun rule hrule rule' hrule' _ _ h h' =>
    accepted_unique ⟨rule, hrule, h⟩ ⟨rule', hrule', h'⟩

/-! ## Any order -/

/-- A rule with the check of the shape of the lines that it accepts. -/
structure CheckedRule where
  rule : Rule
  defect : Text → Option Code

def checkedRules : List CheckedRule :=
  [⟨.blank, fun _ => none⟩, ⟨.comment, fun _ => none⟩,
    ⟨.opener .function, defect (.opener .function)⟩,
    ⟨.opener .conditional, defect (.opener .conditional)⟩,
    ⟨.opener .whileLoop, defect (.opener .whileLoop)⟩,
    ⟨.opener .forLoop, defect (.opener .forLoop)⟩,
    ⟨.closer, fun _ => none⟩,
    ⟨.leading .elseBranch .elseBranch, fun _ => none⟩,
    ⟨.leading .declaration .declaration, defect .declaration⟩,
    ⟨.leading .assignment .assignment, defect .assignment⟩,
    ⟨.leading .display .display, defect .display⟩]

def readBy (table : List CheckedRule) (line : Text) : Reading :=
  let t := line.trim
  let (kind, defect) := (table.findSome? fun r => (r.rule t).map fun kind => (kind, r.defect t)).getD
    (remainingKind t, none)
  ⟨kind, defect, !kind.isCode || parensBalanced t⟩

theorem mem_rules_of_mem_checkedRules {r : CheckedRule} (hr : r ∈ checkedRules) : r.rule ∈ rules :=
  List.mem_map_of_mem (f := CheckedRule.rule) hr

theorem exists_checkedRule (h : rule ∈ rules) : ∃ r ∈ checkedRules, r.rule = rule :=
  List.mem_map.1 (show rule ∈ checkedRules.map CheckedRule.rule from h)

/-- The check that comes with a rule is the one for the kind that the rule gives. -/
theorem defect_of_mem_checkedRules {r : CheckedRule} (hr : r ∈ checkedRules)
    (h : r.rule t = some kind) : r.defect t = defect kind t := by
  simp only [checkedRules, List.mem_cons, List.not_mem_nil, or_false] at hr
  rcases hr with rfl | rfl | rfl | rfl | rfl | rfl | rfl | rfl | rfl | rfl | rfl
  · rw [(blank_eq_some.1 h).2]
    rfl
  · rw [(comment_eq_some.1 h).2]
    rfl
  · rw [kind_of_leading h]
  · rw [kind_of_leading h]
  · rw [kind_of_leading h]
  · rw [kind_of_leading h]
  · obtain ⟨c, _, rfl⟩ := closer_eq_some.1 h
    rfl
  · rw [kind_of_leading h]
    rfl
  · rw [kind_of_leading h]
  · rw [kind_of_leading h]
  · rw [kind_of_leading h]

/-- What a table in any order finds is the kind of the text with the defect of its shape. -/
theorem findSome?_perm {table : List CheckedRule} (h : table.Perm checkedRules) (t : Text) :
    table.findSome? (fun r => (r.rule t).map fun kind => (kind, r.defect t)) =
      (rules.findSome? fun rule => rule t).map fun kind => (kind, defect kind t) := by
  have hvalue : ∀ r ∈ table, ∀ x, (r.rule t).map (fun kind => (kind, r.defect t)) = some x →
      Accepted t x.1 ∧ x = (x.1, defect x.1 t) := by
    intro r hr x hx
    obtain ⟨kind, hkind, rfl⟩ := Option.map_eq_some_iff.1 hx
    have hmem := h.mem_iff.1 hr
    exact ⟨⟨r.rule, mem_rules_of_mem_checkedRules hmem, hkind⟩,
      by rw [defect_of_mem_checkedRules hmem hkind]⟩
  apply Option.ext
  intro x
  rw [findSome?_eq_some_iff_exists, Option.map_eq_some_iff]
  · constructor
    · rintro ⟨r, hr, hx⟩
      obtain ⟨haccepted, hdefect⟩ := hvalue r hr x hx
      exact ⟨x.1, findSome?_rules.2 haccepted, hdefect.symm⟩
    · rintro ⟨kind, hkind, rfl⟩
      obtain ⟨rule, hrule, haccepts⟩ := findSome?_rules.1 hkind
      obtain ⟨r, hr, rfl⟩ := exists_checkedRule hrule
      refine ⟨r, h.mem_iff.2 hr, ?_⟩
      rw [haccepts, Option.map_some, defect_of_mem_checkedRules hr haccepts]
  · intro r hr r' hr' x y hx hy
    obtain ⟨hacceptedx, hdefectx⟩ := hvalue r hr x hx
    obtain ⟨hacceptedy, hdefecty⟩ := hvalue r' hr' y hy
    rw [hdefectx, hdefecty, accepted_unique hacceptedx hacceptedy]

theorem defect_remainingKind (t : Text) : defect (remainingKind t) t = none := by
  unfold remainingKind
  split <;> rfl

theorem readBy_perm {table : List CheckedRule} (h : table.Perm checkedRules) (line : Text) :
    readBy table line = read line := by
  simp only [readBy, read, classify, kindBy, findSome?_perm h]
  cases rules.findSome? fun rule => rule line.trim with
  | none => simp only [Option.map_none, Option.getD_none, defect_remainingKind]
  | some kind => rfl

/-! ## Kinds without order -/

theorem fits_lineKind : ∀ k ∈ Keyword.leading, Fits t k.lineKind ↔ k.Leads t :=
  Keyword.forall_leading (fun _ => Iff.rfl) Iff.rfl Iff.rfl Iff.rfl Iff.rfl

theorem fits_of_accepted (h : Accepted t kind) : Fits t kind := by
  rcases accepted_iff.1 h with ⟨ht, rfl⟩ | ⟨ht, rfl⟩ | ⟨c, ht, rfl⟩ | ⟨k, hk, ht, rfl⟩
  · exact ht
  · exact ht
  · exact ht
  · exact (fits_lineKind k hk).2 ht

/-- A text that looks like lines of a kind is given the kind by a rule, or by none. -/
theorem accepted_of_fits (h : Fits t kind) :
    Accepted t kind ∨ (∀ rule ∈ rules, rule t = none) ∧ remainingKind t = kind := by
  have hlead : ∀ k ∈ Keyword.leading, k.Leads t → Accepted t k.lineKind := fun k hk hleads =>
    accepted_iff.2 (.inr (.inr (.inr ⟨k, hk, hleads, rfl⟩)))
  cases kind with
  | blank => exact .inl (accepted_iff.2 (.inl ⟨h, rfl⟩))
  | comment => exact .inl (accepted_iff.2 (.inr (.inl ⟨h, rfl⟩)))
  | closer c => exact .inl (accepted_iff.2 (.inr (.inr (.inl ⟨c, h, rfl⟩))))
  | opener c => exact .inl (hlead _ (Keyword.opener_mem_leading c) h)
  | elseBranch => exact .inl (hlead .elseBranch (by decide) h)
  | declaration => exact .inl (hlead .declaration (by decide) h)
  | assignment => exact .inl (hlead .assignment (by decide) h)
  | display => exact .inl (hlead .display (by decide) h)
  | plain => exact .inr ⟨h.1, if_pos (beq_iff_eq.2 h.2)⟩
  | unrecognized => exact .inr ⟨h.1, if_neg fun heq => h.2 (beq_iff_eq.1 heq)⟩

theorem fits_remainingKind (h : ∀ rule ∈ rules, rule t = none) : Fits t (remainingKind t) := by
  unfold remainingKind
  split
  · next hp => exact ⟨h, beq_iff_eq.1 hp⟩
  · next hp => exact ⟨h, fun heq => hp (beq_iff_eq.2 heq)⟩

theorem kindBy_eq_iff : kindBy rules t = kind ↔ Fits t kind := by
  unfold kindBy
  rw [Option.getD_eq_iff, findSome?_rules, List.findSome?_eq_none_iff]
  constructor
  · rintro (h | ⟨h, rfl⟩)
    · exact fits_of_accepted h
    · exact fits_remainingKind h
  · exact accepted_of_fits

/-- The order of the rules does not matter. At most one of them accepts the text of a line; tried in
any order, they give the line the same reading; and it has a kind exactly if its text looks like
lines of the kind. -/
theorem rule_order_free (line : Text) :
    rules.countP (fun rule => (rule line.trim).isSome) ≤ 1 ∧
    (∀ table : List CheckedRule, table.Perm checkedRules → readBy table line = read line) ∧
    ∀ kind, classify line = kind ↔ Fits line.trim kind :=
  ⟨countP_rules_le_one line.trim, fun _ h => readBy_perm h line, fun _ => kindBy_eq_iff⟩

/-- A line whose first letters are those of another keyword. -/
def elseLine : Text := "  Sinon, (affiche x ".toList

theorem elseLine_read :
    checkedRules.reverse.Perm checkedRules ∧
    readBy checkedRules.reverse elseLine = ⟨.elseBranch, none, false⟩ ∧
    Keyword.elseBranch.Leads elseLine.trim ∧ ¬ (Keyword.opener .conditional).Leads elseLine.trim := by
  obtain ⟨_, hread, hkind⟩ := rule_order_free elseLine
  have hclassify : classify elseLine = .elseBranch := by decide +kernel
  refine ⟨List.reverse_perm _, ?_, (hkind .elseBranch).1 hclassify, fun hlead => ?_⟩
  · rw [hread _ (List.reverse_perm _)]
    decide +kernel
  · have := (hkind (.opener .conditional)).2 hlead
    rw [hclassify] at this
    cases this

end Line

end Bilingua
