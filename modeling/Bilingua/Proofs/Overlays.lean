import Bilingua.Proofs.WrittenDocuments
import Bilingua.Settings.Reader

/-!
# Settings documents

A settings document chooses some of the fields, in any order. Written down in any way, it is read as
the default settings with these fields overwritten (`Settings.overlays_read_back`): its lines are read
as entries, each entry as its field, and fields do not touch each other, so that their order does not
matter.

With one line more that no settings have, it is not read at all: a line with a key that it has
already, with a key of no field, or with a name that is none of a field's variants. A tab size of zero
is another matter, for which the document has to be read first.
-/

namespace Bilingua.Settings

open Toml (ReadAs WrittenDocument WrittenKey WrittenLine WrittenValue)

inductive Choice where
  | tabSize (n : Nat)
  | preference (p : Preference)
  | interpreter (path : Text)
  | elseCheck (check : ElseCheck)
deriving DecidableEq

namespace Choice

def key : Choice → Text
  | .tabSize _ => "tab-size".toList
  | .preference _ => "preferred-language".toList
  | .interpreter _ => "interpreter-path".toList
  | .elseCheck _ => "else-check".toList

def value : Choice → Toml.Value
  | .tabSize n => .integer n
  | .preference .french => .string "french".toList
  | .preference .english => .string "english".toList
  | .preference .both => .string "both".toList
  | .interpreter path => .string path
  | .elseCheck .unchecked => .string "unchecked".toList
  | .elseCheck .warn => .string "warn".toList

def apply (s : Settings) : Choice → Settings
  | .tabSize n => { s with tabSize := n }
  | .preference p => { s with preference := p }
  | .interpreter path => { s with interpreter := path }
  | .elseCheck check => { s with elseCheck := check }

end Choice

structure Overlay where
  tabSize : Option Nat
  preference : Option Preference
  interpreter : Option Text
  elseCheck : Option ElseCheck

def Overlay.over (o : Overlay) (s : Settings) : Settings where
  tabSize := o.tabSize.getD s.tabSize
  preference := o.preference.getD s.preference
  interpreter := o.interpreter.getD s.interpreter
  elseCheck := o.elseCheck.getD s.elseCheck

def Overlay.choices (o : Overlay) : List Choice :=
  (o.tabSize.map .tabSize).toList ++ (o.preference.map .preference).toList ++
    (o.interpreter.map .interpreter).toList ++ (o.elseCheck.map .elseCheck).toList

def entriesOf (cs : List Choice) : Toml.Entries := cs.map fun c => (c.key, c.value)

variable {o : Overlay} {cs : List Choice} {c c' : Choice} {es : Toml.Entries}
  {k t name : Text} {v : Toml.Value} {e : Error}

/-! ## Choices -/

theorem readField_choice (s : Settings) (c : Choice) : readField s c.key c.value = .ok (c.apply s) := by
  cases c with
  | tabSize n => rfl
  | preference p => cases p <;> rfl
  | interpreter path => rfl
  | elseCheck check => cases check <;> rfl

theorem readFields_choices (s : Settings) (cs : List Choice) (es : Toml.Entries) :
    readFields s (entriesOf cs ++ es) = readFields (cs.foldl Choice.apply s) es := by
  induction cs generalizing s with
  | nil => rfl
  | cons c cs ih =>
    rw [entriesOf, List.map_cons, List.cons_append, readFields, readField_choice]
    exact ih (c.apply s)

/-- Fields do not touch each other. -/
theorem apply_comm (h : c.key ≠ c'.key) (s : Settings) :
    c'.apply (c.apply s) = c.apply (c'.apply s) := by
  cases c with
  | tabSize =>
    cases c' with
    | tabSize => exact absurd rfl h
    | _ => rfl
  | preference =>
    cases c' with
    | preference => exact absurd rfl h
    | _ => rfl
  | interpreter =>
    cases c' with
    | interpreter => exact absurd rfl h
    | _ => rfl
  | elseCheck =>
    cases c' with
    | elseCheck => exact absurd rfl h
    | _ => rfl

theorem key_toList_sublist {α : Type} {f : α → Choice} (h : ∀ a, (f a).key = k) (x : Option α) :
    ((x.map f).toList.map Choice.key).Sublist [k] := by
  cases x with
  | none => exact List.nil_sublist _
  | some a =>
    show [(f a).key].Sublist [k]
    rw [h a]

theorem key_choices_sublist (o : Overlay) : (o.choices.map Choice.key).Sublist fieldNames := by
  simp only [Overlay.choices, List.map_append]
  have htab := key_toList_sublist (f := .tabSize) (fun _ => rfl) o.tabSize
  have hpreference := key_toList_sublist (f := .preference) (fun _ => rfl) o.preference
  have hinterpreter := key_toList_sublist (f := .interpreter) (fun _ => rfl) o.interpreter
  have helse := key_toList_sublist (f := .elseCheck) (fun _ => rfl) o.elseCheck
  exact ((htab.append hpreference).append hinterpreter).append helse

theorem nodup_key_choices (o : Overlay) : (o.choices.map Choice.key).Nodup :=
  (key_choices_sublist o).nodup (by decide)

theorem foldl_choices (o : Overlay) (s : Settings) : o.choices.foldl Choice.apply s = o.over s := by
  obtain ⟨tabSize, preference, interpreter, elseCheck⟩ := o
  cases tabSize <;> cases preference <;> cases interpreter <;> cases elseCheck <;> rfl

theorem foldl_apply (h : cs.Perm o.choices) (s : Settings) : cs.foldl Choice.apply s = o.over s := by
  have hinj := List.inj_on_of_nodup_map (nodup_key_choices o)
  rw [← foldl_choices]
  refine h.foldl_eq' (fun c hc c' hc' s => ?_) s
  by_cases hkey : c.key = c'.key
  -- An overlay has only one choice of a key, so the two are the same.
  · rw [hinj (h.mem_iff.1 hc) (h.mem_iff.1 hc') hkey]
  · exact apply_comm hkey s

theorem keys_entriesOf (cs : List Choice) : (entriesOf cs).map Prod.fst = cs.map Choice.key :=
  List.map_map

theorem nodup_entriesOf (h : cs.Perm o.choices) : ((entriesOf cs).map Prod.fst).Nodup := by
  rw [keys_entriesOf]
  exact (h.map Choice.key).nodup_iff.2 (nodup_key_choices o)

/-! ## Documents -/

theorem ofText_of_writtenDocument (ht : WrittenDocument ReadAs es t) (h : (es.map Prod.fst).Nodup) :
    ofText t = (readFields .default es).bind validated := by
  simp only [ofText, Toml.parse_writtenDocument ht, if_pos h]
  cases readFields .default es <;> rfl

/-- A document is read as its choices, and then looked at for its tab size. -/
theorem ofText_choices (h : cs.Perm o.choices) (ht : WrittenDocument ReadAs (entriesOf cs) t) :
    ofText t = if o.tabSize = some 0 then .error .zeroTabSize else .ok (o.over .default) := by
  have hread := readFields_choices .default cs []
  rw [List.append_nil, foldl_apply h, readFields] at hread
  have hzero : (o.over .default).tabSize = 0 ↔ o.tabSize = some 0 := by
    show o.tabSize.getD 4 = 0 ↔ _
    cases o.tabSize <;> simp
  rw [ofText_of_writtenDocument ht (nodup_entriesOf h), hread]
  simp only [Except.bind, validated, hzero]

theorem ofText_repeated (ht : WrittenDocument ReadAs es t) (h : ¬ (es.map Prod.fst).Nodup) :
    ofText t = .error .syntaxError := by
  rw [ofText, Toml.parse_writtenDocument ht, if_neg h]

/-- The first line that no settings have is told of, wherever it stands. -/
theorem readFields_eq_error (hes : es.Perm ((k, v) :: entriesOf cs))
    (hbad : ∀ s, readField s k v = .error e) (s : Settings) : readFields s es = .error e := by
  obtain ⟨before, after, rfl⟩ := List.append_of_mem (hes.mem_iff.2 List.mem_cons_self)
  have hchoices : ∀ e ∈ before, e ∈ entriesOf cs := by
    intro e he
    have hrest := (List.perm_middle.symm.trans hes).cons_inv
    exact hrest.mem_iff.1 (List.mem_append_left after he)
  clear hes
  -- The lines before it are choices, and each of them is read.
  induction before generalizing s with
  | nil => simp only [List.nil_append, readFields, hbad]
  | cons e before ih =>
    obtain ⟨he, hbefore⟩ := List.forall_mem_cons.1 hchoices
    obtain ⟨c, _, rfl⟩ := List.mem_map.1 he
    simp only [List.cons_append, readFields, readField_choice]
    exact ih _ hbefore

/-- A document with one line more that no settings have is not read. -/
theorem ofText_added (h : cs.Perm o.choices) (hes : es.Perm ((k, v) :: entriesOf cs))
    (ht : WrittenDocument ReadAs es t) (hk : k ∉ cs.map Choice.key)
    (hbad : ∀ s, readField s k v = .error e) : ofText t = .error e := by
  have hnodup : (es.map Prod.fst).Nodup := by
    rw [(hes.map Prod.fst).nodup_iff, List.map_cons, List.nodup_cons]
    refine ⟨?_, nodup_entriesOf h⟩
    rwa [keys_entriesOf]
  rw [ofText_of_writtenDocument ht hnodup, readFields_eq_error hes hbad]
  rfl

/-! ## Lines that no settings have -/

theorem readField_unknown (hk : k ∉ fieldNames) (s : Settings) (v : Toml.Value) :
    readField s k v = .error (.unknownField k) := by
  simp only [fieldNames, List.mem_cons, List.not_mem_nil, or_false, not_or] at hk
  obtain ⟨htab, hpreference, hinterpreter, helse⟩ := hk
  rw [readField, if_neg htab, if_neg hpreference, if_neg hinterpreter, if_neg helse]

theorem variantNamed_eq_error {α : Type} {variants : List (Text × α)}
    (h : name ∉ variants.map Prod.fst) :
    variantNamed variants name = .error (.unknownVariant name (variants.map Prod.fst)) := by
  have hnone : variants.lookup name = none := by
    rw [List.lookup_eq_none_iff]
    intro p hp
    rw [bne_iff_ne]
    rintro rfl
    exact h (List.mem_map_of_mem hp)
  rw [variantNamed, hnone]

/-- The fields whose values have names, and these names. -/
def variantNames : List (Text × List Text) :=
  [("preferred-language".toList, ["french".toList, "english".toList, "both".toList]),
    ("else-check".toList, ["unchecked".toList, "warn".toList])]

/-- Both fields are read in the same way, by the table of their variants. -/
theorem readField_variant {names : List Text} (hk : (k, names) ∈ variantNames) (h : name ∉ names)
    (s : Settings) : readField s k (.string name) = .error (.unknownVariant name names) := by
  simp only [variantNames, List.mem_cons, List.not_mem_nil, or_false, Prod.mk.injEq] at hk
  rcases hk with ⟨rfl, rfl⟩ | ⟨rfl, rfl⟩
  · have hnone : variantNamed preferences name = _ := variantNamed_eq_error h
    show (do return { s with preference := ← variantNamed preferences name }) = _
    rw [hnone]
    rfl
  · have hnone : variantNamed elseChecks name = _ := variantNamed_eq_error h
    show (do return { s with elseCheck := ← variantNamed elseChecks name }) = _
    rw [hnone]
    rfl

/-! ## Overlays -/

theorem exists_writtenValue (h : ∀ n, c = .tabSize n → n < 2 ^ 63) : ∃ w, WrittenValue c.value w := by
  have hstring : ∀ s, ∃ w, WrittenValue (.string s) w := by
    intro s
    obtain ⟨w, hw⟩ := Toml.exists_spelled s
    exact ⟨_, .string hw⟩
  cases c with
  | tabSize n => exact ⟨_, .integer (h n rfl)⟩
  | preference p => cases p <;> exact hstring _
  | interpreter path => exact hstring path
  | elseCheck check => cases check <;> exact hstring _

theorem tabSize_mem_choices {n : Nat} : .tabSize n ∈ o.choices ↔ o.tabSize = some n := by
  simp [Overlay.choices]

/-- Settings documents are read back. Whatever fields an overlay chooses, in whatever order and way
they are written down, the document is read as the default settings with these fields overwritten, and
a tab size of zero is refused. A document with one more line is not read if the key of the line is
repeated or is that of no field, or if the value names no variant of the field. A value may also be
written in another way than `WrittenValue` has it, if that is read as the value. -/
theorem overlays_read_back (o : Overlay) (cs : List Choice) (h : cs.Perm o.choices) :
    ((∀ n, o.tabSize = some n → n < 2 ^ 63) → ∃ t, WrittenDocument WrittenValue (entriesOf cs) t) ∧
    ∀ V : Toml.Value → Text → Prop, (∀ v w, V v w → WrittenValue v w ∨ ReadAs v w) →
      (∀ t, WrittenDocument V (entriesOf cs) t →
        ofText t = if o.tabSize = some 0 then .error .zeroTabSize else .ok (o.over .default)) ∧
      ∀ es k v t, es.Perm ((k, v) :: entriesOf cs) → WrittenDocument V es t →
        (k ∈ cs.map Choice.key → ofText t = .error .syntaxError) ∧
        (k ∉ fieldNames → ofText t = .error (.unknownField k)) ∧
        ∀ names name, (k, names) ∈ variantNames → k ∉ cs.map Choice.key → v = .string name →
          name ∉ names → ofText t = .error (.unknownVariant name names) := by
  refine ⟨fun hbound => ?_, fun V hV => ?_⟩
  · refine Toml.exists_writtenDocument (List.forall_mem_map.2 fun c hc => exists_writtenValue ?_)
    rintro n rfl
    exact hbound n (tabSize_mem_choices.1 (h.mem_iff.1 hc))
  · have hread : ∀ v w, V v w → ReadAs v w := fun v w hv => (hV v w hv).elim (·.readAs) id
    refine ⟨fun t ht => ofText_choices h (ht.mono hread), fun es k v t hes ht => ?_⟩
    replace ht := ht.mono hread
    refine ⟨?_, ?_, ?_⟩
    · intro hk
      refine ofText_repeated ht fun hnodup => ?_
      rw [(hes.map Prod.fst).nodup_iff, List.map_cons, List.nodup_cons, keys_entriesOf] at hnodup
      exact hnodup.1 hk
    · intro hk
      refine ofText_added h hes ht (fun hmem => hk ?_) fun s => readField_unknown hk s v
      exact (key_choices_sublist o).subset ((h.map Choice.key).mem_iff.1 hmem)
    · rintro names name hvariant hk rfl hname
      exact ofText_added h hes ht hk fun s => readField_variant hvariant hname s

def sampleOverlay : Overlay := ⟨some 2, none, some ['a', '"', '\x07'], some .warn⟩

def sampleChoices : List Choice := [.elseCheck .warn, .tabSize 2, .interpreter ['a', '"', '\x07']]

/-- A document of the choices with a comment, a line of spaces and no end of its last line. -/
def sampleText : Text :=
  "# réglages\r\n".toList ++ ("else-check = \"warn\"\n".toList ++ ("\t\n".toList ++
    ("tab-size = 2\n".toList ++ "interpreter-path = \"a\\\"\\u0007\"".toList)))

theorem writtenKey_field (h : k ∈ fieldNames) : WrittenKey k k := by
  have hall : fieldNames.all (fun k => !k.isEmpty && k.all Toml.isBareChar) = true := by decide
  have hk := List.all_eq_true.1 hall k h
  rw [Bool.and_eq_true, Bool.not_eq_true', List.isEmpty_eq_false_iff] at hk
  exact .bare hk.1 (List.all_eq_true.1 hk.2)

theorem sampleText_written : WrittenDocument WrittenValue (entriesOf sampleChoices) sampleText := by
  have hbody : " réglages".toList.all (fun c => !Toml.isControl c) = true := by decide
  have hcomment : WrittenLine WrittenValue none ([] ++ '#' :: " réglages".toList) :=
    .comment (by simp) fun c hc => by simpa using List.all_eq_true.1 hbody c hc
  have hcheck := WrittenLine.entry (writtenKey_field (k := "else-check".toList) (by decide))
    (WrittenValue.string (Toml.spelled_self (s := "warn".toList) rfl))
  have hspaces : WrittenLine WrittenValue none ['\t'] := .blank (by simp [Toml.isSpace])
  have hsize := WrittenLine.entry (writtenKey_field (k := "tab-size".toList) (by decide))
    (WrittenValue.integer (n := 2) (by decide))
  have hbell : Toml.HexNumber ['0', '0', '0', '7'] 7 :=
    ⟨[0, 0, 0, 7], .cons (.inl rfl) (.cons (.inl rfl) (.cons (.inl rfl) (.cons (.inl rfl) .nil))), rfl⟩
  have hescaped : Toml.SpelledChar '\x07' ['\\', 'u', '0', '0', '0', '7'] := .short rfl hbell
  have hpath : Toml.Spelled ['a', '"', '\x07'] ['a', '\\', '"', '\\', 'u', '0', '0', '0', '7'] :=
    .cons (.plain rfl (by decide) (by decide)) (.cons (.letter (l := '"') (by decide))
      (.cons hescaped .nil))
  have hlast : WrittenDocument WrittenValue [("interpreter-path".toList, .string ['a', '"', '\x07'])]
      "interpreter-path = \"a\\\"\\u0007\"".toList :=
    .last (.entry (writtenKey_field (k := "interpreter-path".toList) (by decide)) (.string hpath))
  exact Toml.writtenDocument_line hcomment (.inr rfl) rfl <|
    Toml.writtenDocument_line hcheck (.inl rfl) rfl <|
    Toml.writtenDocument_line hspaces (.inl rfl) rfl <|
    Toml.writtenDocument_line hsize (.inl rfl) rfl hlast

theorem sampleText_read :
    sampleChoices.Perm sampleOverlay.choices ∧
    (∃ t, WrittenDocument WrittenValue (entriesOf sampleChoices) t) ∧
    ofText sampleText = .ok ⟨2, .both, ['a', '"', '\x07'], .warn⟩ ∧
    ofText ("tab-size = 8\n".toList ++ sampleText) = .error .syntaxError ∧
    ofText ("\"\" = 1\n".toList ++ sampleText) = .error (.unknownField []) ∧
    ofText ("preferred-language = \"German\"\n".toList ++ sampleText) =
      .error (.unknownVariant "German".toList ["french".toList, "english".toList, "both".toList]) := by
  have hperm : sampleChoices.Perm sampleOverlay.choices := by decide
  obtain ⟨hwritable, hdocuments⟩ := overlays_read_back sampleOverlay sampleChoices hperm
  obtain ⟨hread, hadded⟩ := hdocuments WrittenValue fun _ _ => .inl
  refine ⟨hperm, hwritable ?_, ?_, ?_, ?_, ?_⟩
  · rintro n ⟨⟩
    decide
  · rw [hread sampleText sampleText_written]
    rfl
  · have hline := WrittenLine.entry (writtenKey_field (k := "tab-size".toList) (by decide))
      (WrittenValue.integer (n := 8) (by decide))
    have hdocument := Toml.writtenDocument_line hline (.inl rfl) rfl sampleText_written
    exact (hadded _ _ _ _ (.refl _) hdocument).1 (by decide)
  · have hline := WrittenLine.entry (.quoted .nil) (WrittenValue.integer (n := 1) (by decide))
    have hdocument := Toml.writtenDocument_line hline (.inl rfl) rfl sampleText_written
    exact (hadded _ _ _ _ (.refl _) hdocument).2.1 (by decide)
  · have hline := WrittenLine.entry (writtenKey_field (k := "preferred-language".toList) (by decide))
      (WrittenValue.string (Toml.spelled_self (s := "German".toList) rfl))
    have hdocument := Toml.writtenDocument_line hline (.inl rfl) rfl sampleText_written
    exact (hadded _ _ _ _ (.refl _) hdocument).2.2 _ _ (by decide) (by decide) rfl (by decide)

end Bilingua.Settings
