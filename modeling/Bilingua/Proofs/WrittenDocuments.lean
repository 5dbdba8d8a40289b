import Bilingua.Proofs.WrittenValues
import Mathlib.Data.List.Nodup
import Mathlib.Data.List.TakeWhile

/-!
# Documents as they are written

The lines of a document are blank, hold a comment, or hold a key and its value. In which ways values
are written is a parameter. If they are ways that are read back, so is the document: its entries are
those of its lines, in their order, unless a key is repeated (`parse_writtenDocument`). Each line is taken by itself (`readLines_line`), since the reader of values
stops at the end of the line, and adds its entry to those before it.
-/

namespace Bilingua.Toml

/-- How a key may be written: as it is, if it has only letters, digits, dashes and underscores, or as
a string. -/
inductive WrittenKey : Text → Text → Prop where
  | bare {k : Text} (hne : k ≠ []) (h : ∀ c ∈ k, isBareChar c = true) : WrittenKey k k
  | quoted {k w : Text} (h : Spelled k w) : WrittenKey k ('"' :: (w ++ ['"']))

/-- What is written on a line with the entry that it has, if it has one. How values are written is
for `V` to say. -/
inductive WrittenLine (V : Value → Text → Prop) : Option (Text × Value) → Text → Prop where
  | blank {w : Text} (h : ∀ c ∈ w, isSpace c = true) : WrittenLine V none w
  | comment {w body : Text} (h : ∀ c ∈ w, isSpace c = true) (hbody : ∀ c ∈ body, isControl c = false) :
      WrittenLine V none (w ++ '#' :: body)
  | entry {k kw vw : Text} {v : Value} (hk : WrittenKey k kw) (hv : V v vw) :
      WrittenLine V (some (k, v)) (kw ++ " = ".toList ++ vw)

/-- What is written in a document with these entries. The last line need not be ended. -/
inductive WrittenDocument (V : Value → Text → Prop) : Entries → Text → Prop where
  | last {e : Option (Text × Value)} {w : Text} (h : WrittenLine V e w) :
      WrittenDocument V e.toList w
  | cons {e : Option (Text × Value)} {es : Entries} {w nl t : Text} (h : WrittenLine V e w)
      (hnl : nl = ['\n'] ∨ nl = ['\r', '\n']) (ht : WrittenDocument V es t) :
      WrittenDocument V (e.toList ++ es) (w ++ (nl ++ t))

variable {k kw w vw t u rest nl : Text} {v : Value} {e : Option (Text × Value)} {es root : Entries}
  {V V' : Value → Text → Prop} {c : Char} {n : Nat}

theorem WrittenDocument.mono (hV : ∀ v w, V v w → V' v w) (h : WrittenDocument V es t) :
    WrittenDocument V' es t := by
  have hline : ∀ e w, WrittenLine V e w → WrittenLine V' e w := by
    intro e w h
    cases h with
    | blank h => exact .blank h
    | comment h hbody => exact .comment h hbody
    | entry hk hv => exact .entry hk (hV _ _ hv)
  induction h with
  | last h => exact .last (hline _ _ h)
  | cons h hnl _ ih => exact .cons (hline _ _ h) hnl ih

/-! ## Keys -/

theorem keyPart_of_head? (hdouble : t.head? ≠ some '"') (hsingle : t.head? ≠ some '\'') :
    keyPart t =
      (Text.nonempty? (t.takeWhile isBareChar)).map fun k => (k, t.dropWhile isBareChar) := by
  rw [keyPart]
  · rintro u rfl
    exact hdouble rfl
  · rintro u rfl
    exact hsingle rfl

theorem WrittenKey.head? (h : WrittenKey k kw) (t : Text) :
    ∃ c, (kw ++ t).head? = some c ∧ (c = '"' ∨ isBareChar c = true) := by
  cases h with
  | bare hne h =>
    obtain ⟨c, k, rfl⟩ := List.exists_cons_of_ne_nil hne
    exact ⟨c, rfl, .inr (h c List.mem_cons_self)⟩
  | quoted => exact ⟨'"', rfl, .inl rfl⟩

theorem WrittenKey.head?_ne (h : WrittenKey k kw) (hquote : c ≠ '"') (hbare : isBareChar c = false)
    (t : Text) : (kw ++ t).head? ≠ some c := by
  obtain ⟨d, hd, hkey⟩ := h.head? t
  rw [hd]
  rintro ⟨⟩
  rcases hkey with rfl | hkey
  · exact hquote rfl
  · rw [hbare] at hkey
    cases hkey

theorem keyPart_writtenKey (h : WrittenKey k kw) (t : Text) :
    keyPart (kw ++ ' ' :: t) = some (k, ' ' :: t) := by
  cases h with
  | bare hne h =>
    have hhead : ∀ c, isBareChar c = false → (k ++ ' ' :: t).head? ≠ some c := by
      intro c hc
      rw [List.head?_append_of_ne_nil _ hne]
      intro hhead
      rw [h c (List.mem_of_head? hhead)] at hc
      cases hc
    have htake : (k ++ ' ' :: t).takeWhile isBareChar = k := by
      rw [List.takeWhile_append_of_pos h, List.takeWhile_cons_of_neg (by decide), List.append_nil]
    have hdrop : (k ++ ' ' :: t).dropWhile isBareChar = ' ' :: t := by
      rw [List.dropWhile_append_of_pos h, List.dropWhile_cons_of_neg (by decide)]
    rw [keyPart_of_head? (hhead _ (by decide)) (hhead _ (by decide)), htake, hdrop, Text.nonempty?,
      if_neg (by simpa using hne)]
    rfl
  | quoted h =>
    rw [List.cons_append, List.append_assoc, List.singleton_append, keyPart, basicRest_spelled h]

theorem key_writtenKey (h : WrittenKey k kw) (t : Text) :
    key (kw ++ " = ".toList ++ t) = some (([], k), '=' :: ' ' :: t) := by
  have hspaces : skipSpaces (kw ++ ' ' :: '=' :: ' ' :: t) = kw ++ ' ' :: '=' :: ' ' :: t :=
    skipSpaces_of_head? (h.head?_ne (by decide) (by decide) _) (h.head?_ne (by decide) (by decide) _)
  have hpath : keyPath (78 + 1) (kw ++ ' ' :: '=' :: ' ' :: t) = some ([k], '=' :: ' ' :: t) := by
    rw [keyPath, hspaces, keyPart_writtenKey h]
    rfl
  have htext : kw ++ " = ".toList ++ t = kw ++ ' ' :: '=' :: ' ' :: t := List.append_assoc ..
  rw [htext, key, show maxDepth = 78 + 1 from rfl, hpath]
  rfl

theorem keyValue_written (hk : WrittenKey k kw) (hv : ReadAs v vw) (h : AtLineEnd rest) :
    keyValue (value maxDepth) (kw ++ " = ".toList ++ vw ++ rest) = some ((([], k), v), rest) := by
  have hspace : skipSpaces (' ' :: (vw ++ rest)) = skipSpaces (vw ++ rest) := rfl
  rw [List.append_assoc _ vw, keyValue, key_writtenKey hk, Option.bind_some]
  simp only [mark, if_true, Option.bind_some, hspace, hv rest h]
  rfl

/-! ## Lines -/

def Document.addEntry (d : Document) : Option (Text × Value) → Option Document
  | none => some d
  | some (k, v) => d.add [] k v

theorem AtLineEnd.skipSpaces_eq (h : AtLineEnd rest) : skipSpaces rest = rest :=
  skipSpaces_of_head? (h.head?_ne (by decide) (by decide)) (h.head?_ne (by decide) (by decide))

theorem skipSpaces_append (h : ∀ c ∈ w, isSpace c = true) (t : Text) :
    skipSpaces (w ++ t) = skipSpaces t := List.dropWhile_append_of_pos h

/-- A comment runs up to the end of its line. -/
theorem lineEnd?_comment (hbody : ∀ c ∈ u, isControl c = false) (h : AtLineEnd rest) :
    lineEnd? ('#' :: (u ++ rest)) = lineEnd? rest := by
  have hvisible : ∀ c ∈ u, isVisible c = true := by
    intro c hc
    rw [isVisible_eq, hbody c hc]
    rfl
  have hcomment : skipComment (skipSpaces ('#' :: (u ++ rest))) = rest := by
    show (u ++ rest).dropWhile isVisible = rest
    rw [List.dropWhile_append_of_pos hvisible]
    cases h <;> rfl
  have hend : skipComment (skipSpaces rest) = rest := by
    rw [h.skipSpaces_eq]
    cases h <;> rfl
  rw [lineEnd?, lineEnd?, hcomment, hend]

theorem lineEnd?_newline (hnl : nl = ['\n'] ∨ nl = ['\r', '\n']) (t : Text) :
    lineEnd? (nl ++ t) = some t := by
  rcases hnl with rfl | rfl <;> rfl

theorem atLineEnd_newline (hnl : nl = ['\n'] ∨ nl = ['\r', '\n']) (t : Text) :
    AtLineEnd (nl ++ t) := by
  rcases hnl with rfl | rfl
  · exact .lf t
  · exact .crlf t

theorem statement_entry (d : Document) (hk : WrittenKey k kw) (hv : ReadAs v vw)
    (h : AtLineEnd rest) :
    d.statement (kw ++ " = ".toList ++ vw ++ rest) = (d.add [] k v).map (·, rest) := by
  have hhead : ∀ c, c ≠ '"' → isBareChar c = false → ∀ u, kw ++ " = ".toList ++ vw ++ rest ≠ c :: u := by
    intro c hquote hbare u heq
    refine hk.head?_ne hquote hbare (" = ".toList ++ (vw ++ rest)) ?_
    rw [← List.append_assoc, ← List.append_assoc, heq]
    rfl
  rw [Document.statement, keyValue_written hk hv h, Option.bind_some]
  -- No other statement starts like a key.
  all_goals exact fun _ => hhead _ (by decide) (by decide) _

theorem statement_line (d : Document) (h : WrittenLine ReadAs e w) (hrest : AtLineEnd rest)
    (hne : skipSpaces (w ++ rest) ≠ []) :
    ∃ u, d.statement (skipSpaces (w ++ rest)) = (d.addEntry e).map (·, u) ∧
      lineEnd? u = lineEnd? rest := by
  cases h with
  | blank h =>
    rw [skipSpaces_append h, hrest.skipSpaces_eq] at hne ⊢
    refine ⟨rest, ?_, rfl⟩
    cases hrest with
    | stop => exact absurd rfl hne
    | lf => rfl
    | crlf => rfl
  | @comment w body h hbody =>
    refine ⟨'#' :: (body ++ rest), ?_, lineEnd?_comment hbody hrest⟩
    rw [List.append_assoc, skipSpaces_append h]
    rfl
  | @entry k kw vw v hk hv =>
    have hspaces : skipSpaces (kw ++ " = ".toList ++ vw ++ rest) = kw ++ " = ".toList ++ vw ++ rest := by
      rw [List.append_assoc, List.append_assoc]
      exact skipSpaces_of_head? (hk.head?_ne (by decide) (by decide) _)
        (hk.head?_ne (by decide) (by decide) _)
    rw [hspaces]
    exact ⟨rest, statement_entry d hk hv hrest, rfl⟩

theorem readLines_succ (d : Document) (n : Nat) (hne : skipSpaces t ≠ []) :
    Document.readLines (n + 1) d t =
      (d.statement (skipSpaces t)).bind fun (d, t) => (lineEnd? t).bind fun t => d.readLines n t := by
  rw [Document.readLines]
  split
  · next hnil => exact absurd hnil hne
  · rfl

theorem readLines_of_spaces (d : Document) (n : Nat) (h : skipSpaces t = []) :
    Document.readLines (n + 1) d t = some d := by
  rw [Document.readLines, h]

theorem readLines_line (d : Document) (n : Nat) (h : WrittenLine ReadAs e w) (hrest : AtLineEnd rest)
    (hne : skipSpaces (w ++ rest) ≠ []) :
    Document.readLines (n + 1) d (w ++ rest) =
      (d.addEntry e).bind fun d => (lineEnd? rest).bind fun t => d.readLines n t := by
  obtain ⟨u, hstatement, hend⟩ := statement_line d h hrest hne
  rw [readLines_succ d n hne, hstatement, ← hend]
  cases d.addEntry e <;> rfl

/-! ## Documents -/

def Document.addAll (d : Document) (es : Entries) : Option Document :=
  es.foldlM (fun d e => d.addEntry (some e)) d

theorem Document.addAll_toList_append (d : Document) (e : Option (Text × Value)) (es : Entries) :
    d.addAll (e.toList ++ es) = (d.addEntry e).bind (·.addAll es) := by
  cases e <;> rfl

theorem skipSpaces_ne_nil (hc : c ∈ t) (h : isSpace c = false) : skipSpaces t ≠ [] := by
  intro hnil
  rw [List.dropWhile_eq_nil_iff.1 hnil c hc] at h
  cases h

theorem readLines_nil (d : Document) (hn : 0 < n) : Document.readLines n d [] = some d := by
  obtain ⟨n, rfl⟩ := Nat.exists_eq_add_of_lt hn
  exact readLines_of_spaces d _ rfl

theorem readLines_last (d : Document) (h : WrittenLine ReadAs e w) (hn : w.length < n) :
    Document.readLines n d w = d.addEntry e := by
  obtain ⟨m, rfl⟩ := Nat.exists_eq_add_of_lt hn
  have hline : skipSpaces w ≠ [] → Document.readLines (w.length + m + 1) d w = d.addEntry e := by
    intro hne
    have hlength : 0 < w.length := List.length_pos_iff.2 fun hw => hne (by rw [hw]; rfl)
    have hread := readLines_line d (w.length + m) h .stop (by rwa [List.append_nil])
    rw [List.append_nil] at hread
    rw [hread]
    cases d.addEntry e with
    | none => rfl
    | some d => exact readLines_nil d (by omega)
  cases h with
  | blank h => exact readLines_of_spaces d _ (List.dropWhile_eq_nil_iff.2 h)
  | comment => exact hline (skipSpaces_ne_nil (c := '#') (by simp) rfl)
  | entry => exact hline (skipSpaces_ne_nil (c := '=') (by simp) rfl)

/-- The lines of a document are read as their entries, one after the other. -/
theorem readLines_writtenDocument (d : Document) (h : WrittenDocument ReadAs es t)
    (hn : t.length < n) :
    Document.readLines n d t = d.addAll es := by
  induction h generalizing d n with
  | @last e w h =>
    rw [readLines_last d h hn, ← List.append_nil e.toList, Document.addAll_toList_append]
    cases d.addEntry e <;> rfl
  | @cons e es w nl t h hnl ht ih =>
    have hlf : '\n' ∈ w ++ (nl ++ t) := by rcases hnl with rfl | rfl <;> simp
    -- The line has at least its break, so there is enough fuel for the lines after it.
    have hlength : 0 < nl.length := by rcases hnl with rfl | rfl <;> decide
    obtain ⟨m, rfl⟩ := Nat.exists_eq_add_of_lt hn
    rw [readLines_line d _ h (atLineEnd_newline hnl t) (skipSpaces_ne_nil hlf rfl),
      lineEnd?_newline hnl, Document.addAll_toList_append]
    refine congrArg _ (funext fun d => ih d ?_)
    simp only [List.length_append]
    omega

/-! ## Entries -/

theorem addEntry_eq (k : Text) (v : Value) (root : Entries) :
    Document.addEntry ⟨root, []⟩ (some (k, v)) =
      if k ∈ root.map Prod.fst then none else some ⟨root ++ [(k, v)], []⟩ := by
  have hkey : (root.lookup k).isSome = true ↔ k ∈ root.map Prod.fst := by
    rw [List.lookup_isSome_iff, List.mem_map]
    exact exists_congr fun p => and_congr_right fun _ => beq_iff_eq.trans eq_comm
  have hinsert : root.insertDotted k v [] =
      if k ∈ root.map Prod.fst then none else some (root ++ [(k, v)]) := by
    simp only [Entries.insertDotted, hkey]
  have hadd : Document.addEntry ⟨root, []⟩ (some (k, v)) =
      (root.insertDotted k v []).map fun root => ⟨root, []⟩ := rfl
  rw [hadd, hinsert]
  split <;> rfl

/-- The entries of lines are added to the top table, unless a key is repeated. -/
theorem addAll_eq (h : (root.map Prod.fst).Nodup) :
    Document.addAll ⟨root, []⟩ es =
      if ((root ++ es).map Prod.fst).Nodup then some ⟨root ++ es, []⟩ else none := by
  induction es generalizing root with
  | nil => simp [Document.addAll, h]
  | cons e es ih =>
    obtain ⟨k, v⟩ := e
    have hstep := Document.addAll_toList_append ⟨root, []⟩ (some (k, v)) es
    rw [Option.toList_some, List.singleton_append, addEntry_eq] at hstep
    rw [hstep]
    by_cases hk : k ∈ root.map Prod.fst
    · have hrepeated : ¬ ((root ++ (k, v) :: es).map Prod.fst).Nodup := by
        rw [List.map_append, List.map_cons]
        intro hnodup
        exact List.disjoint_of_nodup_append hnodup hk List.mem_cons_self
      rw [if_pos hk, if_neg hrepeated]
      rfl
    · have hroot : ((root ++ [(k, v)]).map Prod.fst).Nodup := by
        rw [List.map_append, List.map_singleton]
        exact List.nodup_append_comm.1 (List.nodup_cons.2 ⟨hk, h⟩)
      rw [if_neg hk, Option.bind_some, ih hroot, List.append_assoc]
      rfl

theorem head?_append_ne (h : ∀ c ∈ w, isSpace c = true) (hc : isSpace c = false)
    (ht : t.head? ≠ some c) : (w ++ t).head? ≠ some c := by
  cases w with
  | nil => exact ht
  | cons d w =>
    rintro ⟨⟩
    rw [h c List.mem_cons_self] at hc
    cases hc

/-- A document does not start with a byte order mark, which would not be read. -/
theorem WrittenDocument.head?_ne (h : WrittenDocument V es t) : t.head? ≠ some '\uFEFF' := by
  have hline : ∀ e w rest, WrittenLine V e w → AtLineEnd rest → (w ++ rest).head? ≠ some '\uFEFF' := by
    intro e w rest h hrest
    cases h with
    | blank h => exact head?_append_ne h rfl (hrest.head?_ne (by decide) (by decide))
    | comment h =>
      rw [List.append_assoc]
      exact head?_append_ne h rfl (by simp)
    | entry hk =>
      rw [List.append_assoc, List.append_assoc]
      exact hk.head?_ne (by decide) (by decide) _
  cases h with
  | last h =>
    rw [← List.append_nil t]
    exact hline _ _ _ h .stop
  | cons h hnl => exact hline _ _ _ h (atLineEnd_newline hnl _)

/-- A document is read as the entries of its lines, and not at all if a key is repeated. -/
theorem parse_writtenDocument (h : WrittenDocument ReadAs es t) :
    parse t = if (es.map Prod.fst).Nodup then some es else none := by
  have hmark : dropByteOrderMark t = t := by
    rw [dropByteOrderMark]
    rintro u rfl
    exact h.head?_ne rfl
  have hread : Document.readLines (t.length + 1) ⟨[], []⟩ t = Document.addAll ⟨[], []⟩ es :=
    readLines_writtenDocument _ h (Nat.lt_succ_self _)
  have hparse : parse t = (Document.addAll ⟨[], []⟩ es).map (·.root) := by
    simp only [parse, hmark, hread]
  have hadd : Document.addAll ⟨[], []⟩ es = if (es.map Prod.fst).Nodup then some ⟨es, []⟩ else none :=
    addAll_eq List.nodup_nil
  rw [hparse, hadd]
  split <;> rfl

theorem writtenDocument_line {line : Text} (h : WrittenLine V e w)
    (hnl : nl = ['\n'] ∨ nl = ['\r', '\n']) (hline : w ++ nl = line) (ht : WrittenDocument V es t) :
    WrittenDocument V (e.toList ++ es) (line ++ t) := by
  subst hline
  rw [List.append_assoc]
  exact .cons h hnl ht

theorem exists_writtenDocument (h : ∀ e ∈ es, ∃ w, V e.2 w) : ∃ t, WrittenDocument V es t := by
  induction es with
  | nil => exact ⟨[], .last (.blank (List.forall_mem_nil _))⟩
  | cons e es ih =>
    obtain ⟨⟨vw, hv⟩, hes⟩ := List.forall_mem_cons.1 h
    obtain ⟨kw, hk⟩ := exists_spelled e.1
    obtain ⟨t, ht⟩ := ih hes
    exact ⟨_, .cons (.entry (.quoted hk) hv) (.inl rfl) ht⟩

end Bilingua.Toml
