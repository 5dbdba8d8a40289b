import Bilingua.Analysis
import Bilingua.Proofs.ByteOrder
import Mathlib.Algebra.BigOperators.Group.List.Basic
import Mathlib.Data.Char
import Mathlib.Data.List.Dedup
import Mathlib.Data.List.Induction

/-!
# Stores and their histories

A store holds, for each document, what the last operation on it left, and nothing else of its
history. Operations on different documents do not see each other and can change places.

`get?` is the view of a store: `Store.get?_insert` and `Store.get?_erase` say what the operations do
to it, and stores that look alike are the same (`Store.ext_get?`). The entries of a store are then
those of the recorded documents, up to their order (`Store.entries_perm`), which gives all counts.
-/

namespace Bilingua.Store

variable {s s' : Store} {u : Text} {fs : List Finding}

/-! ## The view of a store -/

theorem lookup_cons_eq (e : Text × List Finding) (es : List (Text × List Finding)) (u : Text) :
    (e :: es).lookup u = if u = e.1 then some e.2 else es.lookup u := by
  rw [List.lookup_cons]
  by_cases hu : u = e.1
  · rw [if_pos hu, beq_iff_eq.2 hu]
  · rw [if_neg hu, beq_eq_false_iff_ne.2 hu]

theorem lookup_insertEntry (uri : Text) (fs : List Finding) (es : List (Text × List Finding))
    (u : Text) :
    (insertEntry uri fs es).lookup u = if u = uri then some fs else es.lookup u := by
  induction es with
  | nil => exact lookup_cons_eq (uri, fs) [] u
  | cons e es ih =>
    rw [insertEntry]
    split
    · next huri =>
      rw [lookup_cons_eq, lookup_cons_eq, ← huri]
      split <;> rfl
    · next huri =>
      split
      · exact lookup_cons_eq (uri, fs) (e :: es) u
      · -- The entry in front keeps its place, and it is not that of `uri`.
        rw [lookup_cons_eq, lookup_cons_eq, ih]
        by_cases hu : u = e.1
        · rw [if_pos hu, if_pos hu, if_neg (hu ▸ Ne.symm huri)]
        · rw [if_neg hu, if_neg hu]

theorem get?_insert (s : Store) (uri : Text) (fs : List Finding) (u : Text) :
    (s.insert uri fs).get? u = if u = uri then some fs else s.get? u :=
  lookup_insertEntry uri fs s.entries u

theorem lookup_filter_ne (uri : Text) (es : List (Text × List Finding)) (u : Text) :
    (es.filter fun e => e.1 != uri).lookup u = if u = uri then none else es.lookup u := by
  induction es with
  | nil => exact (ite_self _).symm
  | cons e es ih =>
    rw [lookup_cons_eq]
    by_cases he : e.1 = uri
    · rw [List.filter_cons_of_neg (by simpa using he), ih, he]
      split <;> rfl
    · rw [List.filter_cons_of_pos (by simpa using he), lookup_cons_eq, ih]
      by_cases hu : u = uri
      · rw [if_pos hu, if_pos hu, if_neg (hu ▸ Ne.symm he)]
      · rw [if_neg hu, if_neg hu]

theorem get?_erase (s : Store) (uri u : Text) :
    (s.erase uri).get? u = if u = uri then none else s.get? u :=
  lookup_filter_ne uri s.entries u

theorem mem_iff_lookup {es : List (Text × List Finding)} (h : Entries.Ordered es) :
    (u, fs) ∈ es ↔ es.lookup u = some fs := by
  induction es with
  | nil => simp
  | cons e es ih =>
    obtain ⟨hfirst, hrest⟩ := List.pairwise_cons.1 h
    rw [lookup_cons_eq, List.mem_cons]
    by_cases hu : u = e.1
    · have hnot : (u, fs) ∉ es := fun hmem => absurd (hfirst _ hmem) (hu ▸ lt_irrefl u)
      rw [if_pos hu, Option.some_inj, or_iff_left hnot, Prod.ext_iff]
      exact ⟨fun h => h.2.symm, fun h => ⟨hu, h.symm⟩⟩
    · have hnot : (u, fs) ≠ e := fun heq => hu (congrArg Prod.fst heq)
      rw [if_neg hu, or_iff_right hnot, ih hrest]

theorem mem_entries : (u, fs) ∈ s.entries ↔ s.get? u = some fs := mem_iff_lookup s.ordered

theorem nodup_entries (s : Store) : s.entries.Nodup :=
  s.ordered.imp fun {e e'} hlt heq => by
    subst heq
    exact lt_irrefl e.1 hlt

theorem ext_get? (hget : ∀ u, s.get? u = s'.get? u) : s = s' := by
  have hperm : s.entries.Perm s'.entries :=
    (List.perm_ext_iff_of_nodup s.nodup_entries s'.nodup_entries).2 fun ⟨u, fs⟩ => by
      rw [mem_entries, mem_entries, hget]
  have hentries : s.entries = s'.entries :=
    hperm.eq_of_pairwise (fun e e' _ _ hlt hgt => absurd hlt (lt_asymm hgt)) s.ordered s'.ordered
  cases s
  cases s'
  simpa using hentries

/-! ## Operations -/

/-- A change of a store: a document gets the findings that are given, or those that settings make of
its text, or it is forgotten. -/
inductive Operation where
  | replace (uri : Text) (findings : List Finding)
  | refresh (settings : Settings) (uri text : Text)
  | remove (uri : Text)

namespace Operation

def uri : Operation → Text
  | .replace uri _ => uri
  | .refresh _ uri _ => uri
  | .remove uri => uri

def leaves : Operation → Option (List Finding)
  | .replace _ fs => some fs
  | .refresh settings _ text => some (settings.findings text)
  | .remove _ => none

/-- Carry out the operation: what it gives back, and the store after it. A document that is refreshed
is given back as it is now. -/
def perform : Operation → Store → Option (List Finding) × Store
  | .replace uri fs, s => s.replace uri fs
  | .refresh settings uri text, s =>
    let after := settings.refresh s uri text
    (some ((after.get? uri).getD []), after)
  | .remove uri, s => s.remove uri

variable {op op' : Operation}

theorem get?_perform (op : Operation) (s : Store) (u : Text) :
    (op.perform s).2.get? u = if u = op.uri then op.leaves else s.get? u := by
  cases op with
  | replace uri fs => exact get?_insert s uri fs u
  | refresh settings uri text => exact get?_insert s uri (settings.findings text) u
  | remove uri => exact get?_erase s uri u

theorem fst_perform_congr (h : s.get? op.uri = s'.get? op.uri) :
    (op.perform s).1 = (op.perform s').1 := by
  cases op with
  | replace uri fs => exact h
  | refresh settings uri text =>
    show some (((s.insert uri (settings.findings text)).get? uri).getD []) =
      some (((s'.insert uri (settings.findings text)).get? uri).getD [])
    rw [get?_insert, get?_insert, if_pos rfl, if_pos rfl]
  | remove uri => exact h

theorem fst_perform_perform (h : op.uri ≠ op'.uri) (s : Store) :
    (op.perform (op'.perform s).2).1 = (op.perform s).1 :=
  fst_perform_congr (by rw [get?_perform, if_neg h])

/-- Operations on different documents can change places. -/
theorem perform_comm (h : op.uri ≠ op'.uri) (s : Store) :
    (op'.perform (op.perform s).2).2 = (op.perform (op'.perform s).2).2 := by
  refine ext_get? fun u => ?_
  rw [get?_perform, get?_perform, get?_perform, get?_perform]
  by_cases hu : u = op.uri
  · rw [if_pos hu, if_pos hu, if_neg (hu ▸ h)]
  · rw [if_neg hu, if_neg hu]

end Operation

/-! ## Histories -/

open Operation

variable {ops : List Operation} {op op' : Operation}

def ofHistory (ops : List Operation) : Store := ops.foldl (fun s op => (op.perform s).2) .empty

/-- What the last operation on a document left of it. -/
def left (ops : List Operation) (u : Text) : Option (List Finding) :=
  (ops.reverse.find? (·.uri = u)).bind leaves

/-- The documents of which operations left something. -/
def recorded (ops : List Operation) : List Text :=
  (ops.map uri).dedup.filter fun u => (left ops u).isSome

theorem ofHistory_concat (ops : List Operation) (op : Operation) :
    ofHistory (ops ++ [op]) = (op.perform (ofHistory ops)).2 := by
  rw [ofHistory, List.foldl_append]
  rfl

theorem left_concat (ops : List Operation) (op : Operation) (u : Text) :
    left (ops ++ [op]) u = if u = op.uri then op.leaves else left ops u := by
  unfold left
  rw [List.reverse_append, List.reverse_singleton, List.singleton_append]
  by_cases hu : u = op.uri
  · rw [if_pos hu, List.find?_cons_of_pos (by simp [hu])]
    rfl
  · rw [if_neg hu, List.find?_cons_of_neg (by simpa using Ne.symm hu)]

theorem ofHistory_swap (h : op.uri ≠ op'.uri) (ops later : List Operation) :
    ofHistory (ops ++ op :: op' :: later) = ofHistory (ops ++ op' :: op :: later) := by
  have hcomm := perform_comm h (ofHistory ops)
  unfold ofHistory at hcomm ⊢
  simp only [List.foldl_append, List.foldl_cons, hcomm]

theorem get?_ofHistory (ops : List Operation) (u : Text) : (ofHistory ops).get? u = left ops u := by
  induction ops using List.reverseRecOn with
  | nil => rfl
  | append_singleton ops op ih => rw [ofHistory_concat, get?_perform, left_concat, ih]

theorem mem_entries_ofHistory : (u, fs) ∈ (ofHistory ops).entries ↔ left ops u = some fs := by
  rw [mem_entries, get?_ofHistory]

theorem mem_uris_ofHistory :
    u ∈ (ofHistory ops).entries.map Prod.fst ↔ (left ops u).isSome := by
  rw [List.mem_map, Option.isSome_iff_exists]
  constructor
  · rintro ⟨⟨v, fs⟩, he, rfl⟩
    exact ⟨fs, mem_entries_ofHistory.1 he⟩
  · rintro ⟨fs, hfs⟩
    exact ⟨(u, fs), mem_entries_ofHistory.2 hfs, rfl⟩

theorem mem_uris_of_left (h : (left ops u).isSome) : u ∈ ops.map uri := by
  obtain ⟨fs, hfs⟩ := Option.isSome_iff_exists.1 h
  obtain ⟨op, hfind, _⟩ := Option.bind_eq_some_iff.1 hfs
  have huri : op.uri = u := by simpa using List.find?_some hfind
  exact List.mem_map.2 ⟨op, List.mem_reverse.1 (List.mem_of_find?_eq_some hfind), huri⟩

theorem mem_recorded : u ∈ recorded ops ↔ (left ops u).isSome := by
  rw [recorded, List.mem_filter, List.mem_dedup]
  exact ⟨fun h => h.2, fun h => ⟨mem_uris_of_left h, h⟩⟩

theorem nodup_recorded (ops : List Operation) : (recorded ops).Nodup :=
  (List.nodup_dedup _).filter _

theorem entries_perm (ops : List Operation) :
    (ofHistory ops).entries.Perm ((recorded ops).map fun u => (u, (left ops u).getD [])) := by
  have hnodup : ((recorded ops).map fun u => (u, (left ops u).getD [])).Nodup :=
    (nodup_recorded ops).map fun u v huv => congrArg Prod.fst huv
  refine (List.perm_ext_iff_of_nodup (nodup_entries _) hnodup).2 fun ⟨u, fs⟩ => ?_
  rw [mem_entries_ofHistory, List.mem_map]
  constructor
  · intro h
    exact ⟨u, mem_recorded.2 (by rw [h]; rfl), by rw [h]; rfl⟩
  · rintro ⟨v, hv, heq⟩
    obtain ⟨rfl, rfl⟩ := Prod.mk.inj heq
    obtain ⟨fs, hfs⟩ := Option.isSome_iff_exists.1 (mem_recorded.1 hv)
    rw [hfs]
    rfl

theorem countP_findings (p : Finding → Bool) (ops : List Operation) :
    (ofHistory ops).findings.countP p =
      ((recorded ops).map fun u => ((left ops u).getD []).countP p).sum := by
  have hsum := ((entries_perm ops).map fun e => e.2.countP p).sum_eq
  rw [List.map_map] at hsum
  exact (List.countP_flatMap ..).trans hsum

theorem errorCount_add_warningCount (s : Store) :
    s.errorCount + s.warningCount = s.findings.length := by
  unfold errorCount warningCount
  rw [List.length_eq_countP_add_countP Finding.isError]
  congr 1
  refine List.countP_congr fun f _ => ?_
  unfold Finding.isError Finding.isWarning
  cases f.severity <;> decide

/-- The last operation on a document wins. What a store shows, gives back, lists and counts is a
matter of what the last operations left, in whatever order operations on different documents came. -/
theorem last_write_wins (ops : List Operation) :
    (∀ u, (ofHistory ops).get? u = left ops u) ∧
    (∀ u fs, ((ofHistory ops).replace u fs).1 = left ops u ∧
      ((ofHistory ops).remove u).1 = left ops u) ∧
    (∀ op op' later, op.uri ≠ op'.uri →
      ofHistory (ops ++ op :: op' :: later) = ofHistory (ops ++ op' :: op :: later) ∧
      (op.perform (ofHistory ops)).1 = (op.perform (ofHistory (ops ++ [op']))).1 ∧
      (op'.perform (ofHistory (ops ++ [op]))).1 = (op'.perform (ofHistory ops)).1) ∧
    (∀ u fs, (u, fs) ∈ (ofHistory ops).entries ↔ left ops u = some fs) ∧
    (∀ u, ((ofHistory ops).entries.map Prod.fst).count u = if (left ops u).isSome then 1 else 0) ∧
    ((ofHistory ops).entries.map Prod.fst).Pairwise (fun u v => Text.utf8 u < Text.utf8 v) ∧
    (ofHistory ops).size = (recorded ops).length ∧
    (ofHistory ops).errorCount + (ofHistory ops).warningCount =
      ((recorded ops).map fun u => ((left ops u).getD []).length).sum ∧
    (ofHistory ops).errorCount =
      ((recorded ops).map fun u =>
        ((left ops u).getD []).countP fun f => f.code.severity = .error).sum := by
  have huris : ((ofHistory ops).entries.map Prod.fst).Pairwise (· < ·) :=
    List.pairwise_map.2 (ofHistory ops).ordered
  have hnodup : ((ofHistory ops).entries.map Prod.fst).Nodup := huris.imp ne_of_lt
  refine ⟨get?_ofHistory ops, fun u fs => ⟨get?_ofHistory ops u, get?_ofHistory ops u⟩,
    fun op op' later h => ⟨ofHistory_swap h ops later, ?_, ?_⟩, fun u fs => mem_entries_ofHistory,
    fun u => ?_, huris.imp Text.utf8_lt_utf8, ?_, ?_, ?_⟩
  · rw [ofHistory_concat, fst_perform_perform h]
  · rw [ofHistory_concat, fst_perform_perform h.symm]
  · simp only [hnodup.count, mem_uris_ofHistory]
  · exact (entries_perm ops).length_eq.trans (List.length_map _)
  · have hall := countP_findings (fun _ => true) ops
    simp only [List.countP_true] at hall
    rw [errorCount_add_warningCount, hall]
  · exact countP_findings Finding.isError ops

/-- A session in which documents are recorded out of order, recorded anew and forgotten. -/
def session : List Operation :=
  [.refresh .default "z.dav".toList "FinSi.".toList,
    .replace "😀.dav".toList [.ofCode (.onLine 0 (0, 5)) .strayElse],
    .refresh { elseCheck := .warn } "\uff5a.dav".toList "Sinon\nSi x.".toList,
    .replace "é.dav".toList [],
    .refresh .default "\uff5a.dav".toList "Si x.\nSinon".toList,
    .remove "z.dav".toList]

theorem session_last_write :
    (Operation.remove "é.dav".toList).uri ≠ (Operation.replace "a.dav".toList []).uri ∧
    ofHistory (session ++ [.remove "é.dav".toList, .replace "a.dav".toList []]) =
      ofHistory (session ++ [.replace "a.dav".toList [], .remove "é.dav".toList]) ∧
    (ofHistory session).get? "z.dav".toList = none ∧
    (ofHistory session).entries.map Prod.fst =
      ["é.dav".toList, "\uff5a.dav".toList, "😀.dav".toList] ∧
    (ofHistory session).errorCount = 1 ∧ (ofHistory session).warningCount = 1 := by
  obtain ⟨hget, _, hswap, _, _, _, _, hall, herrors⟩ := last_write_wins session
  have hne : (Operation.remove "é.dav".toList).uri ≠ (Operation.replace "a.dav".toList []).uri := by
    decide
  have hnone : left session "z.dav".toList = none := by decide +kernel
  have herror : (ofHistory session).errorCount = 1 := by
    rw [herrors]
    decide +kernel
  have htotal : (ofHistory session).errorCount + (ofHistory session).warningCount = 2 := by
    rw [hall]
    decide +kernel
  refine ⟨hne, (hswap _ _ [] hne).1, (hget _).trans hnone, by decide +kernel, herror, ?_⟩
  omega

end Bilingua.Store
