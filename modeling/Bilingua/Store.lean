import Bilingua.Finding

/-!
# The store of findings

The findings of each document, by its URI. The entries stand in increasing order of URIs, compared
character by character, and each URI has at most one.
-/

namespace Bilingua

abbrev Entries.Ordered (es : List (Text × List Finding)) : Prop := es.Pairwise fun e e' => e.1 < e'.1

structure Store where
  entries : List (Text × List Finding)
  ordered : Entries.Ordered entries
deriving DecidableEq, Repr

namespace Store

def empty : Store := ⟨[], .nil⟩

def size (s : Store) : Nat := s.entries.length

def isEmpty (s : Store) : Bool := s.entries.isEmpty

def get? (s : Store) (uri : Text) : Option (List Finding) := s.entries.lookup uri

/-- Entries with the findings of one document put in their place. -/
def insertEntry (uri : Text) (findings : List Finding) :
    List (Text × List Finding) → List (Text × List Finding)
  | [] => [(uri, findings)]
  | (u, old) :: rest =>
    if uri = u then (uri, findings) :: rest
    else if uri < u then (uri, findings) :: (u, old) :: rest
    else (u, old) :: insertEntry uri findings rest

theorem mem_insertEntry {uri : Text} {fs : List Finding} {e : Text × List Finding}
    {es : List (Text × List Finding)} (h : e ∈ insertEntry uri fs es) : e = (uri, fs) ∨ e ∈ es := by
  induction es with
  | nil => exact .inl (List.mem_singleton.1 h)
  | cons e' es ih =>
    rw [insertEntry] at h
    split at h
    · exact (List.mem_cons.1 h).imp_right (List.mem_cons_of_mem e')
    · split at h
      · exact List.mem_cons.1 h
      · rcases List.mem_cons.1 h with rfl | h
        · exact .inr List.mem_cons_self
        · exact (ih h).imp_right (List.mem_cons_of_mem e')

theorem ordered_insertEntry (uri : Text) (fs : List Finding) {es : List (Text × List Finding)}
    (h : Entries.Ordered es) : Entries.Ordered (insertEntry uri fs es) := by
  induction es with
  | nil => exact List.pairwise_singleton _ _
  | cons e es ih =>
    obtain ⟨hfirst, hrest⟩ := List.pairwise_cons.1 h
    rw [insertEntry]
    split
    · next huri => exact List.pairwise_cons.2 ⟨huri ▸ hfirst, hrest⟩
    · next huri =>
      split
      · next hlt =>
        refine List.pairwise_cons.2 ⟨fun e' he' => ?_, h⟩
        rcases List.mem_cons.1 he' with rfl | he'
        · exact hlt
        · exact Std.lt_trans hlt (hfirst e' he')
      · next hge =>
        refine List.pairwise_cons.2 ⟨fun e' he' => ?_, ih hrest⟩
        rcases mem_insertEntry he' with rfl | he'
        · exact Std.lt_of_le_of_ne (Std.not_lt.1 hge) (Ne.symm huri)
        · exact hfirst e' he'

def insert (s : Store) (uri : Text) (findings : List Finding) : Store :=
  ⟨insertEntry uri findings s.entries, ordered_insertEntry uri findings s.ordered⟩

def erase (s : Store) (uri : Text) : Store :=
  ⟨s.entries.filter fun (u, _) => u != uri, s.ordered.filter _⟩

/-- Record the findings of a document and give back those recorded before. -/
def replace (s : Store) (uri : Text) (findings : List Finding) : Option (List Finding) × Store :=
  (s.get? uri, s.insert uri findings)

def remove (s : Store) (uri : Text) : Option (List Finding) × Store := (s.get? uri, s.erase uri)

def findings (s : Store) : List Finding := s.entries.flatMap fun (_, fs) => fs

def errorCount (s : Store) : Nat := s.findings.countP Finding.isError

def warningCount (s : Store) : Nat := s.findings.countP Finding.isWarning

end Store

end Bilingua
