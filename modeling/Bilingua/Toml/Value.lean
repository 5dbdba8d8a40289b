import Bilingua.Decimal.Binary64
import Bilingua.Text.Basic

/-!
# TOML values

A document is a table. Tables remember how they came to be, because that decides what may still be
added to them: a table in braces is complete, one that only a longer header names may get its own
header later, one made by a dotted key may be extended by dotted keys alone.
-/

namespace Bilingua.Toml

/-- How a table came to be. -/
inductive TableForm where
  | inline
  /-- Named by a header of its own. -/
  | header
  /-- Passed through by a longer header. -/
  | path
  /-- Passed through by a dotted key. -/
  | dotted
deriving DecidableEq, Repr

inductive Value where
  | string (text : Text)
  | integer (value : Int)
  | float (value : Decimal.Binary64)
  | boolean (value : Bool)
  | moment (literal : Text)
  | array (elements : List Value)
  | table (form : TableForm) (entries : List (Text × Value))
  /-- The tables of the headers in double brackets with one name. -/
  | tables (elements : List (List (Text × Value)))
deriving Repr

abbrev Entries := List (Text × Value)

namespace Entries

def set (es : Entries) (key : Text) (v : Value) : Entries :=
  es.map fun (k, old) => if k = key then (k, v) else (k, old)

def erase (es : Entries) (key : Text) : Entries := es.filter fun (k, _) => k != key

/-- Put a value under a dotted key, given as the tables it passes and its last part. A table on
the way must come from dotted keys too, at least the last one; none may be complete. -/
def insertDotted (key : Text) (v : Value) : List Text → Entries → Option Entries
  | [], es => if (es.lookup key).isSome then none else some (es ++ [(key, v)])
  | p :: ps, es =>
    match es.lookup p with
    | none => (insertDotted key v ps []).map fun sub => es ++ [(p, .table .dotted sub)]
    | some (.table .dotted sub) =>
      (insertDotted key v ps sub).map fun sub => es.set p (.table .dotted sub)
    | some (.table .path sub) =>
      if ps.isEmpty then none
      else (insertDotted key v ps sub).map fun sub => es.set p (.table .path sub)
    | some (.tables ts) =>
      if ps.isEmpty then none
      else ts.getLast?.bind fun sub =>
        (insertDotted key v ps sub).map fun sub => es.set p (.tables (ts.dropLast ++ [sub]))
    | some _ => none

/-- Change the table that a path of names leads to, making the tables on the way that are missing.
Of tables with headers in double brackets the path means the last. -/
def modifyAt (f : Entries → Option Entries) : List Text → Entries → Option Entries
  | [], es => f es
  | p :: ps, es =>
    match es.lookup p with
    | none => (modifyAt f ps []).map fun sub => es ++ [(p, .table .path sub)]
    | some (.table .inline _) => none
    | some (.table form sub) => (modifyAt f ps sub).map fun sub => es.set p (.table form sub)
    | some (.tables ts) =>
      ts.getLast?.bind fun sub =>
        (modifyAt f ps sub).map fun sub => es.set p (.tables (ts.dropLast ++ [sub]))
    | some _ => none

/-- The table that a header names. It may be known from longer headers, and then moves to the
end. -/
def defineTable (key : Text) (es : Entries) : Option Entries :=
  match es.lookup key with
  | none => some (es ++ [(key, .table .header [])])
  | some (.table .path sub) => some (es.erase key ++ [(key, .table .header sub)])
  | some _ => none

def appendTable (key : Text) (es : Entries) : Option Entries :=
  match es.lookup key with
  | none => some (es ++ [(key, .tables [[]])])
  | some (.tables ts) => some (es.set key (.tables (ts ++ [[]])))
  | some _ => none

end Entries

end Bilingua.Toml
