import Bilingua.Toml.Numbers
import Bilingua.Toml.Value

/-!
# TOML documents

A document is a sequence of lines with keys and values, headers and comments. `parse` gives the
entries of its top table, or nothing for a text that is no TOML document.
-/

namespace Bilingua.Toml

/-! ## Values -/

def boolean : Reader Bool := fun t =>
  (t.dropStart? "true".toList).map (true, ·) <|> (t.dropStart? "false".toList).map (false, ·)

def scalar : Reader Value := fun t =>
  (string t).map (fun (s, t) => (.string s, t)) <|>
  (moment t).map (fun (m, t) => (.moment m, t)) <|>
  (float t).map (fun (x, t) => (.float x, t)) <|>
  (integer t).map (fun (i, t) => (.integer i, t)) <|>
  (boolean t).map (fun (b, t) => (.boolean b, t))

/-- The elements of an array after its bracket or a comma. Each takes at least one character, so
the length of the text is enough fuel. -/
def elements (item : Reader Value) : Nat → Reader (List Value)
  | 0, _ => none
  | n + 1, t =>
    match skipGap false t with
    | none => none
    | some (']' :: t) => some ([], t)
    | some t =>
      (item t).bind fun (v, t) =>
        match skipGap false t with
        | some (',' :: t) => (elements item n t).map fun (vs, t) => (v :: vs, t)
        | some (']' :: t) => some ([v], t)
        | _ => none

def keyValue (item : Reader Value) : Reader ((List Text × Text) × Value) := fun t =>
  (key t).bind fun (k, t) =>
    (mark '=' t).bind fun t =>
      (item (skipSpaces t)).map fun (v, t) => ((k, v), t)

def inlineEntries (item : Reader Value) : Nat → Entries → Reader Entries
  | 0, _, _ => none
  | n + 1, es, t =>
    (keyValue item t).bind fun (((path, k), v), t) =>
      (es.insertDotted k v path).bind fun es =>
        match skipSpaces t with
        | ',' :: t => inlineEntries item n es t
        | '}' :: t => some (es, t)
        | _ => none

def inlineTable (item : Reader Value) : Reader Entries := fun t =>
  match skipSpaces t with
  | '}' :: t => some ([], t)
  | t => inlineEntries item (t.length + 1) [] t

/-- A value in which arrays and tables in braces nest at most so deep. -/
def value : Nat → Reader Value
  | 0, t => scalar t
  | depth + 1, '[' :: t =>
    (elements (fun t => value depth t) (t.length + 1) t).map fun (vs, t) => (.array vs, t)
  | depth + 1, '{' :: t =>
    (inlineTable (fun t => value depth t) t).map fun (es, t) => (.table .inline es, t)
  | _ + 1, t => scalar t

/-! ## Lines -/

structure Document where
  root : Entries
  /-- The path of the table that keys now belong to. -/
  current : List Text

def headerPath (closing : Text) : Reader (List Text) := fun t =>
  (keyPath maxDepth t).bind fun (path, t) => (t.dropStart? closing).map (path, ·)

/-- Start the table that a header names, by defining it in its parent. -/
def Document.enter (d : Document) (define : Text → Entries → Option Entries) (path : List Text) :
    Option Document :=
  path.getLast?.bind fun name =>
    (d.root.modifyAt (define name) path.dropLast).map fun root => ⟨root, path⟩

def Document.add (d : Document) (path : List Text) (k : Text) (v : Value) : Option Document :=
  (d.root.modifyAt (·.insertDotted k v path) d.current).map fun root => { d with root }

/-- What a line says, up to the spaces and the comment at its end. -/
def Document.statement (d : Document) : Reader Document
  | '[' :: '[' :: t =>
    (headerPath "]]".toList t).bind fun (path, t) =>
      (d.enter Entries.appendTable path).map (·, t)
  | '[' :: t =>
    (headerPath "]".toList t).bind fun (path, t) =>
      (d.enter Entries.defineTable path).map (·, t)
  | '#' :: t => some (d, '#' :: t)
  | '\n' :: t => some (d, '\n' :: t)
  | '\r' :: t => some (d, '\r' :: t)
  | t =>
    (keyValue (value maxDepth) t).bind fun (((path, k), v), t) => (d.add path k v).map (·, t)

/-- Read the lines of a document. Each takes at least one character, so the length of the text is
enough fuel. -/
def Document.readLines : Nat → Document → Text → Option Document
  | 0, _, _ => none
  | n + 1, d, t =>
    match skipSpaces t with
    | [] => some d
    | t =>
      (d.statement t).bind fun (d, t) => (lineEnd? t).bind fun t => d.readLines n t

def dropByteOrderMark : Text → Text
  | '\uFEFF' :: t => t
  | t => t

def parse (t : Text) : Option Entries :=
  let t := dropByteOrderMark t
  (Document.readLines (t.length + 1) ⟨[], []⟩ t).map (·.root)

end Bilingua.Toml
