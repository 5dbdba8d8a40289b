import Bilingua.Json
import Bilingua.Outline.Basic

/-!
# Rendering of findings and outlines

Findings are rendered one to a line, with lines and columns counted from one; an outline is
rendered one symbol to a line, two spaces deeper inside each function. Both also have a JSON form,
in which counting starts at zero.
-/

namespace Bilingua.Rendering

/-! ## Text -/

def findingLine (path : Text) (f : Finding) : Text :=
  path ++ [':'] ++ Text.ofNat (f.range.start.line + 1) ++ [':'] ++
    Text.ofNat (f.range.start.column + 1) ++ ": ".toList ++ f.severity.text ++ ['['] ++
    f.code.text ++ "]: ".toList ++ f.message

def summary (errors warnings : Nat) : Text :=
  Text.ofNat errors ++ " erreur(s), ".toList ++ Text.ofNat warnings ++ " avertissement(s)".toList

def kindWord : SymbolKind → Text
  | .function => "fonction".toList
  | .variable => "variable".toList

/-- The line of a symbol inside so many others. -/
def symbolLine (depth : Nat) (s : Symbol) : Text :=
  List.replicate (2 * depth) ' ' ++ kindWord s.kind ++ [' '] ++ s.name ++ " [".toList ++
    Text.ofNat (s.range.start.line + 1) ++ ['-'] ++ Text.ofNat (s.range.stop.line + 1) ++ [']'] ++
    match s.detail with
    | none => []
    | some detail => " (".toList ++ detail ++ [')']

mutual

def treeText (depth : Nat) : SymbolTree → Text
  | .node s cs => symbolLine depth s ++ ['\n'] ++ forestText (depth + 1) cs

def forestText (depth : Nat) : List SymbolTree → Text
  | [] => []
  | t :: ts => treeText depth t ++ forestText depth ts

end

def outlineText (o : Outline) : Text := forestText 0 o.symbols

/-! ## JSON -/

def rangeJson (r : Range) : Json := .object
  [("start_line".toList, .number r.start.line), ("start_col".toList, .number r.start.column),
    ("end_line".toList, .number r.stop.line), ("end_col".toList, .number r.stop.column)]

def findingJson (f : Finding) : Json := .object
  [("range".toList, rangeJson f.range), ("severity".toList, .string f.severity.text),
    ("code".toList, .string f.code.text), ("message".toList, .string f.message)]

def reportJson (path : Text) (fs : List Finding) : Json := .object
  [("path".toList, .string path), ("diagnostics".toList, .array (fs.map findingJson))]

def symbolKindText : SymbolKind → Text
  | .function => "function".toList
  | .variable => "variable".toList

def detailJson : Option Text → Json
  | none => .null
  | some detail => .string detail

mutual

def treeJson : SymbolTree → Json
  | .node s cs => .object
    [("name".toList, .string s.name), ("detail".toList, detailJson s.detail),
      ("kind".toList, .string (symbolKindText s.kind)), ("range".toList, rangeJson s.range),
      ("selection_range".toList, rangeJson s.selection), ("children".toList, .array (forestJson cs))]

def forestJson : List SymbolTree → List Json
  | [] => []
  | t :: ts => treeJson t :: forestJson ts

end

def outlineJson (o : Outline) : Json := .object [("symbols".toList, .array (forestJson o.symbols))]

end Bilingua.Rendering
