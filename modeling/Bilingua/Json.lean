import Bilingua.Text.Basic

/-!
# JSON output

JSON values and their text over several lines: two spaces for each level, one element or field to a
line. In strings the quote, the backslash and control characters are escaped; all other characters
stand for themselves.
-/

namespace Bilingua

inductive Json where
  | null
  | number (n : Nat)
  | string (t : Text)
  | array (elements : List Json)
  | object (fields : List (Text × Json))

namespace Json

def controlDigits (n : Nat) : Text :=
  List.replicate (2 - (Nat.toDigits 16 n).length) '0' ++ Nat.toDigits 16 n

def escapedChar (c : Char) : Text :=
  if c = '"' then "\\\"".toList
  else if c = '\\' then "\\\\".toList
  else if c = '\x08' then "\\b".toList
  else if c = '\x0c' then "\\f".toList
  else if c = '\n' then "\\n".toList
  else if c = '\r' then "\\r".toList
  else if c = '\t' then "\\t".toList
  else if c.toNat < 0x20 then "\\u00".toList ++ controlDigits c.toNat
  else [c]

def stringText (t : Text) : Text := '"' :: t.flatMap escapedChar ++ ['"']

/-- The start of a line at a level. -/
def lineStart (level : Nat) : Text := '\n' :: List.replicate (2 * level) ' '

mutual

/-- The text of a value that stands at a level. -/
def textAt (level : Nat) : Json → Text
  | .null => "null".toList
  | .number n => Text.ofNat n
  | .string t => stringText t
  | .array [] => "[]".toList
  | .array (v :: vs) => '[' :: elementsText (level + 1) (v :: vs) ++ lineStart level ++ [']']
  | .object [] => "\x7b\x7d".toList
  | .object (f :: fs) =>
    "\x7b".toList ++ fieldsText (level + 1) (f :: fs) ++ lineStart level ++ "\x7d".toList

def elementsText (level : Nat) : List Json → Text
  | [] => []
  | [v] => lineStart level ++ textAt level v
  | v :: vs => lineStart level ++ textAt level v ++ [','] ++ elementsText level vs

def fieldsText (level : Nat) : List (Text × Json) → Text
  | [] => []
  | [(name, v)] => lineStart level ++ stringText name ++ ": ".toList ++ textAt level v
  | (name, v) :: fs =>
    lineStart level ++ stringText name ++ ": ".toList ++ textAt level v ++ [','] ++
      fieldsText level fs

end

def text (v : Json) : Text := textAt 0 v

end Json

end Bilingua
