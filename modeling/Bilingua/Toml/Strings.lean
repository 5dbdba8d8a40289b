import Bilingua.Toml.Layout

/-!
# Strings and keys of TOML texts

A basic string stands in double quotes and knows escapes, a literal string stands in single
quotes and knows none. Tripled quotes let a string run over several lines: a line end right after
the opening quotes is dropped, every other one counts as a line feed, and up to two quotes may
stand before the closing ones. In a basic string, a backslash at the end of a line takes away all
space up to the next visible character.

A key is a path of parts, joined by points. A part is bare or a string on one line.
-/

namespace Bilingua.Toml

/-! ## Escapes -/

/-- How far the escape after a backslash has been read. -/
inductive Escape where
  | letter
  | digits (missing : Nat) (value : Nat)
deriving DecidableEq, Repr

def hexDigit? (c : Char) : Option Nat :=
  if '0' ≤ c && c ≤ '9' then some (c.toNat - '0'.toNat)
  else if 'a' ≤ c && c ≤ 'f' then some (c.toNat - 'a'.toNat + 10)
  else if 'A' ≤ c && c ≤ 'F' then some (c.toNat - 'A'.toNat + 10)
  else none

/-- The character of a code point; surrogates and numbers beyond the last code point are none. -/
def scalar? (n : Nat) : Option Char := if n.isValidChar then some (Char.ofNat n) else none

def escapedLetter? : Char → Option Char
  | 'b' => some '\x08'
  | 'f' => some '\x0c'
  | 'n' => some '\n'
  | 'r' => some '\r'
  | 't' => some '\t'
  | '\\' => some '\\'
  | '"' => some '"'
  | _ => none

/-- One character further in an escape: either it goes on or it has given its character. -/
def Escape.step : Escape → Char → Option (Escape ⊕ Char)
  | .letter, 'u' => some (.inl (.digits 4 0))
  | .letter, 'U' => some (.inl (.digits 8 0))
  | .letter, c => (escapedLetter? c).map .inr
  | .digits missing value, c =>
    (hexDigit? c).bind fun d =>
      let value := 16 * value + d
      if missing ≤ 1 then (scalar? value).map .inr else some (.inl (.digits (missing - 1) value))

/-! ## Strings -/

def isBasicChar (c : Char) : Bool := isVisible c && c != '"' && c != '\\'

def isLiteralChar (c : Char) : Bool := isVisible c && c != '\''

def push (c : Char) : Option (Text × Text) → Option (Text × Text)
  | none => none
  | some (s, rest) => some (c :: s, rest)

/-- A basic string from inside its quotes, or from inside an escape. -/
def basicRest : Option Escape → Reader Text
  | _, [] => none
  | none, c :: t =>
    if c = '"' then some ([], t)
    else if c = '\\' then basicRest (some .letter) t
    else if isBasicChar c then push c (basicRest none t)
    else none
  | some e, c :: t =>
    match e.step c with
    | none => none
    | some (.inl e) => basicRest (some e) t
    | some (.inr d) => push d (basicRest none t)

def literalRest : Reader Text
  | [] => none
  | c :: t =>
    if c = '\'' then some ([], t) else if isLiteralChar c then push c (literalRest t) else none

/-- The end of a string in tripled quotes, at its first quote: the closing quotes and up to two
quotes before them that belong to the string. Fewer than three quotes end nothing. -/
def closing? (quote : Char) (t : Text) : Option (Text × Text) :=
  let count := (t.takeWhile (· == quote)).length
  if count < 3 then none
  else
    let extra := min (count - 3) 2
    some (List.replicate extra quote, t.drop (3 + extra))

inductive MultilineState where
  | content
  | escape (e : Escape)
  /-- After a backslash at the end of a line. -/
  | skipping
deriving DecidableEq, Repr

def multilineBasicRest : MultilineState → Reader Text
  | _, [] => none
  | .escape e, c :: t =>
    match e.step c with
    | none => none
    | some (.inl e) => multilineBasicRest (.escape e) t
    | some (.inr d) => push d (multilineBasicRest .content t)
  | s, c :: t =>
    if s = .skipping && (isSpace c || c == '\n') then multilineBasicRest .skipping t
    -- A carriage return stands only before a line feed, and is left out.
    else if c = '\r' then if t.head? = some '\n' then multilineBasicRest s t else none
    else if c = '"' then
      match closing? '"' (c :: t) with
      | some r => some r
      | none => push c (multilineBasicRest .content t)
    else if c = '\\' then
      if (newline? (skipSpaces t)).isSome then multilineBasicRest .skipping t
      else multilineBasicRest (.escape .letter) t
    else if c = '\n' || isBasicChar c then push c (multilineBasicRest .content t)
    else none

def multilineLiteralRest : Reader Text
  | [] => none
  | c :: t =>
    if c = '\r' then if t.head? = some '\n' then multilineLiteralRest t else none
    else if c = '\'' then
      match closing? '\'' (c :: t) with
      | some r => some r
      | none => push c (multilineLiteralRest t)
    else if c = '\n' || isLiteralChar c then push c (multilineLiteralRest t)
    else none

def skipNewline (t : Text) : Text := (newline? t).getD t

def string : Reader Text
  | '"' :: '"' :: '"' :: t => multilineBasicRest .content (skipNewline t)
  | '"' :: t => basicRest none t
  | '\'' :: '\'' :: '\'' :: t => multilineLiteralRest (skipNewline t)
  | '\'' :: t => literalRest t
  | _ => none

/-! ## Keys -/

def isBareChar (c : Char) : Bool := c.isAlphanum || c == '-' || c == '_'

def keyPart : Reader Text
  | '"' :: t => basicRest none t
  | '\'' :: t => literalRest t
  | t => (Text.nonempty? (t.takeWhile isBareChar)).map fun k => (k, t.dropWhile isBareChar)

def keyPath : Nat → Reader (List Text)
  | 0, _ => none
  | n + 1, t =>
    (keyPart (skipSpaces t)).bind fun (part, t) =>
      match skipSpaces t with
      | '.' :: t => (keyPath n t).map fun (parts, t) => (part :: parts, t)
      | t => some ([part], t)

/-- How many parts a key may have, and how deep values may nest. -/
def maxDepth : Nat := 79

/-- A key: the tables that it passes and its last part. -/
def key : Reader (List Text × Text) := fun t =>
  (keyPath maxDepth t).bind fun (parts, t) =>
    parts.getLast?.map fun last => ((parts.dropLast, last), t)

end Bilingua.Toml
