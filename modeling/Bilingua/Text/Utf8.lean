import Bilingua.Text.Basic

/-!
# UTF-8

Texts are written in bytes, one to four for each character. Bytes that come from outside need not be
a text. They are read from left to right, and where they go wrong the bytes that started a character
are malformed together, without the byte that cannot continue it; a byte that starts no character is
malformed alone.
-/

namespace Bilingua

abbrev Bytes := List UInt8

def Text.utf8 (t : Text) : Bytes := t.flatMap String.utf8EncodeChar

namespace Utf8

def codePoint : Bytes → Nat
  | [a] => a.toNat
  | [a, b] => a.toNat % 32 * 64 + b.toNat % 64
  | [a, b, c] => (a.toNat % 16 * 64 + b.toNat % 64) * 64 + c.toNat % 64
  | [a, b, c, d] =>
    ((a.toNat % 8 * 64 + b.toNat % 64) * 64 + c.toNat % 64) * 64 + d.toNat % 64
  | _ => 0

def char? (bytes : Bytes) : Option Char :=
  let c := Char.ofNat (codePoint bytes)
  -- Longer forms than the shortest one do not come back.
  if String.utf8EncodeChar c = bytes then some c else none

def continues (b : UInt8) : Bool := 0x80 ≤ b.toNat && b.toNat ≤ 0xBF

/-- The second byte may come after the first. Some first bytes leave no room for all: what they would
write has a shorter form, is half of a surrogate pair or lies beyond the last code point. -/
def follows (a b : UInt8) : Bool :=
  continues b &&
    match a.toNat with
    | 0xE0 => 0xA0 ≤ b.toNat
    | 0xED => b.toNat ≤ 0x9F
    | 0xF0 => 0x90 ≤ b.toNat
    | 0xF4 => b.toNat ≤ 0x8F
    | _ => true

/-- The bytes are the start of a character, but not all of it. -/
def isStart : Bytes → Bool
  | [a] => 0xC2 ≤ a.toNat && a.toNat ≤ 0xF4
  | [a, b] => 0xE0 ≤ a.toNat && a.toNat ≤ 0xF4 && follows a b
  | [a, b, c] => 0xF0 ≤ a.toNat && a.toNat ≤ 0xF4 && follows a b && continues c
  | _ => false

def piece? (bytes : Bytes) : Option (List (Option Char) × Bytes) :=
  match char? bytes with
  | some c => some ([some c], [])
  | none => if isStart bytes then some ([], bytes) else none

/-- One more byte after the start of a character: what has been read with it, and the start that is
left. -/
def step (start : Bytes) (b : UInt8) : List (Option Char) × Bytes :=
  (piece? (start ++ [b])).getD <|
    -- What was started is malformed as a whole, and the byte is looked at again by itself.
    let (read, next) := (piece? [b]).getD ([none], [])
    if start.isEmpty then (read, next) else (none :: read, next)

def decodeAfter : Bytes → Bytes → List (Option Char)
  | start, [] => if start.isEmpty then [] else [none]
  | start, b :: bytes =>
    let (read, next) := step start b
    read ++ decodeAfter next bytes

/-- The characters of bytes, with `none` for bytes that are malformed. -/
def decode (bytes : Bytes) : List (Option Char) := decodeAfter [] bytes

def lossy (bytes : Bytes) : Text := (decode bytes).map (·.getD '�')

def text? (bytes : Bytes) : Option Text :=
  if (decode bytes).all Option.isSome then some (lossy bytes) else none

end Utf8

end Bilingua
