import Bilingua.Text.Basic
import Bilingua.Text.Extender
import Bilingua.Text.Unprintable

/-!
# Quoted texts

A text in double quotes, for messages. What a reader could not see or would take for the end of
the quotation is escaped: a few characters by a letter, the others that have no visible form of
their own by their code point. The fillers of Hangul count as letters but are blank; the halfwidth
sound marks of Katakana extend a character but stand on their own.
-/

namespace Bilingua.Text

def escapedCodePoint (c : Char) : Text :=
  "\\u\x7b".toList ++ Nat.toDigits 16 c.toNat ++ "\x7d".toList

/-- A letter that only fills a place in a Hangul syllable. -/
def isHangulFiller (c : Char) : Bool :=
  inRanges [(0x115F, 0x1160), (0x3164, 0x3164), (0xFFA0, 0xFFA0)] c.toNat

def isHalfwidthSoundMark (c : Char) : Bool := inRanges [(0xFF9E, 0xFF9F)] c.toNat

def isInvisible (c : Char) : Bool :=
  isUnprintable c || isHangulFiller c || isExtender c && !isHalfwidthSoundMark c

def quotedChar (c : Char) : Text :=
  if c = '\x00' then "\\0".toList
  else if c = '\t' then "\\t".toList
  else if c = '\r' then "\\r".toList
  else if c = '\n' then "\\n".toList
  else if c = '\\' then "\\\\".toList
  else if c = '"' then "\\\"".toList
  else if isInvisible c then escapedCodePoint c
  else [c]

def quoted (t : Text) : Text := '"' :: t.flatMap quotedChar ++ ['"']

end Bilingua.Text
