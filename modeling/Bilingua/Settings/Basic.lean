import Bilingua.Validation

/-!
# Settings

What a user may choose. Every field has a default, and the tab size is at least one.
-/

namespace Bilingua

structure Settings where
  tabSize : Nat := 4
  preference : Preference := .both
  /-- The program that runs documents. -/
  interpreter : Text := "dav".toList
  elseCheck : ElseCheck := .unchecked
deriving DecidableEq, Repr

def Settings.default : Settings := {}

end Bilingua
