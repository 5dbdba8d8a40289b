/-!
# The two languages

Every keyword has a French and an English spelling, and both may be mixed in one document. A
preference chooses which spellings are offered to a writer; it has no part in reading.
-/

namespace Bilingua

inductive Language where
  | french
  | english
deriving DecidableEq, Repr

/-- The languages in the order in which their spellings are tried and listed. -/
def Language.all : List Language := [.french, .english]

theorem Language.mem_all (l : Language) : l ∈ Language.all := by cases l <;> decide

def Language.other : Language → Language
  | .french => .english
  | .english => .french

inductive Preference where
  | french
  | english
  | both
deriving DecidableEq, Repr

def Preference.includes : Preference → Language → Bool
  | .french, .french => true
  | .french, .english => false
  | .english, .french => false
  | .english, .english => true
  | .both, _ => true

def Preference.languages (p : Preference) : List Language := Language.all.filter p.includes

end Bilingua
