import Bilingua.Decimal.Shortest
import Bilingua.Settings.Basic
import Bilingua.Text.Quoted
import Bilingua.Toml.Document

/-!
# Reading settings

Settings are written as a TOML document whose top table has at most the four known fields. The
fields are read in the order of the document onto the default settings, and the first that is
wrong is reported; a text that is no TOML document is reported before that, and a tab size of zero
after it.

A choice among named variants is written as a string. It may also be a table whose only key is
the name of the variant, with an empty array or table as its value.
-/

namespace Bilingua.Settings

inductive Error where
  | syntaxError
  | unknownField (name : Text)
  | unknownVariant (name : Text) (variants : List Text)
  | wrongType (found : Toml.Value) (expected : Text)
  /-- An integer that the field cannot take. -/
  | wrongInteger (found : Int) (expected : Text)
  | noVariant
  | zeroTabSize

/-! ## Messages -/

def inBackticks (t : Text) : Text := "`".toList ++ t ++ "`".toList

def alternatives : List Text → Text
  | [a, b] => inBackticks a ++ " or ".toList ++ inBackticks b
  | names => "one of ".toList ++ List.intercalate ", ".toList (names.map inBackticks)

def integerText : Int → Text
  | .ofNat n => Text.ofNat n
  | .negSucc n => '-' :: Text.ofNat (n + 1)

/-- What kind of value it is, and for plain values which one. -/
def described : Toml.Value → Text
  | .string s => "string ".toList ++ s.quoted
  | .integer i => "integer ".toList ++ inBackticks (integerText i)
  | .float x => "floating point ".toList ++ inBackticks x.text
  | .boolean b => "boolean ".toList ++ inBackticks (if b then "true".toList else "false".toList)
  | .array _ | .tables _ => "sequence".toList
  | .table _ _ | .moment _ => "map".toList

def fieldNames : List Text :=
  ["tab-size".toList, "preferred-language".toList, "interpreter-path".toList, "else-check".toList]

/-- The message of an error, if there is more to say than that the text is wrong. -/
def Error.detail? : Error → Option Text
  | .syntaxError => none
  | .unknownField name =>
    some ("unknown field ".toList ++ inBackticks name ++ ", expected ".toList ++
      alternatives fieldNames)
  | .unknownVariant name variants =>
    some ("unknown variant ".toList ++ inBackticks name ++ ", expected ".toList ++
      alternatives variants)
  | .wrongType found expected =>
    some ("invalid type: ".toList ++ described found ++ ", expected ".toList ++ expected)
  | .wrongInteger found expected =>
    some ("invalid value: ".toList ++ described (.integer found) ++ ", expected ".toList ++ expected)
  | .noVariant => none
  | .zeroTabSize => some "tab-size must be at least 1".toList

/-! ## Fields -/

def natural : Toml.Value → Except Error Nat
  | .integer (.ofNat n) => .ok n
  | .integer i => .error (.wrongInteger i "usize".toList)
  | v => .error (.wrongType v "usize".toList)

def string : Toml.Value → Except Error Text
  | .string s => .ok s
  | v => .error (.wrongType v "a string".toList)

def variantNamed {α : Type} (variants : List (Text × α)) (name : Text) : Except Error α :=
  match variants.lookup name with
  | some a => .ok a
  | none => .error (.unknownVariant name (variants.map (·.1)))

def isEmptyCollection : Toml.Value → Bool
  | .array vs => vs.isEmpty
  | .tables ts => ts.isEmpty
  | .table _ es => es.isEmpty
  | _ => false

def choice {α : Type} (variants : List (Text × α)) : Toml.Value → Except Error α
  | .string name => variantNamed variants name
  | .table _ [(name, v)] =>
    match variantNamed variants name with
    | .error e => .error e
    | .ok a => if isEmptyCollection v then .ok a else .error .noVariant
  | _ => .error .noVariant

def preferences : List (Text × Preference) :=
  [("french".toList, .french), ("english".toList, .english), ("both".toList, .both)]

def elseChecks : List (Text × ElseCheck) :=
  [("unchecked".toList, .unchecked), ("warn".toList, .warn)]

def readField (s : Settings) (name : Text) (v : Toml.Value) : Except Error Settings :=
  if name = "tab-size".toList then do return { s with tabSize := ← natural v }
  else if name = "preferred-language".toList then
    do return { s with preference := ← choice preferences v }
  else if name = "interpreter-path".toList then do return { s with interpreter := ← string v }
  else if name = "else-check".toList then do return { s with elseCheck := ← choice elseChecks v }
  else .error (.unknownField name)

def readFields : Settings → Toml.Entries → Except Error Settings
  | s, [] => .ok s
  | s, (name, v) :: rest =>
    match readField s name v with
    | .error e => .error e
    | .ok s => readFields s rest

def validated (s : Settings) : Except Error Settings :=
  if s.tabSize = 0 then .error .zeroTabSize else .ok s

def ofText (t : Text) : Except Error Settings :=
  match Toml.parse t with
  | none => .error .syntaxError
  | some entries =>
    match readFields .default entries with
    | .error e => .error e
    | .ok s => s.validated

end Bilingua.Settings
