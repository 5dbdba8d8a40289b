import Bilingua.Host.Path
import Bilingua.Indentation

/-!
# Command lines

A command line names one of five commands. Options are written `--name value` or `--name=value`,
and each at most once at its level; a separate value must not look like an option. `--config` and
`--tab-size` belong to every level, and the one after the command's name wins. After `--` all that
follows are operands. A word is given by its bytes: paths may be any bytes, and every other value is a
text.

The words are read from left to right, and the first that is wrong ends the reading; so does a
request for the version or for help.
-/

namespace Bilingua.Command

inductive Format where
  | text
  | json
deriving DecidableEq, Repr

inductive Action where
  | check (files : List Path) (format : Format)
  | outline (file : Path) (format : Format)
  | indent (previous : Text) (previousIndent : Option Nat) (current : Text)
  | keywords (language : Option Preference)
  | run (file : Path)
deriving DecidableEq, Repr

structure Invocation where
  config : Option Path
  tabSize : Option Nat
  action : Action
deriving DecidableEq, Repr

inductive Misuse where
  | unknownOption (name : Text)
  | repeatedOption (name : Text)
  | missingValue (name : Text)
  | invalidValue (name value : Text)
  | missingOption (name : Text)
  | missingOperand
  | surplusOperand (operand : Text)
  | emptyOperand
  | missingCommand
  | unknownCommand (name : Text)
deriving DecidableEq, Repr

inductive Stop where
  | version
  | help
  | misuse (m : Misuse)
deriving DecidableEq, Repr

/-! ## Values -/

/-- A natural number of at most 64 bits in decimal digits, after an optional plus sign. -/
def count? (t : Text) : Option Nat :=
  let digits : Text := match t with
    | '+' :: t => t
    | t => t
  digits.toNat?.filter (· ≤ Indentation.maxColumn)

def format? (t : Text) : Option Format :=
  [("text".toList, Format.text), ("json".toList, .json)].lookup t

def preference? (t : Text) : Option Preference :=
  [("french".toList, Preference.french), ("english".toList, .english), ("both".toList, .both)].lookup t

/-! ## Words -/

inductive Word where
  | separator
  | long (name : Text) (value : Option Bytes)
  | short (letters : Text)
  | operand (word : Bytes)
deriving DecidableEq, Repr

def afterEquals? : Bytes → Option Bytes
  | [] => none
  | 0x3D :: word => some word
  | _ :: word => afterEquals? word

/-- How a word is meant. A single dash is an operand. -/
def Word.of : Bytes → Word
  | [0x2D, 0x2D] => .separator
  | 0x2D :: 0x2D :: word => .long (Utf8.lossy (word.takeWhile (· != 0x3D))) (afterEquals? word)
  | 0x2D :: b :: word => .short (Utf8.lossy (b :: word))
  | word => .operand word

/-- The word can stand for an option's value. -/
def isValue (word : Bytes) : Bool :=
  match Word.of word with
  | .operand _ => true
  | _ => false

/-! ## Levels -/

structure OptionRule where
  name : Text
  accepts : Bytes → Bool

/-- What may stand before the command's name, or after it. -/
structure Level where
  options : List OptionRule
  /-- Reading ends with the first operand, which names a command. -/
  namesCommand : Bool

abbrev Chosen := List (Text × Bytes)

def Level.choose (level : Level) (chosen : Chosen) (name : Text) (value : Bytes) :
    Except Stop Chosen :=
  match level.options.find? (·.name == name) with
  | none => .error (.misuse (.unknownOption name))
  | some rule =>
    if (chosen.lookup name).isSome then .error (.misuse (.repeatedOption name))
    else if rule.accepts value then .ok (chosen ++ [(name, value)])
    else .error (.misuse (.invalidValue name (Utf8.lossy value)))

def Level.flag? (level : Level) : Word → Option Stop
  | .long name none =>
    if name = "help".toList then some .help
    else if name = "version".toList && level.namesCommand then some .version
    else none
  | .short ('h' :: _) => some .help
  | .short ('V' :: _) => if level.namesCommand then some .version else none
  | _ => none

/-- The options of a level and the words left: its operands, or the command's name and all that
follows. -/
def Level.read (level : Level) : Chosen → List Bytes → Except Stop (Chosen × List Bytes)
  | chosen, [] => .ok (chosen, [])
  | chosen, word :: rest =>
    match level.flag? (Word.of word) with
    | some stop => .error stop
    | none =>
      match Word.of word with
      | .separator =>
        if level.namesCommand then .error (.misuse .missingCommand) else .ok (chosen, rest)
      | .short letters => .error (.misuse (.unknownOption letters))
      | .long name (some value) =>
        match level.choose chosen name value with
        | .error stop => .error stop
        | .ok chosen => level.read chosen rest
      | .long name none =>
        match rest with
        | [] => .error (.misuse (.missingValue name))
        | value :: rest =>
          -- What looks like an option is never taken for a value.
          if isValue value then
            match level.choose chosen name value with
            | .error stop => .error stop
            | .ok chosen => level.read chosen rest
          else .error (.misuse (.missingValue name))
      | .operand word =>
        if level.namesCommand then .ok (chosen, word :: rest)
        else
          match level.read chosen rest with
          | .error stop => .error stop
          | .ok (chosen, operands) => .ok (chosen, word :: operands)

/-! ## Commands -/

def textOption {α : Type} (name : Text) (meaning? : Text → Option α) : OptionRule :=
  ⟨name, fun value => ((Utf8.text? value).bind meaning?).isSome⟩

def configOption : OptionRule := ⟨"config".toList, fun value => !value.isEmpty⟩

def tabSizeOption : OptionRule := textOption "tab-size".toList count?

def formatOption : OptionRule := textOption "format".toList format?

def topLevel : Level := ⟨[configOption, tabSizeOption], true⟩

def optionsOf? (name : Text) : Option (List OptionRule) :=
  [("check".toList, [formatOption]),
    ("outline".toList, [formatOption]),
    ("indent".toList,
      [textOption "previous".toList some, textOption "previous-indent".toList count?,
        textOption "current".toList some]),
    ("keywords".toList, [textOption "language".toList preference?]),
    ("run".toList, [])].lookup name

def misuse {α : Type} (m : Misuse) : Except Stop α := .error (.misuse m)

/-- Operands are paths, and none of them is empty. -/
def paths (operands : List Bytes) : Except Stop (List Path) :=
  if operands.any List.isEmpty then misuse .emptyOperand else .ok operands

def onlyPath (operands : List Bytes) : Except Stop Path :=
  match operands with
  | [] => misuse .missingOperand
  | [path] => if path.isEmpty then misuse .emptyOperand else .ok path
  | _ :: surplus :: _ => misuse (.surplusOperand (Utf8.lossy surplus))

def noOperand (operands : List Bytes) : Except Stop Unit :=
  match operands with
  | [] => .ok ()
  | surplus :: _ => misuse (.surplusOperand (Utf8.lossy surplus))

def Chosen.text? (chosen : Chosen) (name : Text) : Option Text :=
  (chosen.lookup name).bind Utf8.text?

def chosenFormat (chosen : Chosen) : Format :=
  ((chosen.text? "format".toList).bind format?).getD .text

def actionOf (name : Text) (chosen : Chosen) (operands : List Bytes) : Except Stop Action :=
  if name = "check".toList then
    if operands.isEmpty then misuse .missingOperand
    else do return .check (← paths operands) (chosenFormat chosen)
  else if name = "outline".toList then do
    return .outline (← onlyPath operands) (chosenFormat chosen)
  else if name = "indent".toList then do
    noOperand operands
    match chosen.text? "previous".toList with
    | none => misuse (.missingOption "previous".toList)
    | some previous =>
      return .indent previous ((chosen.text? "previous-indent".toList).bind count?)
        ((chosen.text? "current".toList).getD [])
  else if name = "keywords".toList then do
    noOperand operands
    return .keywords ((chosen.text? "language".toList).bind preference?)
  else if name = "run".toList then do return .run (← onlyPath operands)
  else misuse (.unknownCommand name)

/-- The invocation that a command line writes down. -/
def parse (args : List Bytes) : Except Stop Invocation := do
  let (outer, rest) ← topLevel.read [] args
  match rest with
  | [] => misuse .missingCommand
  | word :: rest =>
    let name := Utf8.lossy word
    if name = "help".toList then throw .help
    match optionsOf? name with
    | none => misuse (.unknownCommand name)
    | some options =>
      let level : Level := ⟨options ++ topLevel.options, false⟩
      let (inner, operands) ← level.read [] rest
      let action ← actionOf name inner operands
      let everywhere : Chosen := inner ++ outer
      return {
        config := everywhere.lookup "config".toList
        tabSize := (everywhere.text? "tab-size".toList).bind count?
        action }

/-! ## Messages -/

def Misuse.message : Misuse → Text
  | .unknownOption name => "unknown option ".toList ++ name
  | .repeatedOption name => "option given twice: ".toList ++ name
  | .missingValue name => "option without a value: ".toList ++ name
  | .invalidValue name value => "invalid value for ".toList ++ name ++ ": ".toList ++ value
  | .missingOption name => "missing option: ".toList ++ name
  | .missingOperand => "missing file".toList
  | .surplusOperand operand => "unexpected argument ".toList ++ operand
  | .emptyOperand => "empty path".toList
  | .missingCommand => "missing command".toList
  | .unknownCommand name => "unknown command ".toList ++ name

def usage : Text :=
  ("Usage: dav-tools [--config PATH] [--tab-size COLUMNS] COMMAND\n" ++
    "Commands:\n" ++
    "  check FILE... [--format text|json]\n" ++
    "  outline FILE [--format text|json]\n" ++
    "  indent --previous TEXT [--previous-indent N] [--current TEXT]\n" ++
    "  keywords [--language french|english|both]\n" ++
    "  run FILE\n").toList

end Bilingua.Command
