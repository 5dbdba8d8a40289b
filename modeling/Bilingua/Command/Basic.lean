import Bilingua.Analysis
import Bilingua.Command.Arguments
import Bilingua.Command.Rendering
import Bilingua.Host.Basic
import Bilingua.Settings.Reader

/-!
# Commands

A command ends with an exit code and with what it wrote. `check` looks at each file in turn and
stops at the first that it cannot read; `outline`, `indent` and `keywords` print what the analysis
says; `run` hands a file to the interpreter and ends as that does.

Settings come from the file that `--config` names, or else from `dav.toml` where the command runs,
or else are the default ones.
-/

namespace Bilingua.Command

structure Outcome where
  code : Nat
  output : Text
  errors : Text
deriving DecidableEq, Repr

/-! ## Failures -/

inductive Failure where
  | settingsUnreadable (path : Path) (cause : ReadError)
  | settingsInvalid (cause : Settings.Error)
  | fileUnreadable (path : Path) (cause : ReadError)
  /-- A report in JSON, which is a text, cannot name a path that is none. -/
  | pathNotText
  | wrongExtension (path : Path)
  | interpreterNotStarted (program : Text) (cause : LaunchError)

namespace Failure

def message : Failure → Text
  | .settingsUnreadable path cause =>
    "failed to read settings file '".toList ++ path.display ++ "': ".toList ++ cause.text
  | .settingsInvalid .zeroTabSize => "tab-size must be at least 1".toList
  | .settingsInvalid cause =>
    "invalid settings: ".toList ++ cause.detail?.getD "not a settings document".toList
  | .fileUnreadable path _ => "failed to read ".toList ++ path.display
  | .pathNotText => "path contains invalid UTF-8 characters".toList
  | .wrongExtension path => "le fichier doit avoir l'extension .dav: ".toList ++ path.display
  | .interpreterNotStarted program _ =>
    "failed to start interpreter '".toList ++ program ++ "'".toList

def cause? : Failure → Option Text
  | .settingsUnreadable _ cause => some cause.text
  | .fileUnreadable _ cause => some cause.text
  | .interpreterNotStarted _ cause => some cause.text
  | _ => none

def text (f : Failure) : Text :=
  "Error: ".toList ++ f.message ++ ['\n'] ++
    match f.cause? with
    | none => []
    | some cause => "\nCaused by:\n    ".toList ++ cause ++ ['\n']

end Failure

def failed (output : Text) (f : Failure) : Outcome := ⟨1, output, f.text⟩

/-! ## Settings -/

def defaultSettingsFile : Path := .ofText "dav.toml".toList

def readSettings (host : Host) (path : Path) : Except Failure Settings :=
  match host.read path with
  | .error e => .error (.settingsUnreadable path e)
  | .ok text =>
    match Settings.ofText text with
    | .error e => .error (.settingsInvalid e)
    | .ok s => .ok s

/-- The settings of the file that applies, or the default ones. -/
def fileSettings (host : Host) (config : Option Path) : Except Failure Settings :=
  match config with
  | some path => readSettings host path
  | none =>
    if host.isFile defaultSettingsFile then readSettings host defaultSettingsFile
    else .ok .default

/-- The settings of an invocation. A tab size on the command line wins. -/
def loadSettings (host : Host) (config : Option Path) (tabSize : Option Nat) :
    Except Failure Settings :=
  match fileSettings host config, tabSize with
  | .error f, _ => .error f
  | .ok s, none => .ok s
  | .ok s, some n =>
    match { s with tabSize := n : Settings }.validated with
    | .error e => .error (.settingsInvalid e)
    | .ok s => .ok s

/-! ## Checks -/

/-- The findings of the files up to the first that cannot be read, and the failure of that one. -/
def checkedFiles (s : Settings) (read : Path → Except ReadError Text) :
    List Path → List (Path × List Finding) × Option Failure
  | [] => ([], none)
  | path :: paths =>
    match read path with
    | .error e => ([], some (.fileUnreadable path e))
    | .ok text =>
      let (later, failure) := checkedFiles s read paths
      ((path, s.findings text) :: later, failure)

/-- The findings of checked files by what their paths look like. -/
def storeOf (checked : List (Path × List Finding)) : Store :=
  checked.foldl (fun store (path, fs) => store.insert path.display fs) .empty

def findingLines (checked : List (Path × List Finding)) : Text :=
  checked.flatMap fun (path, fs) =>
    fs.flatMap fun f => Rendering.findingLine path.display f ++ ['\n']

/-- The report on checked files, if all of their paths are texts. -/
def reports? (checked : List (Path × List Finding)) : Option Json :=
  (checked.mapM fun (entry : Path × List Finding) =>
    entry.1.text?.map (Rendering.reportJson · entry.2)).map .array

def check (s : Settings) (host : Host) (files : List Path) (format : Format) : Outcome :=
  let (checked, failure) := checkedFiles s host.read files
  -- Lines and reports go by the paths that are given; the counts go by the store.
  let store := storeOf checked
  let code := if store.errorCount = 0 then 0 else 1
  match failure, format with
  | some f, .text => failed (findingLines checked) f
  | some f, .json => failed [] f
  | none, .text =>
    let summary := Rendering.summary store.errorCount store.warningCount
    ⟨code, findingLines checked ++ summary ++ ['\n'], []⟩
  | none, .json =>
    match reports? checked with
    | none => failed [] .pathNotText
    | some json => ⟨code, json.text ++ ['\n'], []⟩

/-! ## The other commands -/

def outline (s : Settings) (host : Host) (file : Path) (format : Format) : Outcome :=
  match host.read file with
  | .error e => failed [] (.fileUnreadable file e)
  | .ok text =>
    let o := s.outline text
    match format with
    | .text => ⟨0, Rendering.outlineText o, []⟩
    | .json => ⟨0, (Rendering.outlineJson o).text ++ ['\n'], []⟩

def indent (s : Settings) (previous : Text) (previousIndent : Option Nat) (current : Text) :
    Outcome :=
  let column := previousIndent.getD (Indentation.measure previous s.tabSize)
  ⟨0, Text.ofNat (Indentation.next previous column current s.tabSize) ++ ['\n'], []⟩

def keywords (s : Settings) (language : Option Preference) : Outcome :=
  ⟨0, (Keyword.offered (language.getD s.preference)).flatMap (· ++ ['\n']), []⟩

def codeOf (status : Option Nat) : Nat :=
  match status with
  | none => 1
  | some n => if n < 256 then n else 1

def run (s : Settings) (host : Host) (file : Path) : Outcome :=
  if (Path.extension? file).bind Path.text? = some "dav".toList then
    -- The program is given the path, but a file that has no text is refused before.
    match host.read file with
    | .error e => failed [] (.fileUnreadable file e)
    | .ok _ =>
      match host.launch s.interpreter file with
      | .error e => failed [] (.interpreterNotStarted s.interpreter e)
      | .ok c => ⟨codeOf c.status, c.output, c.errors⟩
  else failed [] (.wrongExtension file)

/-! ## Invocations -/

def perform (s : Settings) (host : Host) : Action → Outcome
  | .check files format => check s host files format
  | .outline file format => outline s host file format
  | .indent previous previousIndent current => indent s previous previousIndent current
  | .keywords language => keywords s language
  | .run file => run s host file

def invoke (host : Host) (i : Invocation) : Outcome :=
  match loadSettings host i.config i.tabSize with
  | .error f => failed [] f
  | .ok s => perform s host i.action

def versionText : Text := "dav-tools 0.1.0\n".toList

def misuseCode : Nat := 2

def execute (host : Host) (args : List Bytes) : Outcome :=
  match parse args with
  | .ok i => invoke host i
  | .error .version => ⟨0, versionText, []⟩
  | .error .help => ⟨0, usage, []⟩
  | .error (.misuse m) => ⟨misuseCode, [], "error: ".toList ++ m.message ++ ['\n'] ++ usage⟩

end Bilingua.Command
