import Bilingua.Indentation
import Bilingua.Outline.Basic
import Bilingua.Settings.Basic
import Bilingua.Store
import Bilingua.Text.Lines

/-!
# Analysis of documents

What the settings make of whole documents: the report, the outline, the indentation of a new line
and the keywords to offer.
-/

namespace Bilingua.Settings

def report (s : Settings) (text : Text) : Report := validate s.elseCheck text.lines

def findings (s : Settings) (text : Text) : List Finding := (s.report text).findings

/-- The outline of a document. It depends on no setting. -/
def outline (_ : Settings) (text : Text) : Outline := Outline.ofLines text.lines

/-- The column of a new line that starts with `current`, after the line `previous`. -/
def indentAfter (s : Settings) (previous current : Text) : Nat :=
  Indentation.next previous (Indentation.measure previous s.tabSize) current s.tabSize

def keywords (s : Settings) : List Text := Keyword.offered s.preference

def refresh (s : Settings) (store : Store) (uri text : Text) : Store :=
  store.insert uri (s.findings text)

end Bilingua.Settings
