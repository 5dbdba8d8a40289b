import Bilingua.Text.Utf8

/-!
# Paths

A path is names with slashes between them, given by its bytes. Empty names and single points mean the
directory that is reached already. Most paths are texts, but a system takes any bytes; such a path is
shown with replacement characters, so that two paths can look alike.
-/

namespace Bilingua

abbrev Path := Bytes

namespace Path

def ofText (t : Text) : Path := t.utf8

def text? (path : Path) : Option Text := Utf8.text? path

def display (path : Path) : Text := Utf8.lossy path

/-- The names between the slashes of a path, empty ones included. -/
def components : Path → List Path
  | [] => [[]]
  | 0x2F :: path => [] :: components path
  | b :: path =>
    match components path with
    | [] => [[b]]
    | name :: names => (b :: name) :: names

def names (path : Path) : List Path :=
  (components path).filter fun name => !name.isEmpty && name != ofText ['.']

/-- The last name of a path, unless it leads upwards. -/
def fileName? (path : Path) : Option Path :=
  (names path).getLast?.filter (· != ofText "..".toList)

/-- What follows the last point of the last name. A point at its start does not count. -/
def extension? (path : Path) : Option Path :=
  (fileName? path).bind fun name =>
    let ext := (name.reverse.takeWhile (· != 0x2E)).reverse
    if ext.length + 1 < name.length then some ext else none

end Path

end Bilingua
