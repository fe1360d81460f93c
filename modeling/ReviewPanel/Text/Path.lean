import ReviewPanel.Text.Search

/-!
# Paths

A path is read as components between slashes. Empty components and single
dots stand for nothing, and two dots at the end name no file. The extension of
a file name follows its last dot, unless that dot is the first character. A
path with a slash or a dot at its end can only lead to a directory.
-/

namespace ReviewPanel.Text

/-- Where a path leads at its end. -/
inductive PathEnd
  | file (name : List Char)
  | noFile
  deriving Repr, DecidableEq

/-- The last component of a path that stands for something. -/
def pathEnd (path : List Char) : PathEnd :=
  let parts := splitAt '/' path
  let parts := parts.filter fun p => !p.isEmpty && p != ['.']
  match parts.getLast? with
  | none => .noFile
  | some name => if name = ['.', '.'] then .noFile else .file name

/-- The file name of a path. -/
def fileName? (path : String) : Option String :=
  match pathEnd path.toList with
  | .file name => some (String.ofList name)
  | .noFile => none

/-- The file name before and after its last dot; nothing after it when there
is no such dot, or only one at the start. -/
def splitName (name : List Char) : List Char × Option (List Char) :=
  let after := name.reverse.takeWhile (· != '.')
  let before := (name.reverse.drop (after.length + 1)).reverse
  if after.length = name.length ∨ before.isEmpty then (name, none)
  else (before, some after.reverse)

/-- The extension of a path, without its dot. -/
def extension? (path : String) : Option String :=
  match pathEnd path.toList with
  | .file name => (splitName name).2.map String.ofList
  | .noFile => none

/-- The file name of a path without its extension. -/
def fileStem? (path : String) : Option String :=
  match pathEnd path.toList with
  | .file name => some (String.ofList (splitName name).1)
  | .noFile => none

/-- The names along a path that leads to a file below the directory it starts
from; nothing where the path is absolute, goes up, or can only lead to a directory. -/
def namesBelow? (path : String) : Option (List (List Char)) :=
  let parts := splitAt '/' path.toList
  let names := parts.filter fun p => !p.isEmpty && p != ['.']
  let endsInName := parts.getLast? == names.getLast?
  if names.isEmpty || !endsInName || parts.head? == some [] || names.contains ['.', '.'] then none
  else some names

end ReviewPanel.Text
