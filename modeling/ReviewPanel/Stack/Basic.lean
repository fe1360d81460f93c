import ReviewPanel.Datum.Fields

/-!
# Technology stacks

What is known of the technology of a file: its language, its framework and
what kind of file it is. Each of the three may be unknown.
-/

namespace ReviewPanel

/-- What is known of the technology of a file. -/
structure Stack where
  language : Option String
  framework : Option String
  fileType : Option String
  deriving Repr, DecidableEq

namespace Stack

def unknown : Stack := ⟨none, none, none⟩

instance : Inhabited Stack := ⟨unknown⟩

/-- Whether nothing at all is known. -/
def isUnknown (s : Stack) : Bool :=
  s.language.isNone && s.framework.isNone && s.fileType.isNone

def toJson (s : Stack) : Json :=
  .object [("language", .textOrNull s.language), ("framework", .textOrNull s.framework),
    ("file_type", .textOrNull s.fileType)]

def ofDatum (d : Datum) : Reading Stack :=
  d.asStructure .json ["language", "framework", "file_type"] fun fs =>
    Stack.mk <$> fs.optional 0 Datum.asText
      <*> fs.optional 1 Datum.asText
      <*> fs.optional 2 Datum.asText

end Stack

end ReviewPanel
