/-!
# Tokens

The tokens of a YAML text: scalars, the properties of nodes, directives, and
the marks that open, part and close collections and documents. Marks of block
collections come from the indentation alone.
-/

namespace ReviewPanel.Yaml

/-- How a scalar is written. -/
inductive Style
  | plain
  | quoted
  | literal
  | folded
  deriving Repr, DecidableEq

/-- A token. -/
inductive Token
  | version (major minor : Nat)
  /-- The tags that a handle stands for begin with a stem. -/
  | tagHandle (handle stem : String)
  | documentStart
  | documentEnd
  | blockSequenceStart
  | blockMappingStart
  | blockEnd
  | flowSequenceStart
  | flowSequenceEnd
  | flowMappingStart
  | flowMappingEnd
  | blockEntry
  | flowEntry
  | key
  | value
  | alias (name : String)
  | anchor (name : String)
  | tag (handle suffix : String)
  | scalar (style : Style) (text : String)
  | streamEnd
  deriving Repr, DecidableEq

end ReviewPanel.Yaml
