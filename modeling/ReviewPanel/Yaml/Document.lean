import ReviewPanel.Datum.Reading
import ReviewPanel.Yaml.Layout
import ReviewPanel.Yaml.Node

/-!
# YAML documents

A text is read as one document. An alias stands for a copy of its node; since a
node may hold an alias of itself, copies are made to a certain depth only, and
what lies deeper can be passed over but not read.
-/

namespace ReviewPanel.Yaml

/-- What the tokens of a text amount to. -/
structure Document where
  root : Node
  /-- Whether the text is well formed and holds nothing after the root. -/
  isWhole : Bool
  deriving Repr

/-- The stems that handles stand for without a directive. -/
def standardHandles : List (String × String) := [("!", "!"), ("!!", "tag:yaml.org,2002:")]

/-- The versions of YAML that a text may name. -/
def isKnownVersion (major minor : Nat) : Bool := major == 1 && (minor == 1 || minor == 2)

/-- The directives in front of a document, each of which may be given once, and
the tokens after them. -/
def readDirectives (versionGiven : Bool) (handles : List (String × String)) :
    List Token → Option (List (String × String) × List Token)
  | .version major minor :: rest =>
    if versionGiven || !isKnownVersion major minor then none
    else readDirectives true handles rest
  | .tagHandle handle stem :: rest =>
    if handles.any (·.1 == handle) then none
    else readDirectives versionGiven (handles ++ [(handle, stem)]) rest
  | rest => some (handles ++ standardHandles, rest)

def endsContent : Token → Bool
  | .version .. | .tagHandle .. | .documentStart | .documentEnd | .streamEnd => true
  | _ => false

/-- Whether the tokens after a document hold no other one. -/
def isEnd : List Token → Bool
  | .documentEnd :: rest => isEnd rest
  | rest => rest == [.streamEnd]

namespace Document

/-- A text that breaks off at once. -/
def broken : Document := ⟨.broken, false⟩

/-- The document whose content starts the tokens. -/
def ofContent (found : Node × Rest) : Document :=
  ⟨found.1, found.2.any fun s => isEnd s.tokens⟩

/-- The first document among tokens; a text without any holds an empty one. -/
def ofTokens (tokens : List Token) : Document :=
  let fuel := 4 * tokens.length + 16
  if tokens == [.streamEnd] then ⟨.empty, true⟩
  else
    match readDirectives false [] tokens with
    | none => broken
    | some (handles, .documentStart :: rest) =>
      ofContent (readOptional .block endsContent fuel ⟨rest, [], handles⟩)
    | some (handles, _) =>
      match tokens with
      | .version .. :: _ | .tagHandle .. :: _ => broken
      | _ => ofContent (readNode .block fuel ⟨tokens, [], handles⟩)

def ofText (text : String) : Document := ofTokens (tokens text)

end Document

/-! ### Content -/

/-- The mark of a tag: a local tag names a variant. -/
def markOfTag (tag : String) : Tag :=
  match tag.toList with
  | ['!'] => .variant "!"
  | '!' :: name => .variant (String.ofList name)
  | _ =>
    match tag with
    | "tag:yaml.org,2002:null" => .null
    | "tag:yaml.org,2002:bool" => .bool
    | "tag:yaml.org,2002:int" => .int
    | "tag:yaml.org,2002:float" => .float
    | _ => .other

def mark (tag : Option String) (d : Datum) : Datum :=
  match tag with
  | some t => .tagged (markOfTag t) d
  | none => d

def scalarDatum (style : Style) (text : String) : Datum :=
  match style with
  | .plain => .plain text
  | .literal => .block text
  | .quoted | .folded => .text text

namespace Node

mutual

/-- The content of a node, given the content that aliases stand for. -/
def datum (aliases : List (Nat × Datum)) : Node → Datum
  | .scalar _ tag style text => mark tag (scalarDatum style text)
  | .sequence _ tag items => mark tag (.list (datumItems aliases items))
  | .mapping _ tag members => mark tag (.record (datumMembers aliases members))
  | .alias number => (aliases.lookup number).getD .unreadable
  | .broken => .broken

def datumItems (aliases : List (Nat × Datum)) : List Node → List Datum
  | [] => []
  | x :: rest => x.datum aliases :: datumItems aliases rest

/-- A key that is no scalar gives a member without a name. -/
def datumMembers (aliases : List (Nat × Datum)) :
    List (Node × Node) → List (Option String × Datum)
  | [] => []
  | (k, v) :: rest =>
    ((k.datum aliases).asText.toOption, v.datum aliases) :: datumMembers aliases rest

end

end Node

/-- Aliases inside aliases are followed to this depth. -/
def aliasDepth : Nat := 16

/-- The content that aliases stand for, the node that was given a number last in
front. -/
def aliasContents (anchored : List (Nat × Node)) : Nat → List (Nat × Datum)
  | 0 => []
  | depth + 1 =>
    let inner := aliasContents anchored depth
    anchored.reverse.map fun (number, node) => (number, node.datum inner)

/-- The content of a document. -/
def Document.datum (d : Document) : Datum :=
  d.root.datum (aliasContents d.root.anchored aliasDepth)

/-- Reads the text of one document as a type. What the type refuses comes before
what is wrong with the rest of the text. -/
def decode {α : Type} (read : Datum → Reading α) (text : String) : Reading α := do
  let d := Document.ofText text
  let x ← read d.datum
  if d.isWhole then return x else .error .mismatch

end ReviewPanel.Yaml
