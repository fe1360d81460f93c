import ReviewPanel.Yaml.Token

/-!
# Nodes

A document is a tree of nodes. The tree is built from the tokens of the text
from left to right; where they stop to fit, the tree ends with `Node.broken`
at that place. Anchors are numbered: a name takes as its number how many
other names are in use. An alias refers to a number, so the node it stands for
is the last one that the number was given to.
-/

namespace ReviewPanel.Yaml

/-- A node of a document. -/
inductive Node
  | scalar (anchor : Option Nat) (tag : Option String) (style : Style) (text : String)
  | sequence (anchor : Option Nat) (tag : Option String) (items : List Node)
  | mapping (anchor : Option Nat) (tag : Option String) (members : List (Node × Node))
  | alias (number : Nat)
  /-- The place where the text stops being well formed. -/
  | broken
  deriving Repr

instance : Inhabited Node := ⟨.broken⟩

/-- A node that is left out. -/
def Node.empty : Node := .scalar none none .plain ""

/-- The tokens that are left, and the names that the tokens so far have given. -/
structure Source where
  tokens : List Token
  /-- The numbers of the names of anchors. -/
  names : List (String × Nat)
  /-- The stems that the handles of tags stand for. -/
  handles : List (String × String)
  deriving Repr

/-- What is left after one of the parts; none when the text broke off. -/
abbrev Rest := Option Source

namespace Source

def goTo (s : Source) (tokens : List Token) : Source := { s with tokens }

/-- Gives a number to the name of an anchor. -/
def name (s : Source) (anchor : Option String) : Option Nat × Source :=
  match anchor with
  | none => (none, s)
  | some a =>
    let others := s.names.filter (·.1 != a)
    let number := s.names.length
    (some number, { s with names := (a, number) :: others })

/-- The tag that a handle and a suffix stand for. -/
def tag? (s : Source) (handle suffix : String) : Option String :=
  if handle == "" then some suffix else (s.handles.lookup handle).map (· ++ suffix)

end Source

/-- The anchor and the tag in front of a node. -/
structure Properties where
  anchor : Option String
  tag : Option String

/-- The properties in front of a node, in either order, and the tokens after
them; none where a tag has an unknown handle. -/
def Properties.read (s : Source) : Option (Properties × List Token) :=
  match s.tokens with
  | .anchor a :: .tag h x :: rest => (s.tag? h x).map fun t => (⟨some a, some t⟩, rest)
  | .anchor a :: rest => some (⟨some a, none⟩, rest)
  | .tag h x :: .anchor a :: rest => (s.tag? h x).map fun t => (⟨some a, some t⟩, rest)
  | .tag h x :: rest => (s.tag? h x).map fun t => (⟨none, some t⟩, rest)
  | rest => some (⟨none, none⟩, rest)

def Properties.isEmpty (p : Properties) : Bool := p.anchor.isNone && p.tag.isNone

/-- Where a node may stand. -/
inductive Position
  /-- Inside a flow collection: there are no block collections. -/
  | flow
  | block
  /-- In a block mapping, where a sequence needs no indentation of its own. -/
  | member
  deriving Repr, DecidableEq

/-- The tag of a scalar; a mark on its own tags nothing. -/
def scalarTag (tag : Option String) : Option String := tag.filter (· != "!")

def endsMember : Token → Bool
  | .key | .value | .blockEnd => true
  | _ => false

def endsBlockItem : Token → Bool
  | .blockEntry | .blockEnd => true
  | _ => false

def endsBareItem (t : Token) : Bool := t == .blockEntry || endsMember t

def endsFlowMember : Token → Bool
  | .flowEntry | .flowMappingEnd => true
  | _ => false

def endsFlowItem : Token → Bool
  | .flowEntry | .flowSequenceEnd => true
  | _ => false

mutual

/-- The node at the start of the tokens. -/
def readNode (position : Position) : Nat → Source → Node × Rest
  | 0, _ => (.broken, none)
  | fuel + 1, s =>
    match s.tokens with
    | .alias a :: rest =>
      match s.names.lookup a with
      | some number => (.alias number, some (s.goTo rest))
      | none => (.broken, none)
    | _ =>
      match Properties.read s with
      | none => (.broken, none)
      | some (p, tokens) =>
        let (anchor, named) := s.name p.anchor
        match tokens with
        | [] => (.broken, none)
        | t :: rest =>
          let after := named.goTo rest
          let list (found : List Node × Rest) : Node × Rest :=
            (.sequence anchor p.tag found.1, found.2)
          let record (found : List (Node × Node) × Rest) : Node × Rest :=
            (.mapping anchor p.tag found.1, found.2)
          match t with
          | .scalar style text => (.scalar anchor (scalarTag p.tag) style text, some after)
          | .flowSequenceStart => list (readFlowItems true [] fuel after)
          | .flowMappingStart => record (readFlowMembers true [] fuel after)
          | t =>
            if position == .member && t == .blockEntry then
              list (readBareItems [] fuel (named.goTo tokens))
            else if position != .flow && t == .blockSequenceStart then
              list (readBlockItems [] fuel after)
            else if position != .flow && t == .blockMappingStart then
              record (readBlockMembers [] fuel after)
            else if p.isEmpty then (.broken, none)
            else (.scalar anchor p.tag .plain "", some (named.goTo tokens))

/-- A node that is left out before certain tokens. -/
def readOptional (position : Position) (ends : Token → Bool) : Nat → Source → Node × Rest
  | 0, _ => (.broken, none)
  | fuel + 1, s =>
    match s.tokens with
    | [] => (.broken, none)
    | t :: _ => if ends t then (.empty, some s) else readNode position fuel s

/-- The value of a member, which may be left out with its mark. -/
def readMemberValue (position : Position) (ends : Token → Bool) : Nat → Source → Node × Rest
  | 0, _ => (.broken, none)
  | fuel + 1, s =>
    match s.tokens with
    | [] => (.broken, none)
    | .value :: rest => readOptional position ends fuel (s.goTo rest)
    | _ => (.empty, some s)

/-- A key and its value. -/
def readMember (position : Position) (ends : Token → Bool) :
    Nat → Source → (Node × Node) × Rest
  | 0, _ => ((.broken, .broken), none)
  | fuel + 1, s =>
    match readOptional position (fun t => t == .value || ends t) fuel s with
    | (k, none) => ((k, .broken), none)
    | (k, some s) =>
      let (v, rest) := readMemberValue position ends fuel s
      ((k, v), rest)

/-- The items of a block sequence; `found` holds the items so far, last first. -/
def readBlockItems (found : List Node) : Nat → Source → List Node × Rest
  | 0, _ => ((.broken :: found).reverse, none)
  | fuel + 1, s =>
    match s.tokens with
    | .blockEntry :: rest =>
      match readOptional .block endsBlockItem fuel (s.goTo rest) with
      | (x, none) => ((x :: found).reverse, none)
      | (x, some s) => readBlockItems (x :: found) fuel s
    | .blockEnd :: rest => (found.reverse, some (s.goTo rest))
    | _ => ((.broken :: found).reverse, none)

/-- The items of a sequence with the indentation of the mapping around it. -/
def readBareItems (found : List Node) : Nat → Source → List Node × Rest
  | 0, _ => ((.broken :: found).reverse, none)
  | fuel + 1, s =>
    match s.tokens with
    | .blockEntry :: rest =>
      match readOptional .block endsBareItem fuel (s.goTo rest) with
      | (x, none) => ((x :: found).reverse, none)
      | (x, some s) => readBareItems (x :: found) fuel s
    | [] => ((.broken :: found).reverse, none)
    | _ => (found.reverse, some s)

/-- The members of a block mapping. -/
def readBlockMembers (found : List (Node × Node)) : Nat → Source → List (Node × Node) × Rest
  | 0, _ => (((.broken, .broken) :: found).reverse, none)
  | fuel + 1, s =>
    match s.tokens with
    | .key :: rest =>
      match readMember .member endsMember fuel (s.goTo rest) with
      | (m, none) => ((m :: found).reverse, none)
      | (m, some s) => readBlockMembers (m :: found) fuel s
    | .blockEnd :: rest => (found.reverse, some (s.goTo rest))
    | _ => (((.broken, .broken) :: found).reverse, none)

/-- The items of a flow sequence. An item that begins with the mark of a key is
a mapping of one member. -/
def readFlowItems (isFirst : Bool) (found : List Node) : Nat → Source → List Node × Rest
  | 0, _ => ((.broken :: found).reverse, none)
  | fuel + 1, s =>
    let stop := ((Node.broken :: found).reverse, none)
    let item (s : Source) : List Node × Rest :=
      match s.tokens with
      | [] => stop
      | .flowSequenceEnd :: rest => (found.reverse, some (s.goTo rest))
      | .key :: rest =>
        match readPair fuel (s.goTo rest) with
        | (x, none) => ((x :: found).reverse, none)
        | (x, some s) => readFlowItems false (x :: found) fuel s
      | _ =>
        match readNode .flow fuel s with
        | (x, none) => ((x :: found).reverse, none)
        | (x, some s) => readFlowItems false (x :: found) fuel s
    match s.tokens with
    | .flowSequenceEnd :: rest => (found.reverse, some (s.goTo rest))
    | .flowEntry :: rest => if isFirst then item s else item (s.goTo rest)
    | _ => if isFirst then item s else stop

/-- A mapping of one member inside a flow sequence. A token that stands where
the key is left out is passed over. -/
def readPair : Nat → Source → Node × Rest
  | 0, _ => (.broken, none)
  | fuel + 1, s =>
    let pair (k v : Node) : Node := .mapping none none [(k, v)]
    let value (k : Node) (s : Source) : Node × Rest :=
      let (v, rest) := readMemberValue .flow endsFlowItem fuel s
      (pair k v, rest)
    match s.tokens with
    | [] => (pair .broken .broken, none)
    | t :: rest =>
      if t == .value || endsFlowItem t then value .empty (s.goTo rest)
      else
        match readNode .flow fuel s with
        | (k, none) => (pair k .broken, none)
        | (k, some s) => value k s

/-- The members of a flow mapping; a node without the mark of a key is a key
without a value. -/
def readFlowMembers (isFirst : Bool) (found : List (Node × Node)) :
    Nat → Source → List (Node × Node) × Rest
  | 0, _ => (((.broken, .broken) :: found).reverse, none)
  | fuel + 1, s =>
    let stop := (((Node.broken, Node.broken) :: found).reverse, none)
    let member (s : Source) : List (Node × Node) × Rest :=
      match s.tokens with
      | [] => stop
      | .flowMappingEnd :: rest => (found.reverse, some (s.goTo rest))
      | .key :: rest =>
        match readMember .flow endsFlowMember fuel (s.goTo rest) with
        | (m, none) => ((m :: found).reverse, none)
        | (m, some s) => readFlowMembers false (m :: found) fuel s
      | _ =>
        match readNode .flow fuel s with
        | (k, none) => (((k, .broken) :: found).reverse, none)
        | (k, some s) => readFlowMembers false ((k, .empty) :: found) fuel s
    match s.tokens with
    | .flowMappingEnd :: rest => (found.reverse, some (s.goTo rest))
    | .flowEntry :: rest => if isFirst then member s else member (s.goTo rest)
    | _ => if isFirst then member s else stop

end

namespace Node

mutual

/-- The nodes with anchors, in the order in which they start. -/
def anchored : Node → List (Nat × Node)
  | .scalar anchor tag style text =>
    anchor.toList.map (·, .scalar anchor tag style text)
  | .sequence anchor tag items =>
    anchor.toList.map (·, .sequence anchor tag items) ++ anchoredItems items
  | .mapping anchor tag members =>
    anchor.toList.map (·, .mapping anchor tag members) ++ anchoredMembers members
  | .alias _ | .broken => []

def anchoredItems : List Node → List (Nat × Node)
  | [] => []
  | x :: rest => x.anchored ++ anchoredItems rest

def anchoredMembers : List (Node × Node) → List (Nat × Node)
  | [] => []
  | (k, v) :: rest => k.anchored ++ v.anchored ++ anchoredMembers rest

end

end Node

end ReviewPanel.Yaml
