import ReviewPanel.Yaml.Scalar.Gap

/-!
# Plain scalars

A plain scalar is written without any mark. It ends before a comment, before a
colon that spacing follows, before a line that is not indented enough, and,
inside a flow collection, before the marks of such collections.
-/

namespace ReviewPanel.Yaml.Plain

/-- The marks of flow collections. -/
def isFlowMark (c : Char) : Bool := c ∈ [',', '[', ']', '\x7b', '\x7d']

/-- The characters that must not follow a colon inside a flow collection. -/
def isMisplacedAfterColon (c : Char) : Bool := c == '?' || isFlowMark c

/-- Whether spacing or nothing comes next. -/
def atWordEnd : List Char → Bool
  | [] => true
  | c :: _ => isSpacing c

/-- The word at the start of a text; none where a colon is misplaced. -/
def word? (inFlow : Bool) : List Char → Option (List Char)
  | [] => some []
  | c :: rest =>
    if isSpacing c then some []
    else if inFlow && c == ':' && rest.head?.any isMisplacedAfterColon then none
    else if c == ':' && atWordEnd rest || inFlow && isFlowMark c then some []
    else (word? inFlow rest).map (c :: ·)

/-- A plain scalar and the place after it. -/
structure Scan where
  text : String
  /-- Whether the place is on a later line than the last word. -/
  onNewLine : Bool
  after : Place
  deriving Repr

/-- Reads a plain scalar. `chars` holds what was read so far, last first, `gap`
what lies before the place. -/
def read (inFlow : Bool) (floor : Nat) (chars : List Char) (gap : Gap) :
    Nat → Place → Option Scan
  | 0, p => some ⟨String.ofList chars.reverse, gap.broken, p⟩
  | fuel + 1, p =>
    let scan (gap : Gap) (chars : List Char) (p : Place) : Scan :=
      ⟨String.ofList chars.reverse, gap.broken, p⟩
    if p.atDocumentMark || p.isAt '#' then some (scan gap chars p)
    else do
      let word ← word? inFlow p.rest
      if word.isEmpty then return scan gap chars p
      let chars := word.reverse ++ gap.text.reverse ++ chars
      let p := p.advance word.length
      if !p.isAtA isSpacing then return scan .empty chars p
      let (gap, p) ← Gap.empty.read floor p.fuel p
      if !inFlow && p.column < floor then return scan gap chars p
      read inFlow floor chars gap fuel p

end ReviewPanel.Yaml.Plain
