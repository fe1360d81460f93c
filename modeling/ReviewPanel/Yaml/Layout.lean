import ReviewPanel.Yaml.Property
import ReviewPanel.Yaml.Scalar.Block
import ReviewPanel.Yaml.Scalar.Plain
import ReviewPanel.Yaml.Scalar.Quoted

/-!
# Layout

Tokens are found from left to right. Block collections have no marks of their
own: one opens where an entry or a key stands to the right of the indentation
in force, and ends before the first token to the left of its own.

Whether a token begins a key shows only at the colon after it, so each flow
level, and the block outside of them, has at most one candidate: a token where
a key may stand. A colon turns the candidate into a key; a candidate on an
earlier line, or too far back, is given up. Tokens from the first candidate on
are not settled. Where the text stops being well formed, only the settled ones
are tokens of the text.
-/

namespace ReviewPanel.Yaml

/-- A token that a colon may turn into the start of a key. -/
structure Candidate where
  /-- The number of tokens before it. -/
  token : Nat
  /-- Whether the layout leaves it no choice but to be a key. -/
  isRequired : Bool
  index : Nat
  line : Nat
  column : Nat
  deriving Repr

/-- A token that has turned out to start a key. -/
structure KeyStart where
  /-- The number of tokens before it. -/
  token : Nat
  /-- Whether a block mapping opens with the key. -/
  opensMapping : Bool
  deriving Repr

/-- The tokens found so far, and what decides how the text goes on. -/
structure Layout where
  place : Place
  /-- The tokens without the marks of keys that start with a candidate, last first. -/
  tokens : List Token
  /-- The number of these tokens. -/
  count : Nat
  /-- The keys that start with a candidate. -/
  keys : List KeyStart
  /-- The column of the innermost open block collection, -1 outside of all. -/
  indent : Int
  /-- The columns of the collections around it, and -1 outside of them. -/
  outerIndents : List Int
  /-- Whether a key may start at the place. -/
  allowsKey : Bool
  candidate : Option Candidate
  /-- The candidates of the flow levels around the place, innermost first. -/
  outerCandidates : List (Option Candidate)
  deriving Repr

namespace Layout

/-- A candidate has to be this close to its colon. -/
def keyLimit : Nat := 1024

def start (text : List Char) : Layout :=
  { place := .start text, tokens := [], count := 0, keys := [], indent := -1, outerIndents := [],
    allowsKey := true, candidate := none, outerCandidates := [] }

def inFlow (s : Layout) : Bool := !s.outerCandidates.isEmpty

def emit (s : Layout) (t : Token) : Layout :=
  { s with tokens := t :: s.tokens, count := s.count + 1 }

/-- Adds a token and goes on at a place after it. -/
def emitAt (s : Layout) (t : Token) (p : Place) : Layout :=
  { s.emit t with place := p }

def candidates (s : Layout) : List Candidate :=
  (s.candidate :: s.outerCandidates).filterMap id

/-- The number of tokens that no candidate can change. -/
def settled (s : Layout) : Nat :=
  s.candidates.foldl (fun n c => min n c.token) s.count

/-- The tokens, the first of which has the number `i`, with the marks of keys put
before the tokens that start them; the keys are in the order of their tokens. -/
def arrange : List KeyStart → Nat → List Token → List Token
  | k :: keys, i, t :: rest =>
    if k.token == i then
      let marks := if k.opensMapping then [.blockMappingStart, .key] else [.key]
      marks ++ t :: arrange keys (i + 1) rest
    else t :: arrange (k :: keys) (i + 1) rest
  | [], _, tokens => tokens
  | _, _, [] => []

/-- The first tokens of the text. -/
def deliver (s : Layout) (count : Nat) : List Token :=
  let keys := s.keys.mergeSort fun a b => a.token ≤ b.token
  arrange keys 0 (s.tokens.reverse.take count)

/-! ### Candidates -/

/-- Whether a colon at the place is too far from a candidate. -/
def isStale (p : Place) (c : Candidate) : Bool :=
  c.line < p.line || c.index + keyLimit < p.index

/-- Gives up the candidates that are too far back; none where one of them had
to be a key. -/
def dropStale (s : Layout) : Option Layout :=
  if s.candidates.any fun c => c.isRequired && isStale s.place c then none
  else
    let keep (c : Option Candidate) : Option Candidate := c.filter (!isStale s.place ·)
    some { s with
      candidate := keep s.candidate
      outerCandidates := s.outerCandidates.map keep }

/-- Gives up the candidate; none where it had to be a key. -/
def dropCandidate (s : Layout) : Option Layout :=
  if s.candidate.any (·.isRequired) then none else some { s with candidate := none }

/-- Makes the next token a candidate where a key may start. -/
def offerKey (s : Layout) : Option Layout :=
  if s.allowsKey then do
    let p := s.place
    let isRequired := !s.inFlow && s.indent == p.column
    let s ← s.dropCandidate
    return { s with candidate := some ⟨s.count, isRequired, p.index, p.line, p.column⟩ }
  else some s

/-! ### Indentation -/

/-- Ends the block collections to the right of a column, given the columns of
those around the innermost one. -/
def closeTo (column : Int) (s : Layout) : List Int → Layout
  | [] => { s with outerIndents := [] }
  | i :: rest =>
    if column < s.indent then closeTo column { s.emit .blockEnd with indent := i } rest
    else { s with outerIndents := i :: rest }

def dedent (s : Layout) (column : Int) : Layout :=
  if s.inFlow then s else closeTo column s s.outerIndents

/-- Whether a block collection opens at a column. -/
def opensAt (s : Layout) (column : Nat) : Bool := !s.inFlow && s.indent < column

def indentTo (s : Layout) (column : Nat) : Layout :=
  if s.opensAt column then
    { s with indent := column, outerIndents := s.indent :: s.outerIndents }
  else s

/-- Opens a block collection at the place, where one opens there. -/
def openHere (s : Layout) (mark : Token) : Layout :=
  let column := s.place.column
  if s.opensAt column then (s.indentTo column).emit mark else s

/-! ### Tokens -/

/-- Passes over blanks, comments and line breaks. A tab is passed over only
where no key may start, or inside a flow collection. -/
def skipGap (inFlow : Bool) (allowsKey : Bool) : Nat → Place → Bool × Place
  | 0, p => (allowsKey, p)
  | fuel + 1, p =>
    let p := if p.column == 0 && p.isAt '\ufeff' then p.next else p
    let p := p.skipWhile fun c => c == ' ' || ((inFlow || !allowsKey) && c == '\t')
    let p := p.skipComment
    if p.isAtA isBreak then skipGap inFlow (allowsKey || !inFlow) fuel p.skipBreak
    else (allowsKey, p)

/-- The end of the text. -/
def endStream (s : Layout) : Option Layout := do
  let s ← (s.dedent (-1)).dropCandidate
  return { s.emit .streamEnd with allowsKey := false }

/-- A token that stands outside of all collections. -/
def topLevel (s : Layout) (t : Token) (after : Place) : Option Layout := do
  let s ← (s.dedent (-1)).dropCandidate
  return { s.emitAt t after with allowsKey := false }

def flowStart (s : Layout) (t : Token) : Option Layout := do
  let s ← s.offerKey
  return { s.emitAt t s.place.next with
    allowsKey := true
    candidate := none
    outerCandidates := s.candidate :: s.outerCandidates }

def flowEnd (s : Layout) (t : Token) : Option Layout := do
  let s ← s.dropCandidate
  let s := { s.emitAt t s.place.next with allowsKey := false }
  match s.outerCandidates with
  | [] => return s
  | c :: rest => return { s with candidate := c, outerCandidates := rest }

def flowEntry (s : Layout) : Option Layout := do
  let s ← s.dropCandidate
  return { s.emitAt .flowEntry s.place.next with allowsKey := true }

def blockEntry (s : Layout) : Option Layout := do
  if !s.inFlow && !s.allowsKey then none
  let s ← (s.openHere .blockSequenceStart).dropCandidate
  return { s.emitAt .blockEntry s.place.next with allowsKey := true }

/-- The mark of a key that is written out. -/
def explicitKey (s : Layout) : Option Layout := do
  if !s.inFlow && !s.allowsKey then none
  let s ← (s.openHere .blockMappingStart).dropCandidate
  return { s.emitAt .key s.place.next with allowsKey := !s.inFlow }

/-- A colon: after a candidate, which becomes a key, or after a key that is
written out or missing. -/
def valueMark (s : Layout) : Option Layout :=
  match s.candidate with
  | some c =>
    let start : KeyStart := ⟨c.token, s.opensAt c.column⟩
    let s := { s.indentTo c.column with keys := start :: s.keys, candidate := none }
    some { s.emitAt .value s.place.next with allowsKey := false }
  | none =>
    if !s.inFlow && !s.allowsKey then none
    else
      let s := s.openHere .blockMappingStart
      some { s.emitAt .value s.place.next with allowsKey := !s.inFlow }

/-- A word after a mark of one character. -/
def word (s : Layout) (read : Place → Option (Token × Place)) : Option Layout := do
  let s ← s.offerKey
  let (t, p) ← read s.place.next
  return { s.emitAt t p with allowsKey := false }

def named (make : String → Token) (p : Place) : Option (Token × Place) :=
  (readName p).map fun (name, p) => (make name, p)

def tagged (inFlow : Bool) (p : Place) : Option (Token × Place) :=
  (readTag inFlow p).map fun (handle, suffix, p) => (.tag handle suffix, p)

def quotedScalar (quote : Char) (p : Place) : Option (Token × Place) :=
  (Quoted.read quote [] p.fuel p).map fun (text, p) => (.scalar .quoted text, p)

def blockScalar (s : Layout) (folded : Bool) : Option Layout := do
  let s ← s.dropCandidate
  let (text, p) ← Block.read folded s.indent s.place.next
  return { s.emitAt (.scalar (if folded then .folded else .literal) text) p with allowsKey := true }

def plainScalar (s : Layout) : Option Layout := do
  let s ← s.offerKey
  let scan ← Plain.read s.inFlow (s.indent + 1).toNat [] .empty s.place.fuel s.place
  return { s.emitAt (.scalar .plain scan.text) scan.after with allowsKey := scan.onNewLine }

/-- The characters that no plain scalar starts with, unless a word follows. -/
def isIndicator (c : Char) : Bool := "-?:,[]&*!|>\"%@#".contains c ||
  c ∈ ['\x7b', '\x7d', '\x60', Quoted.apostrophe]

/-- Whether a plain scalar starts at the place. -/
def startsPlain (s : Layout) (c : Char) : Bool :=
  !(isSpacing c || isIndicator c) ||
    (c == '-' && !s.place.next.isAtA isBlank) ||
    (!s.inFlow && (c == '?' || c == ':') && !s.place.endsAfter 1)

/-- Finds the token that starts with a character at the place. -/
def token (s : Layout) (c : Char) : Option Layout :=
  let p := s.place
  let isMark := s.inFlow || p.endsAfter 1
  if p.column == 0 && c == '%' then do
    let (t, after) ← readDirective p.next
    s.topLevel t after
  else if p.startsMark ['-', '-', '-'] then s.topLevel .documentStart (p.advance 3)
  else if p.startsMark ['.', '.', '.'] then s.topLevel .documentEnd (p.advance 3)
  else if c == '[' then s.flowStart .flowSequenceStart
  else if c == '\x7b' then s.flowStart .flowMappingStart
  else if c == ']' then s.flowEnd .flowSequenceEnd
  else if c == '\x7d' then s.flowEnd .flowMappingEnd
  else if c == ',' then s.flowEntry
  else if c == '-' && p.endsAfter 1 then s.blockEntry
  else if c == '?' && isMark then s.explicitKey
  else if c == ':' && isMark then s.valueMark
  else if c == '*' then s.word (named .alias)
  else if c == '&' then s.word (named .anchor)
  else if c == '!' then s.word (tagged s.inFlow)
  else if c == '|' && !s.inFlow then s.blockScalar false
  else if c == '>' && !s.inFlow then s.blockScalar true
  else if c == Quoted.apostrophe || c == '"' then s.word (quotedScalar c)
  else if s.startsPlain c then s.plainScalar
  else none

/-- Finds the next token. -/
def advance (s : Layout) : Option Layout := do
  let (allowsKey, place) := skipGap s.inFlow s.allowsKey s.place.fuel s.place
  let s ← { s with allowsKey, place }.dropStale
  match place.head? with
  | none => s.endStream
  | some c => (s.dedent place.column).token c

/-- The tokens of the rest of the text. -/
def run : Nat → Layout → List Token
  | 0, s => s.deliver s.settled
  | fuel + 1, s =>
    match s.dropStale with
    | none => s.deliver s.settled
    | some s =>
      match s.advance with
      | none => s.deliver s.settled
      | some found =>
        if found.tokens.head? == some .streamEnd then found.deliver found.count
        else run fuel found

end Layout

/-- The tokens of a text as far as it is well formed; those of a text that is
well formed to its end close with `Token.streamEnd`. -/
def tokens (text : String) : List Token :=
  let cs := text.toList
  if cs.all isPrintable then Layout.run (cs.length + 2) (.start cs) else []

end ReviewPanel.Yaml
