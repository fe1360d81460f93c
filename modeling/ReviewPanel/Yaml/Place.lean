/-!
# Places in a text

A place in a YAML text knows its line and its column, since indentation decides
where block collections begin and end. Five line breaks are known; a line feed
after a carriage return belongs to it, and what is read of a break is a line
feed, except for the line and paragraph separators, which stay as they are.
-/

namespace ReviewPanel.Yaml

def isBlank (c : Char) : Bool := c == ' ' || c == '\t'

def isBreak (c : Char) : Bool :=
  c == '\n' || c == '\r' || c == '\u0085' || c == '\u2028' || c == '\u2029'

def isSpacing (c : Char) : Bool := isBlank c || isBreak c

/-- The characters of names: ASCII letters, digits, the low line and the hyphen. -/
def isNameChar (c : Char) : Bool := c.isAlphanum || c == '_' || c == '-'

/-- The characters that a text may hold. -/
def isPrintable (c : Char) : Bool :=
  let n := c.toNat
  c == '\t' || c == '\n' || c == '\r' || (0x20 ≤ n && n ≤ 0x7E) || n == 0x85 ||
    (0xA0 ≤ n && n != 0xFFFE && n != 0xFFFF)

/-- A place in a text. -/
structure Place where
  /-- The characters after the place. -/
  rest : List Char
  /-- The number of characters before the place. -/
  index : Nat
  line : Nat
  column : Nat
  /-- The number of characters of the whole text. -/
  total : Nat
  deriving Repr

namespace Place

def start (text : List Char) : Place := ⟨text, 0, 0, 0, text.length⟩

/-- Passes over characters of one line. -/
def advance (p : Place) (count : Nat) : Place :=
  { p with rest := p.rest.drop count, index := p.index + count, column := p.column + count }

def next (p : Place) : Place := p.advance 1

def head? (p : Place) : Option Char := p.rest.head?

/-- Whether the place is before a given character. -/
def isAt (p : Place) (c : Char) : Bool := p.head? == some c

/-- Whether a character of a kind comes next. -/
def isAtA (p : Place) (test : Char → Bool) : Bool := p.head?.any test

/-- The characters of a kind that come next, all on one line. -/
def takeWhile (p : Place) (test : Char → Bool) : List Char := p.rest.takeWhile test

def skipWhile (p : Place) (test : Char → Bool) : Place := p.advance (p.takeWhile test).length

/-- Whether the text after some characters is spacing or at its end. -/
def endsAfter (p : Place) (count : Nat) : Bool :=
  match p.rest.drop count with
  | [] => true
  | c :: _ => isSpacing c

/-- The start of the next line, which comes after so many characters. -/
def nextLine (p : Place) (count : Nat) : Place :=
  { p.advance count with line := p.line + 1, column := 0 }

/-- Passes over a line break, and says what is read of it. -/
def readBreak (p : Place) : List Char × Place :=
  match p.rest with
  | '\r' :: '\n' :: _ => (['\n'], p.nextLine 2)
  | c :: _ =>
    if isBreak c then
      ([if c == '\u2028' || c == '\u2029' then c else '\n'], p.nextLine 1)
    else ([], p)
  | [] => ([], p)

def skipBreak (p : Place) : Place := p.readBreak.2

/-- Passes over blanks and a comment, up to the end of the line. -/
def skipComment (p : Place) : Place :=
  if p.isAt '#' then p.skipWhile (!isBreak ·) else p

/-- Passes over the rest of a line that holds nothing but a comment. -/
def skipLine? (p : Place) : Option Place :=
  let p := (p.skipWhile isBlank).skipComment
  match p.head? with
  | none => some p
  | some c => if isBreak c then some p.skipBreak else none

/-- Whether a line starts here with a mark of three characters. -/
def startsMark (p : Place) (mark : List Char) : Bool :=
  p.column == 0 && mark.isPrefixOf p.rest && p.endsAfter 3

/-- Whether a document starts or ends here. -/
def atDocumentMark (p : Place) : Bool :=
  p.startsMark ['-', '-', '-'] || p.startsMark ['.', '.', '.']

/-- More than the number of steps that any walk to the end of the text takes. -/
def fuel (p : Place) : Nat := p.total - p.index + 1

end Place

end ReviewPanel.Yaml
