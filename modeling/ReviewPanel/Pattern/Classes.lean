import ReviewPanel.Pattern.Basic

/-!
# Building patterns

Classes of characters and the usual ways to combine patterns. A pattern that
ignores case also takes the two characters beyond ASCII whose case folding is
an ASCII letter: the long s and the sign of the kelvin.
-/

namespace ReviewPanel.Pattern

/-- Any character but the line feed. -/
def notLineFeed (c : Char) : Bool := c != '\n'

def isUpperAscii (c : Char) : Bool := 'A' ≤ c && c ≤ 'Z'

def isNameStart (c : Char) : Bool := c.isAlpha || c == '_'

def notBlank (c : Char) : Bool := !Text.isBlank c

/-- The small ASCII letter that a character equals when case is ignored. -/
def foldCase (c : Char) : Char :=
  if c = 'ſ' then 's'
  else if c.toNat = 0x212A then 'k'
  else c.toLower

/-- The pieces of several patterns one after the other. -/
def sequence (ps : List Pattern) : Pattern := ps.foldr seq nothing

/-- A piece of one of several patterns. -/
def oneOf : List Pattern → Pattern
  | [] => one fun _ => false
  | [p] => p
  | p :: ps => either p (oneOf ps)

/-- A piece of a pattern, or nothing. -/
def maybe (p : Pattern) : Pattern := either p nothing

/-- Exactly this text. -/
def literal (s : String) : Pattern := sequence (s.toList.map fun c => one (· == c))

/-- This text, whatever the case of its letters. -/
def folded (s : String) : Pattern := sequence (s.toList.map fun c => one (foldCase · == foldCase c))

/-- One of these characters. -/
def among (s : String) : Pattern := one s.toList.contains

def many (test : Char → Bool) : Pattern := run test 0 none

def atLeastOne (test : Char → Bool) : Pattern := run test 1 none

/-- Blank characters, or none. -/
def blanks : Pattern := many Text.isBlank

/-- At least one blank character. -/
def gap : Pattern := atLeastOne Text.isBlank

/-- The rest of a line, or less of it. -/
def anything : Pattern := many notLineFeed

/-- At least one word character. -/
def word : Pattern := atLeastOne Text.isWord

end ReviewPanel.Pattern
