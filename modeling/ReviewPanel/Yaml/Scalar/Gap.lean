import ReviewPanel.Yaml.Place

/-!
# Gaps between words

Blanks and line breaks between two words of a scalar are folded: blanks on one
line stay, one line break becomes a space, and of several line breaks the
first is dropped. A line separator is never dropped.
-/

namespace ReviewPanel.Yaml

/-- What lies between two words. -/
structure Gap where
  /-- The blanks before the first line break, last first. -/
  blanks : List Char
  /-- Whether a line has ended. -/
  broken : Bool
  /-- The first line break, nothing when it is not part of the text. -/
  first : List Char
  /-- The other line breaks, last first. -/
  more : List Char
  deriving Repr

namespace Gap

def empty : Gap := ⟨[], false, [], []⟩

/-- The gap after a line break that is not part of the text. -/
def afterHiddenBreak : Gap := ⟨[], true, [], []⟩

def addBlank (g : Gap) (c : Char) : Gap :=
  if g.broken then g else { g with blanks := c :: g.blanks }

def addBreak (g : Gap) (b : List Char) : Gap :=
  if g.broken then { g with more := b ++ g.more } else { g with broken := true, first := b }

/-- What is read of a gap. -/
def text (g : Gap) : List Char :=
  if !g.broken then g.blanks.reverse
  else if g.first != ['\n'] then g.first ++ g.more.reverse
  else if g.more.isEmpty then [' ']
  else g.more.reverse

/-- Reads the rest of a gap. On a new line there must be no tab before the
column `floor`. -/
def read (floor : Nat) (g : Gap) : Nat → Place → Option (Gap × Place)
  | 0, p => some (g, p)
  | fuel + 1, p =>
    match p.head? with
    | none => some (g, p)
    | some c =>
      if isBlank c then
        if g.broken && c == '\t' && p.column < floor then none
        else read floor (g.addBlank c) fuel p.next
      else if isBreak c then
        let (b, p) := p.readBreak
        read floor (g.addBreak b) fuel p
      else some (g, p)

end Gap

end ReviewPanel.Yaml
