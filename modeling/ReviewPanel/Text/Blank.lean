import ReviewPanel.Text.Ranges

/-!
# Blank characters

The characters with the White_Space property, and the operations that drop
them from the ends of a text.
-/

namespace ReviewPanel.Text

/-- The ranges of White_Space. -/
def blankRanges : List (Nat × Nat) :=
  [(9, 13), (32, 32), (133, 133), (160, 160), (5760, 5760), (8192, 8202), (8232, 8233), (8239, 8239),
   (8287, 8287), (12288, 12288)]

def isBlank (c : Char) : Bool := inRanges blankRanges c

def trimLeft (cs : List Char) : List Char := cs.dropWhile isBlank

def trimRight (cs : List Char) : List Char := (trimLeft cs.reverse).reverse

def trimChars (cs : List Char) : List Char := trimRight (trimLeft cs)

/-- The text without blank characters at its ends. -/
def trim (s : String) : String := String.ofList (trimChars s.toList)

/-- Whether a text has no character that is not blank. -/
def isBlankText (s : String) : Bool := s.toList.all isBlank

end ReviewPanel.Text
