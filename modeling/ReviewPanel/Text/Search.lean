/-!
# Searching texts

Occurrences of one text in another, and the texts between separators.
-/

namespace ReviewPanel.Text

/-- Whether the second list of characters starts with the first. -/
def startsWith (needle text : List Char) : Bool := needle.isPrefixOf text

def endsWith (needle text : List Char) : Bool := needle.isSuffixOf text

/-- Whether `needle` occurs in the text, at any place. -/
def occursIn (needle : List Char) : List Char → Bool
  | [] => needle.isEmpty
  | c :: rest => startsWith needle (c :: rest) || occursIn needle rest

/-- Whether a text holds another. -/
def contains (text needle : String) : Bool := occursIn needle.toList text.toList

/-- The texts between the occurrences of a character. -/
def splitAt (separator : Char) : List Char → List (List Char)
  | [] => [[]]
  | c :: rest =>
    match splitAt separator rest with
    | [] => [[c]]
    | part :: parts => if c = separator then [] :: part :: parts else (c :: part) :: parts

end ReviewPanel.Text
