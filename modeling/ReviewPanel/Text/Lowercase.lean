import ReviewPanel.Text.CaseTable

/-!
# Lowercase

The lowercase of a text, character by character, with two rules that go
beyond one character for one: the dotted capital I becomes two characters,
and a capital sigma at the end of a word takes its final form.
-/

namespace ReviewPanel.Text

/-- The lowercase of a character, wherever it stands. -/
def lowerChar (c : Char) : List Char :=
  if c.toNat < 128 then [c.toLower]
  else if c.toNat = 304 then ['i', Char.ofNat 775]
  else
    match caseRuns.find? (·.holds c.toNat) with
    | some r => [Char.ofNat (Int.ofNat c.toNat + r.offset).toNat]
    | none => [c]

/-- Whether the first character that casing does not look past is cased. -/
def meetsCased (cs : List Char) : Bool :=
  match cs.dropWhile isCaseIgnorable with
  | [] => false
  | c :: _ => isCased c

/-- The lowercase of a capital sigma, given the characters before it, nearest
first, and the characters after it. -/
def lowerSigma (before after : List Char) : Char :=
  if meetsCased before && !meetsCased after then 'ς' else 'σ'

/-- Lowercases the characters that follow those of `before`, nearest first. -/
def lowerFrom (before : List Char) : List Char → List Char
  | [] => []
  | c :: rest =>
    (if c = 'Σ' then [lowerSigma before rest] else lowerChar c) ++ lowerFrom (c :: before) rest

/-- The text in lowercase. -/
def lowercase (s : String) : String := String.ofList (lowerFrom [] s.toList)

/-- The lowercase of the ASCII letters, every other character as it is. -/
def lowerAscii (s : String) : String := String.ofList (s.toList.map Char.toLower)

end ReviewPanel.Text
