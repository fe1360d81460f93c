import ReviewPanel.Text.Printable

/-!
# Quoted texts

A text between double quotes, in which every character that could be
mistaken has an escape: the quote, the backslash, the usual control
characters by a letter, and every other character without a visible form of
its own by its code point.
-/

namespace ReviewPanel.Text

/-- The lowercase hexadecimal digits of a natural. -/
def hexDigits (n : Nat) : String := String.ofList (Nat.toDigits 16 n)

/-- How a character is written between double quotes. -/
def quoteChar (c : Char) : String :=
  if c = '"' then "\\\""
  else if c = '\\' then "\\\\"
  else if c = '\n' then "\\n"
  else if c = '\r' then "\\r"
  else if c = '\t' then "\\t"
  else if c.toNat = 0 then "\\0"
  else if extendsGrapheme c || !isPrintable c then "\\u\x7b" ++ hexDigits c.toNat ++ "\x7d"
  else c.toString

/-- The text between double quotes. -/
def quoted (s : String) : String :=
  "\"" ++ String.join (s.toList.map quoteChar) ++ "\""

/-- Quoted texts as a list in brackets. -/
def quotedList (items : List String) : String :=
  "[" ++ String.intercalate ", " (items.map quoted) ++ "]"

end ReviewPanel.Text
