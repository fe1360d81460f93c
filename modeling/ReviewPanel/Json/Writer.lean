import ReviewPanel.Json.Value

/-!
# Writing data values

The text of a data value, without any space. A floating-point number is
written by its shortest decimal and keeps a fraction or an exponent, so that
it does not read as an integer; one that is not finite is written as null.
-/

namespace ReviewPanel

open Numeric

namespace Json

/-- How a character is written inside a text. -/
def escapeChar (c : Char) : String :=
  if c = '"' then "\\\""
  else if c = '\\' then "\\\\"
  else if c = '\n' then "\\n"
  else if c = '\r' then "\\r"
  else if c = '\t' then "\\t"
  else if c.toNat = 8 then "\\b"
  else if c.toNat = 12 then "\\f"
  else if c.toNat < 32 then
    (if c.toNat < 16 then "\\u000" else "\\u00") ++ String.ofList (Nat.toDigits 16 c.toNat)
  else c.toString

def writeText (s : String) : String :=
  "\"" ++ String.join (s.toList.map escapeChar) ++ "\""

end Json

/-- The text of a number. -/
def Number.write : Number → String
  | .integer n => toString n
  | .double x => (x.dataText? .double .double).getD "null"
  | .single x => (x.dataText? .single .single).getD "null"

namespace Json

mutual

/-- The text of a data value. -/
def write : Json → String
  | .null => "null"
  | .bool true => "true"
  | .bool false => "false"
  | .number n => n.write
  | .text s => writeText s
  | .list items => "[" ++ String.intercalate "," (writeItems items) ++ "]"
  | .record members => "\x7b" ++ String.intercalate "," (writeMembers members) ++ "\x7d"

def writeItems : List Json → List String
  | [] => []
  | x :: rest => write x :: writeItems rest

def writeMembers : List (String × Json) → List String
  | [] => []
  | (name, x) :: rest => (writeText name ++ ":" ++ write x) :: writeMembers rest

end

end Json

end ReviewPanel
