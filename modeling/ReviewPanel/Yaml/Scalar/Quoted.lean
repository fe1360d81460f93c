import ReviewPanel.Numeric.Digits
import ReviewPanel.Yaml.Scalar.Gap

/-!
# Quoted scalars

Between single quotes only the quote itself is special, and written twice.
Between double quotes a backslash begins an escape, which may be an escaped
line break. Lines are folded, and a line must not look like the start or the
end of a document.
-/

namespace ReviewPanel.Yaml.Quoted

def apostrophe : Char := '\x27'

/-- The character that a letter after a backslash stands for. -/
def escaped? (c : Char) : Option Char :=
  match c with
  | '0' => some (Char.ofNat 0)
  | 'a' => some (Char.ofNat 7)
  | 'b' => some (Char.ofNat 8)
  | 't' | '\t' => some '\t'
  | 'n' => some '\n'
  | 'v' => some (Char.ofNat 11)
  | 'f' => some (Char.ofNat 12)
  | 'r' => some '\r'
  | 'e' => some (Char.ofNat 27)
  | ' ' => some ' '
  | '"' => some '"'
  | '/' => some '/'
  | '\\' => some '\\'
  | 'N' => some '\u0085'
  | '_' => some '\u00a0'
  | 'L' => some '\u2028'
  | 'P' => some '\u2029'
  | _ => none

/-- The number of hexadecimal digits after a letter that announces them. -/
def digitCount? (c : Char) : Option Nat :=
  match c with
  | 'x' => some 2
  | 'u' => some 4
  | 'U' => some 8
  | _ => none

/-- The character of an escape, after its backslash, and the number of
characters that write it. -/
def readEscape? (cs : List Char) : Option (Char × Nat) :=
  match cs with
  | [] => none
  | c :: rest =>
    match digitCount? c with
    | none => (escaped? c).map (·, 1)
    | some count => (Numeric.readCode? count rest).map fun e => (e.1, count + 1)

/-- The rest of a quoted scalar after its opening quote. `chars` holds what was
read so far, last first. -/
def read (quote : Char) (chars : List Char) : Nat → Place → Option (String × Place)
  | 0, _ => none
  | fuel + 1, p =>
    if p.atDocumentMark then none
    else
      match p.rest with
      | [] => none
      | c :: rest =>
        if isSpacing c then do
          let (gap, p) ← Gap.empty.read 0 p.fuel p
          read quote (gap.text.reverse ++ chars) fuel p
        else if c == quote then
          if quote == apostrophe && rest.head? == some apostrophe then
            read quote (apostrophe :: chars) fuel (p.advance 2)
          else some (String.ofList chars.reverse, p.next)
        else if quote != apostrophe && c == '\\' then
          if p.next.isAtA isBreak then do
            let p := p.next.skipBreak
            let (gap, p) ← Gap.afterHiddenBreak.read 0 p.fuel p
            read quote (gap.text.reverse ++ chars) fuel p
          else do
            let (c, count) ← readEscape? rest
            read quote (c :: chars) fuel (p.advance (count + 1))
        else read quote (c :: chars) fuel p.next

end ReviewPanel.Yaml.Quoted
