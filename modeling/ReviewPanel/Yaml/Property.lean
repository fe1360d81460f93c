import ReviewPanel.Yaml.Place
import ReviewPanel.Yaml.Scalar.Quoted
import ReviewPanel.Yaml.Token

/-!
# Names, tags and directives

The words of a YAML text that are not content: names of anchors, tags, and the
directives in front of a document. Each reader takes the place where the word
starts, after its mark, and gives nothing where the word is malformed.
-/

namespace ReviewPanel.Yaml

/-- The characters that may follow the name of an anchor besides spacing. -/
def endsName (c : Char) : Bool := c ∈ ['?', ':', ',', ']', '\x7d', '%', '@', '\x60']

/-- The name of an anchor. -/
def readName (p : Place) : Option (String × Place) :=
  let name := p.takeWhile isNameChar
  let p := p.advance name.length
  if !name.isEmpty && (p.endsAfter 0 || p.isAtA endsName) then some (String.ofList name, p)
  else none

/-- The characters of a tag; some only between angle brackets. -/
def isTagChar (bracketed : Bool) (c : Char) : Bool :=
  isNameChar c || "%;/?:@&=+$.!~*()".contains c || c == Quoted.apostrophe ||
    (bracketed && (c == ',' || c == '[' || c == ']'))

/-- An octet written as a percent sign and two hexadecimal digits. -/
def readOctet? : List Char → Option (Nat × List Char)
  | '%' :: rest => Numeric.readHex? 2 rest
  | _ => none

/-- The number of octets of a character, by the first of them. -/
def octetCount? (first : Nat) : Option Nat :=
  if first < 0x80 then some 1
  else if 0xC0 ≤ first ∧ first < 0xE0 then some 2
  else if 0xE0 ≤ first ∧ first < 0xF0 then some 3
  else if 0xF0 ≤ first ∧ first < 0xF8 then some 4
  else none

/-- Further octets of a character. -/
def readOctets? : Nat → List Char → Option (List Nat × List Char)
  | 0, cs => some ([], cs)
  | count + 1, cs => do
    let (octet, cs) ← readOctet? cs
    if octet < 0x80 ∨ 0xC0 ≤ octet then none
    let (octets, cs) ← readOctets? count cs
    return (octet :: octets, cs)

/-- The characters that octets spell, the replacement character where they
spell none. -/
def spell (octets : List Nat) : List Char :=
  match String.fromUTF8? ⟨(octets.map UInt8.ofNat).toArray⟩ with
  | some text => text.toList
  | none => ['\ufffd']

/-- A character of a tag that is written in octets, and how much text writes it. -/
def readEscapedTagChar? (cs : List Char) : Option (List Char × Nat) := do
  let (first, rest) ← readOctet? cs
  let count ← octetCount? first
  let (octets, _) ← readOctets? (count - 1) rest
  return (spell (first :: octets), 3 * count)

/-- The part of a tag at a place; it may be empty. -/
def readTagText (bracketed : Bool) (chars : List Char) : Nat → Place → Option (String × Place)
  | 0, _ => none
  | fuel + 1, p =>
    match p.head? with
    | some '%' => do
      let (escaped, length) ← readEscapedTagChar? p.rest
      readTagText bracketed (escaped.reverse ++ chars) fuel (p.advance length)
    | some c =>
      if isTagChar bracketed c then readTagText bracketed (c :: chars) fuel p.next
      else some (String.ofList chars.reverse, p)
    | none => some (String.ofList chars.reverse, p)

/-- The part of a tag at a place, which must not be empty. -/
def readSomeTagText (bracketed : Bool) (p : Place) : Option (String × Place) :=
  (readTagText bracketed [] p.fuel p).filter fun (_, after) => after.index != p.index

/-- The name between the exclamation marks of a handle. -/
def handleName (p : Place) : List Char := p.takeWhile isNameChar

/-- A tag after its exclamation mark, as a handle and a suffix: in angle
brackets, after a handle, or local. A mark on its own is a tag of its own. -/
def readTag (inFlow : Bool) (p : Place) : Option (String × String × Place) := do
  let (handle, suffix, after) ←
    if p.isAt '<' then do
      let (text, after) ← readSomeTagText true p.next
      if after.isAt '>' then some ("", text, after.next) else none
    else
      let name := handleName p
      let afterName := p.advance name.length
      if afterName.isAt '!' then do
        let (suffix, after) ← readSomeTagText false afterName.next
        some ("!" ++ String.ofList name ++ "!", suffix, after)
      else do
        let (suffix, after) ← readTagText false [] p.fuel p
        some (if suffix == "" then ("", "!", after) else ("!", suffix, after))
  if after.endsAfter 0 || (inFlow && after.isAt ',') then some (handle, suffix, after) else none

/-- The greatest number of digits in a version. -/
def versionDigits : Nat := 9

def readVersionNumber (p : Place) : Option (Nat × Place) :=
  let digits := p.takeWhile Char.isDigit
  if digits.isEmpty || versionDigits < digits.length then none
  else (String.ofList digits).toNat?.map (·, p.advance digits.length)

def readVersion (p : Place) : Option (Token × Place) := do
  let (major, p) ← readVersionNumber (p.skipWhile isBlank)
  if !p.isAt '.' then none
  let (minor, p) ← readVersionNumber p.next
  return (.version major minor, p)

/-- What a handle stands for. -/
def readTagHandle (p : Place) : Option (Token × Place) := do
  let p := p.skipWhile isBlank
  if !p.isAt '!' then none
  let name := handleName p.next
  let p := p.next.advance name.length
  let (handle, p) ←
    if p.isAt '!' then some ("!" ++ String.ofList name ++ "!", p.next)
    else if name.isEmpty then some ("!", p)
    else none
  if !p.isAtA isBlank then none
  let (stem, p) ← readSomeTagText true (p.skipWhile isBlank)
  if p.endsAfter 0 then some (.tagHandle handle stem, p) else none

/-- A directive after its percent sign, with the rest of its line. -/
def readDirective (p : Place) : Option (Token × Place) := do
  let name := p.takeWhile isNameChar
  let p := p.advance name.length
  if !p.endsAfter 0 then none
  let (token, p) ←
    match String.ofList name with
    | "YAML" => readVersion p
    | "TAG" => readTagHandle p
    | _ => none
  return (token, ← p.skipLine?)

end ReviewPanel.Yaml
