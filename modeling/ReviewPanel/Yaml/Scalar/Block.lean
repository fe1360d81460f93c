import ReviewPanel.Numeric.Digits
import ReviewPanel.Yaml.Place

/-!
# Block scalars

A block scalar is a run of indented lines after a header. The header may give
the indentation and what becomes of the line breaks at the end: all but one
are dropped, or all, or none. In a folded scalar a single line break between
two lines that do not start with a blank becomes a space.
-/

namespace ReviewPanel.Yaml.Block

/-- What becomes of the line breaks at the end. -/
inductive Chomping
  | strip
  | clip
  | keep
  deriving Repr, DecidableEq

def chomping? (p : Place) : Option Chomping :=
  match p.head? with
  | some '+' => some .keep
  | some '-' => some .strip
  | _ => none

/-- The indentation in a header: a digit other than zero. None where it is zero. -/
def readIncrement (p : Place) : Option (Nat × Place) :=
  match p.head? with
  | some c =>
    if c == '0' then none
    else if c.isDigit then some (Numeric.decimalValue c, p.next)
    else some (0, p)
  | none => some (0, p)

/-- The header after its first mark: the indentation, zero where it is left
open, and the chomping, in either order. -/
def readHeader (p : Place) : Option (Nat × Chomping × Place) :=
  match chomping? p with
  | some chomping => do
    let (increment, p) ← readIncrement p.next
    return (increment, chomping, p)
  | none => do
    let (increment, p) ← readIncrement p
    match if increment = 0 then none else chomping? p with
    | some chomping => return (increment, chomping, p.next)
    | none => return (increment, .clip, p)

/-- Empty lines: their breaks, the widest indentation seen, and the place after
them. An `indent` of zero is not yet known. None where a tab stands for
indentation. -/
def readEmptyLines (indent : Nat) (breaks : List Char) (widest : Nat) :
    Nat → Place → Option (List Char × Nat × Place)
  | 0, p => some (breaks, widest, p)
  | fuel + 1, p =>
    let room := if indent = 0 then p.rest.length else indent - p.column
    let p := p.advance ((p.rest.take room).takeWhile (· == ' ')).length
    let widest := max widest p.column
    if (indent = 0 || p.column < indent) && p.isAt '\t' then none
    else if p.isAtA isBreak then
      let (b, p) := p.readBreak
      readEmptyLines indent (breaks ++ b) widest fuel p
    else some (breaks, widest, p)

/-- The break between two lines, as it is read before the second of them. -/
def joint (folded : Bool) (leading : List Char) (trailing : List Char)
    (afterBlank beforeBlank : Bool) : List Char :=
  if folded && leading == ['\n'] && !afterBlank && !beforeBlank then
    if trailing.isEmpty then [' '] else trailing
  else leading ++ trailing

/-- The lines of a scalar with a known indentation. `chars` holds what was read
so far, last first, `leading` and `trailing` the breaks after it. -/
def readLines (folded : Bool) (indent : Nat) (chars leading trailing : List Char)
    (afterBlank : Bool) : Nat → Place → Option (List Char × List Char × List Char × Place)
  | 0, p => some (chars, leading, trailing, p)
  | fuel + 1, p =>
    if p.column != indent || p.rest.isEmpty then some (chars, leading, trailing, p)
    else do
      let blank := p.isAtA isBlank
      let line := p.takeWhile (!isBreak ·)
      let chars := line.reverse ++ (joint folded leading trailing afterBlank blank).reverse ++ chars
      let (leading, p) := (p.advance line.length).readBreak
      let (trailing, _, p) ← readEmptyLines indent [] 0 p.fuel p
      readLines folded indent chars leading trailing blank fuel p

/-- The rest of a block scalar after its first mark, inside a collection with
an indentation, which is -1 outside of all. -/
def read (folded : Bool) (outer : Int) (p : Place) : Option (String × Place) := do
  let (increment, chomping, p) ← readHeader p
  let p ← p.skipLine?
  let given := if increment = 0 then 0 else (max outer 0).toNat + increment
  let (breaks, widest, p) ← readEmptyLines given [] 0 p.fuel p
  let indent := if given = 0 then max (max widest (outer + 1).toNat) 1 else given
  let (chars, leading, trailing, p) ← readLines folded indent [] [] breaks false p.fuel p
  let tail :=
    match chomping with
    | .strip => []
    | .clip => leading
    | .keep => leading ++ trailing
  return (String.ofList (chars.reverse ++ tail), p)

end ReviewPanel.Yaml.Block
