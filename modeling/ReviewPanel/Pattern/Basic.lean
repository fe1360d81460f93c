import ReviewPanel.Text.Blank
import ReviewPanel.Text.Word

/-!
# Patterns

A pattern describes pieces of a text. `Pattern.ends` lists the places at which
a piece that starts at a given place may end, the preferred one first: a
repetition prefers more to fewer, an alternative its first branch. Every
repetition is of single characters, so the list is finite by recursion on the
pattern and the text alone.
-/

namespace ReviewPanel

/-- A place in a text. -/
structure Cursor where
  /-- The number of characters before the place. -/
  offset : Nat
  /-- The character before the place. -/
  before : Option Char
  /-- The characters after the place. -/
  rest : List Char
  deriving Repr

namespace Cursor

def start (text : List Char) : Cursor := ⟨0, none, text⟩

def beforeWord (c : Cursor) : Bool :=
  match c.before with
  | some x => Text.isWord x
  | none => false

def afterWord (c : Cursor) : Bool :=
  match c.rest with
  | x :: _ => Text.isWord x
  | [] => false

/-- Whether a word starts or ends at the place. -/
def atWordEdge (c : Cursor) : Bool := c.beforeWord != c.afterWord

def atLineStart (c : Cursor) : Bool := c.before.isNone || c.before == some '\n'

/-- The cursors that have already been seen, by their offsets as bits, are dropped. -/
def distinct (seen : Nat) : List Cursor → List Cursor
  | [] => []
  | c :: rest =>
    if seen.testBit c.offset then distinct seen rest
    else c :: distinct (seen ||| 1 <<< c.offset) rest

end Cursor

/-- A description of pieces of a text. -/
inductive Pattern
  /-- Nothing at all. -/
  | nothing
  /-- One character of a class. -/
  | one (test : Char → Bool)
  /-- Characters of a class, as many as possible, at least `least` of them and
  at most `most` where that is given. -/
  | run (test : Char → Bool) (least : Nat) (most : Option Nat)
  | seq (first second : Pattern)
  | either (first second : Pattern)
  /-- The start or the end of a word. -/
  | wordEdge
  /-- The start of the text. -/
  | textStart
  /-- The start of a line. -/
  | lineStart

namespace Pattern

/-- The places after a repetition, the farthest first. `least` more characters
are needed and `room` more are allowed. -/
def runEnds (test : Char → Bool) (offset : Nat) (before : Option Char) (least : Nat)
    (room : Option Nat) : List Char → List Cursor
  | [] => if least = 0 then [⟨offset, before, []⟩] else []
  | c :: rest =>
    let stop := if least = 0 then [⟨offset, before, c :: rest⟩] else []
    if test c && room != some 0 then
      runEnds test (offset + 1) (some c) (least - 1) (room.map (· - 1)) rest ++ stop
    else stop

/-- The places at which a piece from `c` on may end, the preferred one first. -/
def ends : Pattern → Cursor → List Cursor
  | nothing, c => [c]
  | one test, c =>
    match c.rest with
    | x :: rest => if test x then [⟨c.offset + 1, some x, rest⟩] else []
    | [] => []
  | run test least most, c => runEnds test c.offset c.before least most c.rest
  | seq p q, c => Cursor.distinct 0 ((p.ends c).flatMap q.ends)
  | either p q, c => p.ends c ++ q.ends c
  | wordEdge, c => if c.atWordEdge then [c] else []
  | textStart, c => if c.before.isNone then [c] else []
  | lineStart, c => if c.atLineStart then [c] else []

/-- Whether a piece of the pattern starts at a place. -/
def startsAt (p : Pattern) (c : Cursor) : Bool := !(p.ends c).isEmpty

/-- Whether a piece of the pattern starts anywhere from a place on. -/
def occursFrom (p : Pattern) (offset : Nat) (before : Option Char) : List Char → Bool
  | [] => p.startsAt ⟨offset, before, []⟩
  | c :: rest =>
    p.startsAt ⟨offset, before, c :: rest⟩ || p.occursFrom (offset + 1) (some c) rest

/-- Whether a text holds a piece of the pattern. -/
def occursIn (p : Pattern) (text : List Char) : Bool := p.occursFrom 0 none text

end Pattern

/-- A pattern of which the middle part is of interest. -/
structure NamePattern where
  lead : Pattern
  name : Pattern
  trail : Pattern

namespace NamePattern

/-- The preferred piece from a place on: its middle part and where it ends. -/
def match? (p : NamePattern) (c : Cursor) : Option (List Char × Cursor) :=
  (p.lead.ends c).findSome? fun s =>
    (p.name.ends s).findSome? fun e =>
      ((p.trail.ends e).head?).map fun f => (s.rest.take (e.offset - s.offset), f)

/-- The middle parts of the pieces of a text, from left to right and without
overlap; the first `skip` characters belong to the piece before. -/
def allFrom (p : NamePattern) (offset : Nat) (before : Option Char) (skip : Nat) :
    List Char → List (List Char)
  | [] => []
  | c :: rest =>
    match skip with
    | k + 1 => p.allFrom (offset + 1) (some c) k rest
    | 0 =>
      match p.match? ⟨offset, before, c :: rest⟩ with
      | some (name, e) => name :: p.allFrom (offset + 1) (some c) (e.offset - offset - 1) rest
      | none => p.allFrom (offset + 1) (some c) 0 rest

/-- The middle parts of the pieces of a text. -/
def all (p : NamePattern) (text : List Char) : List (List Char) := p.allFrom 0 none 0 text

/-- The middle part of the first piece of a text. -/
def first? (p : NamePattern) (text : List Char) : Option (List Char) := (p.all text).head?

end NamePattern

end ReviewPanel
