import ReviewPanel.Numeric.DecimalText

/-!
# Unquoted scalars

What an unquoted scalar means depends on the type that is asked for. Truth
values, null and the infinities have three spellings each: small letters, a
capital first letter, capitals. A natural may be hexadecimal, octal or binary
after `0x`, `0o` and `0b`; a decimal one has no leading zero.
-/

namespace ReviewPanel.Datum.Plain

open Numeric

def bool? (s : String) : Option Bool :=
  if s ∈ ["true", "True", "TRUE"] then some true
  else if s ∈ ["false", "False", "FALSE"] then some false
  else none

def isNull (s : String) : Bool := s ∈ ["null", "Null", "NULL", "~"]

/-- The digits of a base, at least one of them. -/
def natOfBase? (base : Nat) (cs : List Char) : Option Nat :=
  if cs.isEmpty then none else natOfDigits? base cs

/-- Digits only, with a zero in front. -/
def hasLeadingZero (cs : List Char) : Bool :=
  1 < cs.length && cs.head? == some '0' && cs.all Char.isDigit

/-- The natural that a scalar denotes. -/
def nat? (s : String) : Option Nat :=
  let unsigned :=
    match s.toList with
    | '+' :: rest => rest
    | cs => cs
  match unsigned with
  | '0' :: 'x' :: rest => natOfBase? 16 rest
  | '0' :: 'o' :: rest => natOfBase? 8 rest
  | '0' :: 'b' :: rest => natOfBase? 2 rest
  | cs => if hasLeadingZero cs then none else natOfBase? 10 cs

/-- The number that a scalar denotes when any number will do. -/
def double? (s : String) : Option Binary :=
  let cs := s.toList
  let unplussed :=
    match cs with
    | '+' :: rest => rest
    | _ => cs
  if cs.head? = some '+' ∧ (unplussed.head? = some '+' ∨ unplussed.head? = some '-') then none
  else if String.ofList unplussed ∈ [".inf", ".Inf", ".INF"] then some (.infinite false)
  else if s ∈ ["-.inf", "-.Inf", "-.INF"] then some (.infinite true)
  else if s ∈ [".nan", ".NaN", ".NAN"] then some .notANumber
  else
    match Binary.ofNumeral? unplussed with
    | some x => if x.isFinite then some x else none
    | none => none

end ReviewPanel.Datum.Plain
