import Stencil.Decimal.Reading
import Stencil.Json.Basic

/-!
# Stencil.Json.Number — numbers in a document

A numeral is read into a 64-bit significand and a power of ten. Digits that no longer
fit are dropped, those of the whole part after counting them. A number without
point and exponent that lost no digit is whole; any other is the significand as a float, multiplied
or divided by the power of ten. A number too great for a float is refused.
-/

namespace Stencil.Json.Number

/-- Appends digits to a significand while it stays below `2 ^ 64`, and returns what is left
from the first digit on that does not fit. -/
def absorb (significand : Nat) : List Char → Nat × List Char
  | [] => (significand, [])
  | c :: cs =>
    let next := significand * 10 + Decimal.digitValue c
    if next < Nat.pow 2 64 then absorb next cs else (significand, c :: cs)

/-- Divides by a power of ten, in steps of `1e308` as long as something is left. -/
def divide (x : Float) (power : Nat) : Float :=
  if power ≤ 308 then x / Float.ofScientific 1 false power
  else if x == 0 then x
  else divide (x / 1e308) (power - 308)
termination_by power

/-- The significand times a power of ten; none when that is infinite. -/
def scale? (significand : Nat) (exponent : Int) : Option Float :=
  let x := Float.ofNat significand
  if exponent < 0 then some (divide x exponent.natAbs)
  else if exponent ≤ 308 then
    let y := x * Float.ofScientific 1 false exponent.natAbs
    if y.isInf then none else some y
  else if x == 0 then some x
  else none

/-- The number with these parts; `fraction` is none without a point, and `exponent` none
without an exponent. -/
def ofParts? (negative : Bool) (whole : List Char) (fraction : Option (List Char))
    (exponent : Option Int) : Option Number :=
  let (significand, dropped) := absorb 0 whole
  match fraction, exponent, dropped with
  | none, none, [] =>
    if negative then
      if significand = 0 ∨ significand > Nat.pow 2 63 then some (real (-Float.ofNat significand))
      else some (integer (-significand))
    else some (integer significand)
  | _, _, _ =>
    let digits := fraction.getD []
    let (significand, rest) := absorb significand digits
    let power := dropped.length - ((digits.length - rest.length : Nat) : Int) + exponent.getD 0
    (scale? significand power).map fun x => real (if negative then -x else x)

/-- The digits at the front of a text, if there are any. -/
def takeDigits? (cs : List Char) : Option (List Char × List Char) :=
  match cs.takeWhile Char.isDigit with
  | [] => none
  | digits => some (digits, cs.dropWhile Char.isDigit)

/-- The point and the digits behind it, if there is a point. -/
def takeFraction? : List Char → Option (Option (List Char) × List Char)
  | '.' :: cs => (takeDigits? cs).map fun (digits, rest) => (some digits, rest)
  | cs => some (none, cs)

/-- The exponent, if there is one. -/
def takeExponent? : List Char → Option (Option Int × List Char)
  | [] => some (none, [])
  | c :: cs =>
    if c = 'e' ∨ c = 'E' then
      let (negative, body) := Decimal.takeSign cs
      (takeDigits? body).map fun (digits, rest) =>
        let n : Int := Decimal.ofDigits digits
        (some (if negative then -n else n), rest)
    else some (none, c :: cs)

/-- The number at the front of a text. A whole part of several digits does not start with
zero. -/
def take? (cs : List Char) : Option (Number × List Char) := do
  let (negative, body) := match cs with
    | '-' :: cs => (true, cs)
    | cs => (false, cs)
  let (whole, rest) ← takeDigits? body
  if whole.head? = some '0' ∧ whole.length > 1 then none
  let (fraction, rest) ← takeFraction? rest
  let (exponent, rest) ← takeExponent? rest
  let n ← ofParts? negative whole fraction exponent
  return (n, rest)

end Stencil.Json.Number
