import Stencil.Text.Blank

/-!
# Stencil.Decimal.Reading — reading decimal numerals

A decimal numeral is a sign, a whole number of units and a power of ten;
`Numeral.toFloat` is the float nearest to its value, ties to even. `Decimal.read?` reads
the full grammar of floats: an optional sign, then a name (`inf`, `infinity`, `nan`, in
any case) or digits with an optional point and an optional exponent.
-/

namespace Stencil.Decimal

/-- The number `± units · 10 ^ exponent`. -/
structure Numeral where
  negative : Bool
  units : Nat
  exponent : Int
deriving DecidableEq, Repr

/-- The value of a digit character. -/
def digitValue (c : Char) : Nat := c.toNat - '0'.toNat

/-- The number whose decimal digits are `cs`, most significant first. -/
def ofDigits (cs : List Char) : Nat := cs.foldl (fun n c => n * 10 + digitValue c) 0

namespace Numeral

/-- The numeral with digits `whole` before the point and `fraction` after it. -/
def ofParts (negative : Bool) (whole fraction : List Char) (exponent : Int) : Numeral :=
  ⟨negative, ofDigits (whole ++ fraction), exponent - fraction.length⟩

/-- The nearest float; a value beyond the range is infinite, and zero keeps its sign. -/
def toFloat (d : Numeral) : Float :=
  let magnitude := Float.ofScientific d.units (d.exponent < 0) d.exponent.natAbs
  if d.negative then -magnitude else magnitude

end Numeral

/-- A sign in front of a text: whether it is a minus, and the rest. -/
def takeSign : List Char → Bool × List Char
  | '-' :: cs => (true, cs)
  | '+' :: cs => (false, cs)
  | cs => (false, cs)

/-- The exponent that ends a numeral: nothing, or `e` with an optional sign and digits. -/
def readExponent? : List Char → Option Int
  | [] => some 0
  | c :: cs =>
    let (negative, digits) := takeSign cs
    if (c = 'e' || c = 'E') && digits ≠ [] && digits.all Char.isDigit then
      some (if negative then -(ofDigits digits : Int) else ofDigits digits)
    else none

/-- The unsigned numeral that makes up a text. -/
def readUnsigned? (negative : Bool) (cs : List Char) : Option Numeral :=
  let whole := cs.takeWhile Char.isDigit
  let (fraction, rest) :=
    match cs.dropWhile Char.isDigit with
    | '.' :: cs => (cs.takeWhile Char.isDigit, cs.dropWhile Char.isDigit)
    | cs => ([], cs)
  if whole = [] ∧ fraction = [] then none
  else (readExponent? rest).map (.ofParts negative whole fraction)

/-- The float that a text spells. -/
def read? (cs : List Char) : Option Float :=
  let (negative, body) := takeSign cs
  let signed (x : Float) : Float := if negative then -x else x
  let name := String.ofList (body.map Char.toLower)
  if name = "inf" ∨ name = "infinity" then some (signed (1 / 0))
  else if name = "nan" then some (0 / 0)
  else (readUnsigned? negative body).map Numeral.toFloat

end Stencil.Decimal
