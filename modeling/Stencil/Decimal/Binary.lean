/-!
# Stencil.Decimal.Binary — floats as binary fractions

A finite float is `± mantissa · 2 ^ exponent`. `Binary.ofFloat?` reads that form off
its bits and `Binary.toFloat` puts it back; in between, questions about floats are
questions about whole numbers: whether a float is integral (`integer?`), and what the
exact remainder of a division is (`remainder`).
-/

namespace Stencil.Decimal

/-- The number `± mantissa · 2 ^ exponent`. -/
structure Binary where
  negative : Bool
  mantissa : Nat
  exponent : Int
deriving DecidableEq, Repr

namespace Binary

/-- The bits of a sign, a biased exponent and a fraction. -/
def fields (bits : Nat) : Bool × Nat × Nat :=
  (bits / Nat.pow 2 63 = 1, bits / Nat.pow 2 52 % Nat.pow 2 11, bits % Nat.pow 2 52)

/-- The fraction of a finite float; none for NaN and the infinities. -/
def ofFloat? (x : Float) : Option Binary :=
  let (negative, biased, fraction) := fields x.toBits.toNat
  if biased = 2047 then none
  else if biased = 0 then some ⟨negative, fraction, -1074⟩
  else some ⟨negative, Nat.pow 2 52 + fraction, biased - 1075⟩

/-- The whole number, if the fraction is one. -/
def integer? (b : Binary) : Option Int :=
  let magnitude : Option Nat :=
    if 0 ≤ b.exponent then some (b.mantissa * Nat.pow 2 b.exponent.toNat)
    else
      let unit := Nat.pow 2 (-b.exponent).toNat
      if b.mantissa % unit = 0 then some (b.mantissa / unit) else none
  magnitude.map fun n => if b.negative then -(n : Int) else n

/-- The float with this value, for fractions that some float equals: of the equal forms with
at most 53 bits and an exponent of at least -1074, the one with the least exponent. -/
def toFloat (b : Binary) : Float :=
  let sign := if b.negative then Nat.pow 2 63 else 0
  if b.mantissa = 0 then .ofBits (.ofNat sign)
  else
    let exponent := max (b.exponent + b.mantissa.log2 - 52) (-1074)
    let shift := exponent - b.exponent
    let mantissa :=
      if 0 ≤ shift then b.mantissa / Nat.pow 2 shift.toNat
      else b.mantissa * Nat.pow 2 (-shift).toNat
    let magnitude :=
      if mantissa < Nat.pow 2 52 then mantissa
      else (exponent + 1075).toNat * Nat.pow 2 52 + (mantissa - Nat.pow 2 52)
    .ofBits (.ofNat (sign + magnitude))

/-- The mantissa of `b` when its exponent is lowered to `exponent`. -/
def scaledTo (b : Binary) (exponent : Int) : Nat :=
  b.mantissa * Nat.pow 2 (b.exponent - exponent).toNat

/-- What is left of `a` after taking away `b` as often as it fits, with the sign of `a`. -/
def remainder (a b : Binary) : Binary :=
  let exponent := min a.exponent b.exponent
  ⟨a.negative, a.scaledTo exponent % b.scaledTo exponent, exponent⟩

end Binary

/-- The whole number that a float is, if it is one. -/
def integer? (x : Float) : Option Int := (Binary.ofFloat? x).bind Binary.integer?

/-- The exact remainder of the division of floats, with the sign of the dividend: NaN when the
dividend is infinite or the divisor is zero, and the dividend when the divisor is infinite. -/
def remainder (x y : Float) : Float :=
  match Binary.ofFloat? x, Binary.ofFloat? y with
  | some a, some b => if b.mantissa = 0 then 0 / 0 else (a.remainder b).toFloat
  | some _, none => if y.isNaN then y else x
  | none, _ => 0 / 0

end Stencil.Decimal
