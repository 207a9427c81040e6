import Stencil.Decimal.Shortest

/-!
# Stencil.Decimal.Layout — how a decimal is written

`Layout` holds the decisions of a number format: in which range the point is written in
its place, whether a whole number shows its fraction, how an exponent looks, and which
of two equally near decimals is taken.
-/

namespace Stencil.Decimal

/-- The decisions of a number format. -/
structure Layout where
  /-- Whether a leading digit at this power of ten is written without an exponent. -/
  positional : Int → Bool
  /-- Whether a whole number ends in `.0`. -/
  pointZero : Bool
  tie : Tie

namespace Layout

/-- `n` zeros. -/
def zeros (n : Nat) : String := String.ofList (List.replicate n '0')

/-- The exponent of the leading digit. -/
def leading (d : Digits) : Int := d.exponent + (toString d.digits).length - 1

/-- The decimal with its point in place. -/
def plain (pointZero : Bool) (d : Digits) : String :=
  let digits := toString d.digits
  if 0 ≤ d.exponent then
    digits ++ zeros d.exponent.toNat ++ if pointZero then ".0" else ""
  else
    let places := (-d.exponent).toNat
    if places < digits.length then
      (digits.take (digits.length - places)).toString ++ "." ++
        (digits.drop (digits.length - places)).toString
    else "0." ++ zeros (places - digits.length) ++ digits

/-- One digit before the point, the others behind it, and a signed exponent. -/
def scientific (d : Digits) : String :=
  let digits := toString d.digits
  let fraction := if digits.length = 1 then "" else "." ++ (digits.drop 1).toString
  let exponent := leading d
  (digits.take 1).toString ++ fraction ++ "e" ++ (if exponent < 0 then "-" else "+") ++
    toString exponent.natAbs

/-- Writes a finite float; zero keeps its sign. -/
def write (layout : Layout) (b : Binary) : String :=
  let sign := if b.negative then "-" else ""
  let d := if b.mantissa = 0 then ⟨0, 0⟩ else shortest layout.tie b
  sign ++ if layout.positional (leading d) then plain layout.pointZero d else scientific d

end Layout

end Stencil.Decimal
