import Stencil.Decimal.Binary

/-!
# Stencil.Decimal.Shortest — the fewest digits that read back

The reals that round to a float form an interval around it, with its ends when the
mantissa is even. `shortest` looks for a decimal in that interval on the grids of one
significant digit, two, and so on up to seventeen; on each grid only the float's two
neighbours can be in the interval. The first grid with a hit wins, of two hits the
nearer, and an exact tie goes by a rule that is left to the format.
-/

namespace Stencil.Decimal

/-- Which of two equally near decimals is taken. -/
inductive Tie where
  | toEven
  | up
deriving DecidableEq, Repr

/-- The decimal `digits · 10 ^ exponent`. -/
structure Digits where
  digits : Nat
  exponent : Int
deriving DecidableEq, Repr

/-- The rounding interval of a positive float, all of it multiplied by one factor that makes
its numbers whole: `low ≤ value ≤ high` over `unit`. -/
structure Interval where
  low : Nat
  value : Nat
  high : Nat
  unit : Nat
  closed : Bool
deriving Repr

namespace Interval

/-- The interval around `b`. Its lower half is half as wide at a power of two, where the next
smaller float is nearer. -/
def ofBinary (b : Binary) : Interval :=
  let narrow := b.mantissa = Nat.pow 2 52 ∧ b.exponent ≠ -1074
  let scale := Nat.pow 2 (b.exponent - 2).toNat
  { low := (4 * b.mantissa - if narrow then 1 else 2) * scale
    value := 4 * b.mantissa * scale
    high := (4 * b.mantissa + 2) * scale
    unit := Nat.pow 2 (2 - b.exponent).toNat
    closed := b.mantissa % 2 = 0 }

/-- The interval seen from the grid `10 ^ exponent`: the unit becomes one grid step. -/
def onGrid (i : Interval) (exponent : Int) : Interval :=
  let up := Nat.pow 10 (-exponent).toNat
  { low := i.low * up, value := i.value * up, high := i.high * up
    unit := i.unit * Nat.pow 10 exponent.toNat, closed := i.closed }

/-- Whether `n` units lie in the interval. -/
def contains (i : Interval) (n : Nat) : Bool :=
  if i.closed then i.low ≤ n * i.unit && n * i.unit ≤ i.high
  else i.low < n * i.unit && n * i.unit < i.high

/-- The nearest number of units to the value that lies in the interval, if one does. -/
def nearest? (tie : Tie) (i : Interval) : Option Nat :=
  let below := i.value / i.unit
  let above := below + 1
  match i.contains below, i.contains above with
  | false, false => none
  | true, false => some below
  | false, true => some above
  | true, true =>
    match compare (2 * i.value) ((below + above) * i.unit) with
    | .lt => some below
    | .gt => some above
    | .eq => if tie = .up ∨ below % 2 = 1 then some above else some below

end Interval

/-- The exponent of the leading digit of a number with this many units and this unit: the
greatest `e` with `10 ^ e ≤ value / unit`, found from the number of bits and set right by
one. -/
def leadingExponent (value unit : Nat) : Int :=
  let bits : Int := (value.log2 : Int) - unit.log2
  let guess := bits * 30103 / 100000 - 1
  let reaches (e : Int) : Bool := unit * Nat.pow 10 e.toNat ≤ value * Nat.pow 10 (-e).toNat
  if reaches (guess + 2) then guess + 2
  else if reaches (guess + 1) then guess + 1
  else guess

/-- Drops the zeros at the end of a number, at most `fuel` of them. -/
def dropZeros : Nat → Digits → Digits
  | 0, d => d
  | fuel + 1, d =>
    if d.digits ≠ 0 ∧ d.digits % 10 = 0 then dropZeros fuel ⟨d.digits / 10, d.exponent + 1⟩
    else d

/-- The shortest decimal that reads back to a positive binary fraction. -/
def shortest (tie : Tie) (b : Binary) : Digits :=
  let interval := Interval.ofBinary b
  let leading := leadingExponent interval.value interval.unit
  let hit := (List.range 17).findSome? fun (n : Nat) =>
    let exponent := leading - n
    ((interval.onGrid exponent).nearest? tie).map fun digits => Digits.mk digits exponent
  dropZeros 17 (hit.getD ⟨0, 0⟩)

end Stencil.Decimal
