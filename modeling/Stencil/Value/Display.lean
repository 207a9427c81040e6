import Stencil.Json.Basic
import Stencil.Value.Basic

/-!
# Stencil.Value.Display — values as text

`Value.toJson` is the value as a document and `Value.display` the text an output
directive writes: nothing for what stands for nothing, the parts of a sequence joined by
commas, and an object as a document on one line.
-/

namespace Stencil.Value

/-! ## Documents -/

/-- A number as a document: whole up to `2 ^ 53`, and nothing when it is not finite. -/
def numberToJson (x : Float) : Json :=
  match Decimal.integer? x with
  | some n => if n.natAbs < Nat.pow 2 53 then .number (.integer n) else .number (.real x)
  | none => if x.isFinite then .number (.real x) else .null

mutual

/-- The value as a document; functions and `undefined` have none. -/
def toJson : Value → Json
  | undefined | null | function _ => .null
  | bool b => .bool b
  | number x => numberToJson x
  | text s => .text s
  | array _ items => .list (itemsToJson items)
  | object _ ⟨keys, _, value⟩ =>
    .object ((List.finRange keys.length).map fun i => (keys.get i, (value i).toJson))

/-- Items as documents. -/
def itemsToJson : List Value → List Json
  | [] => []
  | v :: vs => v.toJson :: itemsToJson vs

end

/-! ## Text -/

/-- Fractions are written with the fewest digits that read back and never with an exponent; a
tie goes up. -/
def fractionLayout : Decimal.Layout where
  positional _ := true
  pointZero := false
  tie := .up

/-- A finite number as text; the sign of zero shows. -/
def writeFinite (x : Float) : String :=
  ((Decimal.Binary.ofFloat? x).map fractionLayout.write).getD ""

/-- A number as text: a whole number below `10 ^ 21` with all its digits. -/
def displayNumber (x : Float) : String :=
  if x.isNaN then "NaN"
  else if x.isInf then if x > 0 then "Infinity" else "-Infinity"
  else
    match Decimal.integer? x with
    | some n => if n.natAbs < Nat.pow 10 21 then toString n else writeFinite x
    | none => writeFinite x

mutual

/-- The text an output directive writes for the value. -/
def display : Value → String
  | undefined | null => ""
  | bool b => if b then "true" else "false"
  | number x => displayNumber x
  | text s => s
  | array _ items => ",".intercalate (displayItems items)
  | object id members => (toJson (object id members)).compact
  | function _ => "[function]"

/-- The text of each item. -/
def displayItems : List Value → List String
  | [] => []
  | v :: vs => v.display :: displayItems vs

end

end Stencil.Value
