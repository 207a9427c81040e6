import Stencil.Text.Quoted
import Stencil.Value.Display

/-!
# Stencil.Value.Inspect — values written out

A text that shows a value together with its kind, for people who look for a mistake.
-/

namespace Stencil.Value

/-- A number with the sign of zero. -/
def inspectNumber (x : Float) : String :=
  if x.isNaN then "NaN"
  else if x.isInf then if x > 0 then "inf" else "-inf"
  else writeFinite x

mutual

/-- The value written out. -/
def inspect : Value → String
  | undefined => "Undefined"
  | null => "Null"
  | bool b => if b then "Bool(true)" else "Bool(false)"
  | number x => "Number(" ++ inspectNumber x ++ ")"
  | text s => "String(" ++ Text.quote s ++ ")"
  | array _ items => "[" ++ ", ".intercalate (inspectItems items) ++ "]"
  | object _ ⟨keys, _, value⟩ =>
    let members := (List.finRange keys.length).map fun i =>
      Text.quote (keys.get i) ++ ": " ++ (value i).inspect
    "\x7b" ++ ", ".intercalate members ++ "\x7d"
  | function _ => "Function"

/-- Each item written out. -/
def inspectItems : List Value → List String
  | [] => []
  | v :: vs => v.inspect :: inspectItems vs

end

end Stencil.Value
