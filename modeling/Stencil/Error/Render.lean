import Stencil.Error.Compile
import Stencil.Value.Display

/-!
# Stencil.Error.Render — why a render fails
-/

namespace Stencil

/-- Why a render fails. A located error carries the place of the directive that raised it. -/
inductive RenderError where
  | unknownModifier (name : String)
  | templateNotFound (name : String)
  | invalidTemplate (name : String) (source : TemplateError)
  /-- The deadline, so many milliseconds after the start, has passed. -/
  | timeout (milliseconds : Nat)
  | aborted
  | notCallable (path : String)
  /-- A function, helper or modifier gave this message. -/
  | callback (message : String)
  | iterationLimit (count : Float)
  | malformedExpression
  | io (message : String)
  | located (position : Position) (source : RenderError)

/-- A span of time in its largest unit, with the decimals it needs. -/
def describeMilliseconds (n : Nat) : String :=
  if n = 0 then "0ns"
  else if n < 1000 then toString n ++ "ms"
  else
    let rest := n % 1000
    let digits := (toString (1000 + rest)).toList.drop 1
    let fraction := (digits.reverse.dropWhile (· == '0')).reverse
    toString (n / 1000) ++ (if fraction = [] then "" else "." ++ String.ofList fraction) ++ "s"

namespace RenderError

/-- The wording of an error. -/
def message : RenderError → String
  | unknownModifier name => "unknown modifier: " ++ name
  | templateNotFound name => "template not found: " ++ name
  | invalidTemplate name source => "template '" ++ name ++ "' is invalid: " ++ source.message
  | timeout n => "render timed out after " ++ describeMilliseconds n
  | aborted => "render aborted"
  | notCallable path => "'" ++ path ++ "' is not callable"
  | callback message => message
  | iterationLimit count => "cannot iterate " ++ Value.writeFinite count ++ " times"
  | malformedExpression => "malformed expression"
  | io message => "I/O error: " ++ message
  | located p source => source.message ++ " (" ++ p.describe ++ ")"

/-- The error without its place. -/
def root : RenderError → RenderError
  | located _ source => source.root
  | e => e

/-- Gives an error a place, if one is known and it has none yet. -/
def locate (e : RenderError) (position : Option Position) : RenderError :=
  match e, position with
  | located p source, _ => located p source
  | e, some p => located p e
  | e, none => e

end RenderError

/-- Why a template cannot be compiled or rendered. -/
inductive Error where
  | template (e : TemplateError)
  | render (e : RenderError)

/-- The wording of either. -/
def Error.message : Error → String
  | template e => e.message
  | render e => e.message

end Stencil
