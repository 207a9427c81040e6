import Stencil.Expr.Document
import Stencil.Segment.Basic

/-!
# Stencil.Segment.Document — segments as documents

The JSON form of segments. Members that say nothing are left out.
-/

namespace Stencil

/-- A position as a document. -/
def Position.toJson (p : Position) : Json :=
  let number (n : Nat) : Json := .number (.integer n)
  .object [("offset", number p.offset), ("line", number p.line), ("column", number p.column)]

/-- A modifier as a document. -/
def ModifierCall.toJson (number : Float → Json) (m : ModifierCall) : Json :=
  .object [("name", .text m.name), ("args", .list (m.args.map fun e => e.toJson number))]

/-- A segment as a document. -/
def Segment.toJson (number : Float → Json) (s : Segment) : Json :=
  let given (key : String) (d : Option Json) : List (String × Json) :=
    (d.map fun d => (key, d)).toList
  let flag (key : String) (b : Bool) : List (String × Json) :=
    if b then [(key, .bool true)] else []
  .object ([("kind", .text s.kind.tag), ("position", s.position.toJson)] ++
    given "text" (s.text.map .text) ++ given "context" (s.context.map .text) ++
    given "expression" (s.expression.map fun e => e.toJson number) ++
    (if s.modifiers.isEmpty then []
      else [("modifiers", .list (s.modifiers.map fun m => m.toJson number))]) ++
    flag "closing" s.closing ++ flag "next" s.next)

end Stencil
