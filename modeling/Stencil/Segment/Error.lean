import Stencil.Expr.Error
import Stencil.Segment.Basic

/-!
# Stencil.Segment.Error — why a text is not a template
-/

namespace Stencil.Segment

/-- Why a directive is refused. -/
inductive Fault where
  /-- The part before the colon is not a path. -/
  | context (path : String)
  /-- The content or an argument is not an expression. -/
  | expression (f : Expr.Fault)
  /-- An output directive with a `/` or `~`. -/
  | markedOutput
  /-- A directive that has no further bodies, with a `~`. -/
  | continued (kind : Kind)
  /-- A directive without the expression it needs. -/
  | missingExpression (kind : Kind)
  /-- A closing directive with more than its mark. -/
  | ladenClosing (kind : Kind)
deriving DecidableEq, Repr

/-- The wording of a fault. -/
def Fault.message : Fault → String
  | context path => "invalid context path '" ++ path ++ "'"
  | expression f => f.message
  | markedOutput => "output directives cannot be closed or continued"
  | continued kind => kind.describe ++ " directives cannot be continued"
  | missingExpression kind => kind.describe ++ " directive requires an expression"
  | ladenClosing kind =>
      "closing " ++ kind.describe ++ " directive takes no expression or modifiers"

/-- A fault at its place. -/
structure Error where
  fault : Fault
  position : Position
deriving DecidableEq, Repr

/-- The wording with the place. -/
def Error.message (e : Error) : String :=
  "syntax error: " ++ e.fault.message ++ " at " ++ e.position.describe

end Stencil.Segment
