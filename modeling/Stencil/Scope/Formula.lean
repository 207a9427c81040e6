import Stencil.Error.Render
import Stencil.Frame.Basic
import Stencil.Value.Operator

/-!
# Stencil.Scope.Formula — expressions ready for evaluation

Calls may have to wait for their results, so no expression makes a call while it is
evaluated. `Formula.ofPostfix` takes the calls out of an expression into a list, inner
calls before those that use them, and leaves in their place the number of the result.
What remains is evaluated at once, on a stack of values.
-/

namespace Stencil

/-- One step of an evaluation. -/
inductive Op where
  | value (v : Value)
  | lookup (path : String)
  /-- The result of the call with this number. -/
  | slot (i : Nat)
  | binary (op : Expr.Operator)
  | negate (n : Expr.Negation)

/-- An expression without calls, operands before their operators. -/
abbrev Formula := List Op

/-- A call taken out of an expression. -/
structure Call where
  /-- The context of the directive that makes the call. -/
  context : Option String
  path : String
  args : List Formula
  /-- The path to what is wanted of the result. -/
  property : Option String
  /-- Where an error of the call is placed. -/
  position : Option Position

namespace Formula

mutual

/-- Takes the calls out of an expression and adds them to `calls`. -/
def ofPostfix (context : Option String) (position : Option Position) :
    Expr.Postfix → List Call → Formula × List Call
  | [], calls => ([], calls)
  | .call path args property :: rest, calls =>
    let (formulas, calls) := ofArguments context position args calls
    let call : Call := ⟨context, path, formulas, property, position⟩
    let (ops, more) := ofPostfix context position rest (calls ++ [call])
    (.slot calls.length :: ops, more)
  | .literal l :: rest, calls =>
    let (ops, more) := ofPostfix context position rest calls
    (.value l.value :: ops, more)
  | .path p :: rest, calls =>
    let (ops, more) := ofPostfix context position rest calls
    (.lookup p :: ops, more)
  | .operator op :: rest, calls =>
    let (ops, more) := ofPostfix context position rest calls
    (.binary op :: ops, more)
  | .negate n :: rest, calls =>
    let (ops, more) := ofPostfix context position rest calls
    (.negate n :: ops, more)
  | .opening :: rest, calls | .closing :: rest, calls | .separator :: rest, calls =>
    ofPostfix context position rest calls

/-- Takes the calls out of each argument in turn. -/
def ofArguments (context : Option String) (position : Option Position) :
    List Expr.Postfix → List Call → List Formula × List Call
  | [], calls => ([], calls)
  | e :: es, calls =>
    let (formula, calls) := ofPostfix context position e calls
    let (formulas, calls) := ofArguments context position es calls
    (formula :: formulas, calls)

end

/-- Takes one step on the stack, whose top is the head of the list. -/
def step (frame : Frame) (slots : List Value) (stack : List Value) :
    Op → Except RenderError (List Value)
  | .value v => .ok (v :: stack)
  | .lookup path => .ok (frame.lookup path :: stack)
  | .slot i => .ok (slots.getD i .undefined :: stack)
  | .binary op =>
    match stack with
    | b :: a :: stack => .ok (op.onValues a b :: stack)
    | _ => .error .malformedExpression
  | .negate n =>
    match stack with
    | v :: stack => .ok (n.onValue v :: stack)
    | _ => .error .malformedExpression

/-- The value of the expression for a frame and the results of the calls. Nothing at all is
`undefined`. -/
def eval (formula : Formula) (frame : Frame) (slots : List Value) : Except RenderError Value := do
  match ← formula.foldlM (step frame slots) [] with
  | [] => return .undefined
  | [v] => return v
  | _ => throw .malformedExpression

end Formula

/-- What gives formulas their values. A render has one of its own, `Formula.eval`; any other
shows what the render asks of it. -/
class Evaluator where
  eval : Formula → Frame → List Value → Except RenderError Value

instance Formula.evaluator : Evaluator := ⟨Formula.eval⟩

end Stencil
