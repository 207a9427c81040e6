import Stencil.Expr.Basic
import Stencil.Value.Display

/-!
# Stencil.Value.Operator — what operators and literals mean
-/

namespace Stencil

/-- The value of a literal. -/
def Expr.Literal.value : Expr.Literal → Value
  | .number n => .number n
  | .text s => .text s
  | .reserved .true => .bool true
  | .reserved .false => .bool false
  | .reserved .null => .null
  | .reserved .undefined => .undefined
  | .reserved .nan => .number (0 / 0)
  | .reserved .infinity => .number (1 / 0)

/-- What a negation makes of its operand. -/
def Expr.Negation.onValue (n : Expr.Negation) (v : Value) : Value := .bool (n.apply v.truthy)

/-- What an operator makes of its operands. Both are always evaluated; `&&` and `||` choose
between them. -/
def Expr.Operator.onValues : Expr.Operator → Value → Value → Value
  | .add, a, b =>
    if a.isTextual || b.isTextual then .text (a.display ++ b.display)
    else .number (a.toNumber + b.toNumber)
  | .sub, a, b => .number (a.toNumber - b.toNumber)
  | .mul, a, b => .number (a.toNumber * b.toNumber)
  | .div, a, b => .number (a.toNumber / b.toNumber)
  | .rem, a, b => .number (Decimal.remainder a.toNumber b.toNumber)
  | .pow, a, b => .number (a.toNumber.pow b.toNumber)
  | .eq, a, b => .bool (a.looseEq b)
  | .ne, a, b => .bool (!a.looseEq b)
  | .lt, a, b => .bool (a.order? b = some .lt)
  | .le, a, b => .bool (a.order? b = some .lt || a.order? b = some .eq)
  | .gt, a, b => .bool (a.order? b = some .gt)
  | .ge, a, b => .bool (a.order? b = some .gt || a.order? b = some .eq)
  | .and, a, b => if a.truthy then b else a
  | .or, a, b => if a.truthy then a else b

end Stencil
