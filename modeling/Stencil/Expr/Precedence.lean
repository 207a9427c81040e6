import Stencil.Expr.Basic

/-!
# Stencil.Expr.Precedence — operands grouped by binding priority

A chain of operands joined by operators is grouped into a tree by adding the operators
one at a time at the right edge: a new operator takes the nearest operands that no
earlier operator of at least its priority holds. So tighter operators end up deeper
and every level associates to the left.
-/

namespace Stencil.Expr

/-- Operands of type `α` grouped under operators. -/
inductive Grouping (α : Type) where
  | operand (a : α)
  | node (op : Operator) (left right : Grouping α)

namespace Grouping

variable {α : Type}

/-- Adds an operator and its right operand at the right edge. -/
def insert : Grouping α → Operator → α → Grouping α
  | operand a, op, b => node op (operand a) (operand b)
  | node top l r, op, b =>
    if top.priority < op.priority then node top l (r.insert op b)
    else node op (node top l r) (operand b)

/-- The postfix form in front of `rest`, each operand giving a sequence. -/
def postfixOnto : Grouping Postfix → Postfix → Postfix
  | operand e, rest => e ++ rest
  | node op l r, rest => l.postfixOnto (r.postfixOnto (.operator op :: rest))

/-- The postfix form: both operands, then their operator. -/
def toPostfix (t : Grouping Postfix) : Postfix := t.postfixOnto []

/-- What is put in front of a list is the postfix order of the tree. -/
theorem postfixOnto_eq (t : Grouping Postfix) (rest : Postfix) :
    t.postfixOnto rest = t.toPostfix ++ rest := by
  induction t generalizing rest with
  | operand e => simp [toPostfix, postfixOnto]
  | node op l r ihl ihr =>
    simp only [toPostfix, postfixOnto]
    rw [ihl, ihr, ihl (r.postfixOnto [_]), ihr [_]]
    simp

@[simp] theorem toPostfix_operand (e : Postfix) : (operand e).toPostfix = e := by
  simp [toPostfix, postfixOnto]

@[simp] theorem toPostfix_node (op : Operator) (l r : Grouping Postfix) :
    (node op l r).toPostfix = l.toPostfix ++ r.toPostfix ++ [.operator op] := by
  rw [toPostfix, postfixOnto, postfixOnto_eq, postfixOnto_eq, List.append_assoc]

end Grouping

end Stencil.Expr
