import Stencil.Expr.Lexeme
import Stencil.Expr.Precedence

/-!
# Stencil.Expr.Phrase — the concrete syntax of expressions

A phrase is a chain of operands joined by operators, kept as it is written:

* phrase = operand | phrase operator operand
* operand = primary | negation primary
* primary = literal | path | path `(` phrases `)` property? | `(` phrase `)`

`Phrase.symbols` writes a phrase out again. `Phrase.toPostfix` gives its meaning: the
chain grouped by priority, in postfix order, where the negation of an operand that is
a single literal becomes the truth value it has.
-/

namespace Stencil.Expr

mutual

/-- An operand without its negation. -/
inductive Primary where
  | literal (l : Literal)
  | path (p : String)
  | call (p : String) (args : List Phrase) (property : Option String)
  | group (body : Phrase)

/-- Operands joined by operators, the last at the top. -/
inductive Phrase where
  | operand (n : Option Negation) (p : Primary)
  | join (before : Phrase) (op : Operator) (n : Option Negation) (p : Primary)

end

/-! ## Spelling -/

/-- The symbol of a negation, if there is one. -/
def negationSymbols : Option Negation → List Symbol
  | none => []
  | some n => [.negate n]

/-- The symbol of a call's property, if there is one. -/
def propertySymbols : Option String → List Symbol
  | none => []
  | some p => [.property p]

mutual

/-- The symbols that spell a primary. -/
def Primary.symbols : Primary → List Symbol
  | .literal l => [.literal l]
  | .path p => [.path p]
  | .call p args property =>
    .path p :: .opening :: (argumentSymbols args ++ .closing :: propertySymbols property)
  | .group body => .opening :: (body.symbols ++ [.closing])

/-- The symbols that spell a phrase. -/
def Phrase.symbols : Phrase → List Symbol
  | .operand n p => negationSymbols n ++ p.symbols
  | .join before op n p =>
    before.symbols ++ .operator op :: (negationSymbols n ++ p.symbols)

/-- The symbols that spell a list of phrases, with separators between them. -/
def argumentSymbols : List Phrase → List Symbol
  | [] => []
  | [e] => e.symbols
  | e :: es => e.symbols ++ .separator :: argumentSymbols es

end

/-! ## Meaning -/

/-- A negation behind its operand; a single literal becomes the truth value instead. -/
def Negation.onto (n : Negation) : Postfix → Postfix
  | [.literal l] => [.literal (.reserved (.ofBool (n.apply l.truthy)))]
  | e => e ++ [.negate n]

/-- An operand with or without a negation. -/
def negated : Option Negation → Postfix → Postfix
  | none, e => e
  | some n, e => n.onto e

mutual

/-- The postfix form of a primary; parentheses leave no trace. -/
def Primary.toPostfix : Primary → Postfix
  | .literal l => [.literal l]
  | .path p => [.path p]
  | .call p args property => [.call p (argumentPostfix args) property]
  | .group body => body.grouping.toPostfix

/-- The operands of a phrase grouped by priority. -/
def Phrase.grouping : Phrase → Grouping Postfix
  | .operand n p => .operand (negated n p.toPostfix)
  | .join before op n p => before.grouping.insert op (negated n p.toPostfix)

/-- The postfix form of each argument. -/
def argumentPostfix : List Phrase → List Postfix
  | [] => []
  | e :: es => e.grouping.toPostfix :: argumentPostfix es

end

/-- The postfix form of a phrase. -/
def Phrase.toPostfix (e : Phrase) : Postfix := e.grouping.toPostfix

/-- Arguments are put into postfix order each on its own. -/
theorem argumentPostfix_eq_map (es : List Phrase) :
    argumentPostfix es = es.map Phrase.toPostfix := by
  induction es with
  | nil => rfl
  | cons e es ih => rw [argumentPostfix, List.map_cons, ih]; rfl

end Stencil.Expr
