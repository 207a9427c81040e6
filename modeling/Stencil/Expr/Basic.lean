/-!
# Stencil.Expr.Basic — operators, literals and postfix tokens

The vocabulary of the expression language: binary operators with their binding
priority, reserved words, runs of negation, literals, and the tokens of the postfix
form that parsing produces and evaluation consumes.

A postfix sequence holds operands before their operator, so `1 * 2 + 3` is
`1 2 * 3 +`. Parsing never puts `opening`, `closing` or `separator` into one; they
exist because a sequence may also be put together by hand.
-/

namespace Stencil.Expr

/-! ## Operators -/

/-- The binary operators, longer symbols first, so that the first symbol that starts a
text is the longest one that does. -/
inductive Operator where
  | and | or | eq | ne | le | ge | lt | gt | add | sub | mul | div | rem | pow
deriving DecidableEq, Repr

namespace Operator

/-- Every operator, in the order in which their symbols are tried. -/
def all : List Operator :=
  [and, or, eq, ne, le, ge, lt, gt, add, sub, mul, div, rem, pow]

/-- How the operator is written. -/
def symbol : Operator → String
  | and => "&&" | or => "||" | eq => "==" | ne => "!=" | le => "<=" | ge => ">="
  | lt => "<" | gt => ">" | add => "+" | sub => "-" | mul => "*" | div => "/"
  | rem => "%" | pow => "^"

/-- How tightly the operator binds; of two neighbours the greater takes its operands first. -/
def priority : Operator → Nat
  | pow | mul | div | rem => 4
  | add | sub => 3
  | eq | ne | le | ge | lt | gt => 2
  | and | or => 1

end Operator

/-! ## Reserved words and negation -/

/-- The words that stand for a value and can therefore not be paths. -/
inductive Reserved where
  | true | false | null | undefined | nan | infinity
deriving DecidableEq, Repr

namespace Reserved

/-- How the word is written. -/
def word : Reserved → String
  | true => "true" | false => "false" | null => "null" | undefined => "undefined"
  | nan => "NaN" | infinity => "Infinity"

/-- Every reserved word. -/
def all : List Reserved := [true, false, null, undefined, nan, infinity]

/-- The reserved word written `s`, if there is one. -/
def ofWord? (s : String) : Option Reserved := all.find? fun r => r.word = s

/-- The word for a truth value. -/
def ofBool : Bool → Reserved
  | .true => true
  | .false => false

end Reserved

/-- A run of `!`: an odd run denies, an even run asks for the truth value. -/
inductive Negation where
  | not
  | double
deriving DecidableEq, Repr

namespace Negation

/-- A run of `n` marks collapses by parity. -/
def ofRun (n : Nat) : Negation := if n % 2 = 1 then not else double

/-- How the collapsed run is written. -/
def symbol : Negation → String
  | not => "!"
  | double => "!!"

/-- The truth value of a negated operand. -/
def apply : Negation → Bool → Bool
  | not, b => !b
  | double, b => b

end Negation

/-! ## Literals and tokens -/

/-- An operand that stands for itself. -/
inductive Literal where
  | number (n : Float)
  | text (s : String)
  | reserved (r : Reserved)

/-- Whether the literal counts as true: all but zero, NaN, the empty text and the words
that stand for nothing. -/
def Literal.truthy : Literal → Bool
  | .number n => n != 0 && !n.isNaN
  | .text s => s ≠ ""
  | .reserved .true | .reserved .infinity => true
  | .reserved _ => false

/-- One step of a postfix sequence. The arguments of a call are sequences of their own. -/
inductive Token where
  | literal (l : Literal)
  | operator (op : Operator)
  | negate (n : Negation)
  | path (p : String)
  | call (p : String) (args : List (List Token)) (property : Option String)
  | opening
  | closing
  | separator

/-- A postfix sequence. -/
abbrev Postfix := List Token

namespace Postfix

/-- The path, when the sequence is a single plain path. -/
def path? : Postfix → Option String
  | [.path p] => some p
  | _ => none

/-- The text, when the sequence is a single text literal. -/
def text? : Postfix → Option String
  | [.literal (.text s)] => some s
  | _ => none

/-- Whether the sequence calls anything. A call nested in arguments has a call around it, so
the outermost tokens decide. -/
def hasCall (e : Postfix) : Bool :=
  e.any fun
    | .call .. => true
    | _ => false

end Postfix

end Stencil.Expr
