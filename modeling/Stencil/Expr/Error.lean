/-!
# Stencil.Expr.Error — why a text is not an expression

A fault names its cause; an error places it at a byte offset of the text.
-/

namespace Stencil.Expr

/-- What a lexeme is to the grammar, with the two ends of a text. -/
inductive Role where
  | start | operator | negation | literal | reference | opening | closing | separator | finish
deriving DecidableEq, Repr

/-- How a role is named in a message. -/
def Role.describe : Role → String
  | start => "start of expression"
  | operator => "operator"
  | negation => "negation"
  | literal => "literal"
  | reference => "context reference"
  | opening => "'('"
  | closing => "')'"
  | separator => "','"
  | finish => "end of expression"

/-- Why a text is not an expression. -/
inductive Fault where
  /-- No lexeme starts with this character. -/
  | character (c : Char)
  /-- A text literal without its closing quote. -/
  | unterminated
  /-- No expression has `found` right after `previous`. -/
  | unexpected (found previous : Role)
  /-- A `)` or `,` that no open parenthesis allows. -/
  | stray (found : Role)
  /-- The text ends inside a group. -/
  | openGroup
  /-- The text ends inside the arguments of a call. -/
  | openArguments
deriving DecidableEq, Repr

/-- The wording of a fault. -/
def Fault.message : Fault → String
  | character c => "unexpected character '" ++ c.toString ++ "'"
  | unterminated => "unterminated string literal"
  | unexpected found previous =>
      "unexpected " ++ found.describe ++ " after " ++ previous.describe
  | stray found => "unexpected " ++ found.describe
  | openGroup => "missing ')'"
  | openArguments => "missing ')' after arguments"

/-- A fault at a byte offset. -/
structure Error where
  fault : Fault
  offset : Nat
deriving DecidableEq, Repr

namespace Error

/-- The wording of the fault alone. -/
def message (e : Error) : String := e.fault.message

/-- The wording with the place. -/
def display (e : Error) : String :=
  e.message ++ " at position " ++ toString e.offset

/-- The same fault in a text that stands `base` bytes into another. -/
def shift (e : Error) (base : Nat) : Error := { e with offset := e.offset + base }

end Error

end Stencil.Expr
