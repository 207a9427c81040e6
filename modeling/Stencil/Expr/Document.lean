import Stencil.Expr.Basic
import Stencil.Json.Basic

/-!
# Stencil.Expr.Document — expressions as documents

The JSON form of postfix sequences, for tools that look at templates. How a number is
shown is up to the one who asks.
-/

namespace Stencil.Expr

/-- The word that stands for an operator in documents. -/
def Operator.tag : Operator → String
  | and => "and" | or => "or" | eq => "eq" | ne => "ne" | le => "le" | ge => "ge"
  | lt => "lt" | gt => "gt" | add => "add" | sub => "sub" | mul => "mul" | div => "div"
  | rem => "rem" | pow => "pow"

/-- A tag without anything more. -/
def tagged (tag : String) : Json := .object [("type", .text tag)]

/-- A tag and what belongs to it. -/
def taggedWith (tag : String) (d : Json) : Json := .object [("type", .text tag), ("value", d)]

mutual

/-- A token as a document. -/
def Token.toJson (number : Float → Json) : Token → Json
  | .literal (.number x) => taggedWith "number" (number x)
  | .literal (.text s) => taggedWith "string" (.text s)
  | .literal (.reserved r) => taggedWith "reserved" (.text r.word)
  | .operator op => taggedWith "operator" (.text op.tag)
  | .negate n => taggedWith "negate" (.text n.symbol)
  | .path p => taggedWith "context_ref" (.object [("path", .text p)])
  | .call p args property =>
    taggedWith "context_ref" (.object ([("path", .text p)] ++
      (property.map fun q => ("property", .text q)).toList ++
      [("args", .list (argumentsToJson number args))]))
  | .opening => tagged "paren_open"
  | .closing => tagged "paren_close"
  | .separator => tagged "separator"

/-- Tokens as documents. -/
def tokensToJson (number : Float → Json) : List Token → List Json
  | [] => []
  | t :: ts => t.toJson number :: tokensToJson number ts

/-- Sequences as documents. -/
def argumentsToJson (number : Float → Json) : List (List Token) → List Json
  | [] => []
  | e :: es => .list (tokensToJson number e) :: argumentsToJson number es

end

/-- A sequence as a document. -/
def Postfix.toJson (number : Float → Json) (e : Postfix) : Json := .list (tokensToJson number e)

end Stencil.Expr
