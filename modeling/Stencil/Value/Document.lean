import Stencil.Json.Basic
import Stencil.Value.Basic

/-!
# Stencil.Value.Document — values from documents

The value that a document stands for. Every list and object in it becomes a sequence or
object of its own, so they are numbered, from a first number on that is not in use.
-/

namespace Stencil.Value

mutual

/-- The value of a document, and the first number that is then not in use. -/
def ofJson (next : Nat) : Json → Value × Nat
  | .null => (null, next)
  | .bool b => (bool b, next)
  | .number n => (number n.toFloat, next)
  | .text s => (text s, next)
  | .list ds =>
    let (items, after) := itemsOfJson (next + 1) ds
    (array (.given next) items, after)
  | .object ds =>
    let (members, after) := membersOfJson (next + 1) ds
    (object (.given next) (.ofList members), after)

/-- The values of items. -/
def itemsOfJson (next : Nat) : List Json → List Value × Nat
  | [] => ([], next)
  | d :: ds =>
    let (v, next) := ofJson next d
    let (vs, next) := itemsOfJson next ds
    (v :: vs, next)

/-- The values of members. -/
def membersOfJson (next : Nat) : List (String × Json) → List (String × Value) × Nat
  | [] => ([], next)
  | (key, d) :: ds =>
    let (v, next) := ofJson next d
    let (vs, next) := membersOfJson next ds
    ((key, v) :: vs, next)

end

end Stencil.Value
