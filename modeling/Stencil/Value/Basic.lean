import Stencil.Decimal.Binary
import Stencil.Decimal.Reading
import Stencil.Value.Identity
import Stencil.Value.Members

/-!
# Stencil.Value.Basic — the values templates work with

JSON data with two additions: `undefined`, what a path that leads nowhere finds, and
functions. Functions are known by number only; what they do is the host's affair.

Sequences, objects and functions are compared by identity. Those that come from outside
carry the identity they were given. One that is made on the way is `fresh` and equals
nothing until a frame holds it; then it is known by the place where that frame was made.
-/

namespace Stencil

/-- A value. -/
inductive Value where
  | undefined
  | null
  | bool (b : Bool)
  | number (n : Float)
  | text (s : String)
  | array (id : Identity) (items : List Value)
  | object (id : Identity) (members : Members Value)
  | function (f : Nat)

namespace Value

instance : Inhabited Value := ⟨undefined⟩

/-! ## Kinds -/

/-- The name of the value's kind. -/
def kind : Value → String
  | undefined => "undefined"
  | null => "null"
  | bool _ => "bool"
  | number _ => "number"
  | text _ => "string"
  | array .. => "array"
  | object .. => "object"
  | function _ => "function"

/-- Whether the value stands for nothing. -/
def isNullish : Value → Bool
  | undefined | null => true
  | _ => false

/-- Whether the value counts as true: all but zero, NaN, the empty text, `false` and what
stands for nothing. -/
def truthy : Value → Bool
  | undefined | null => false
  | bool b => b
  | number n => n != 0 && !n.isNaN
  | text s => s ≠ ""
  | array .. | object .. | function _ => true

/-- Whether the operator `+` joins the value as text. -/
def isTextual : Value → Bool
  | text _ | array .. | object .. | function _ => true
  | _ => false

/-- The value as a number: nothing and `false` are zero, a text is the number it spells, and
what has no number is NaN. -/
def toNumber : Value → Float
  | undefined | array .. | object .. | function _ => 0 / 0
  | null => 0
  | bool b => if b then 1 else 0
  | number n => n
  | text s =>
    match Text.trim s.toList with
    | [] => 0
    | cs => (Decimal.read? cs).getD (0 / 0)

/-! ## Properties -/

/-- The property of an object; nothing else has properties. -/
def property (key : String) : Value → Value
  | object _ members => (members.find? key).getD undefined
  | _ => undefined

/-- The value as a frame made at this place holds it. -/
def heldAt (site : Site) : Value → Value
  | array id items => array (id.heldAt site) items
  | object id members => object (id.heldAt site) members
  | v => v

/-! ## Comparison -/

/-- Equality as templates see it: nothing equals nothing, scalars of different kinds compare
as numbers, and the rest by identity. -/
def looseEq : Value → Value → Bool
  | undefined, b | null, b => b.isNullish
  | a, undefined | a, null => a.isNullish
  | text a, text b => a = b
  | array a _, array b _ => a.same b
  | object a _, object b _ => a.same b
  | function a, function b => a = b
  | array .., _ | object .., _ | function _, _ => false
  | _, array .. | _, object .. | _, function _ => false
  | a, b => a.toNumber == b.toNumber

/-- The order of two numbers; none when one of them is NaN. -/
def compareFloats (a b : Float) : Option Ordering :=
  if a < b then some .lt else if a > b then some .gt else if a == b then some .eq else none

/-- Texts are ordered by their characters, all else as numbers. -/
def order? : Value → Value → Option Ordering
  | text a, text b => some (if a < b then .lt else if a = b then .eq else .gt)
  | a, b => compareFloats a.toNumber b.toNumber

mutual

/-- Equality of contents. The order of members does not matter, and functions are compared by
identity. -/
def sameContent : Value → Value → Bool
  | undefined, undefined | null, null => true
  | bool a, bool b => a = b
  | number a, number b => a == b
  | text a, text b => a = b
  | array _ a, array _ b => sameItems a b
  | object _ ⟨keys, _, value⟩, object _ b =>
    keys.length = b.keys.length && (List.finRange keys.length).all fun i =>
      match b.find? (keys.get i) with
      | some w => (value i).sameContent w
      | none => false
  | function a, function b => a = b
  | _, _ => false

/-- Equality of contents item by item. -/
def sameItems : List Value → List Value → Bool
  | [], [] => true
  | a :: as, b :: bs => a.sameContent b && sameItems as bs
  | _, _ => false

end

end Value

end Stencil
