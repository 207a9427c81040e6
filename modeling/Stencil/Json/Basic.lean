import Stencil.Decimal.Layout

/-!
# Stencil.Json.Basic — JSON documents

The type of documents, and their text: on one line (`Json.compact`) or indented by two
spaces a level (`Json.pretty`).
-/

namespace Stencil

/-- A number keeps whether it was a whole number, because a real number shows its point. -/
inductive Json.Number where
  | integer (n : Int)
  | real (x : Float)

/-- A document. The members of an object keep their order. -/
inductive Json where
  | null
  | bool (b : Bool)
  | number (n : Json.Number)
  | text (s : String)
  | list (items : List Json)
  | object (members : List (String × Json))

namespace Json

instance : Inhabited Json := ⟨null⟩

/-! ## Scalars -/

/-- Real numbers: the fewest digits that read back, with an exponent below `1e-5` and from
`1e16` on; a tie goes to the even digit. -/
def realLayout : Decimal.Layout where
  positional e := -5 ≤ e && e ≤ 15
  pointZero := true
  tie := .toEven

/-- A number; what is not finite has no number in JSON and is written `null`. -/
def Number.write : Number → String
  | integer n => toString n
  | real x => ((Decimal.Binary.ofFloat? x).map realLayout.write).getD "null"

/-- The float nearest to the number. -/
def Number.toFloat : Number → Float
  | integer n => .ofInt n
  | real x => x

/-- A digit of a hexadecimal number. -/
def hexDigit (n : Nat) : Char := ("0123456789abcdef".toList[n]?).getD '0'

/-- A character of a text literal: quotes, backslashes and control characters are escaped. -/
def escape (c : Char) : List Char :=
  if c = '"' then ['\\', '"']
  else if c = '\\' then ['\\', '\\']
  else if c = '\n' then ['\\', 'n']
  else if c = '\r' then ['\\', 'r']
  else if c = '\t' then ['\\', 't']
  else if c.toNat = 8 then ['\\', 'b']
  else if c.toNat = 12 then ['\\', 'f']
  else if c.toNat < 32 then
    ['\\', 'u', '0', '0', hexDigit (c.toNat / 16), hexDigit (c.toNat % 16)]
  else [c]

/-- A text literal. -/
def quote (s : String) : String := String.ofList ('"' :: s.toList.flatMap escape ++ ['"'])

/-! ## One line -/

mutual

/-- The document on one line. -/
def compact : Json → String
  | null => "null"
  | bool b => if b then "true" else "false"
  | number n => n.write
  | text s => quote s
  | list items => "[" ++ ",".intercalate (compactItems items) ++ "]"
  | object members => "\x7b" ++ ",".intercalate (compactMembers members) ++ "\x7d"

/-- The items of a list, each on one line. -/
def compactItems : List Json → List String
  | [] => []
  | d :: ds => d.compact :: compactItems ds

/-- The members of an object, each on one line. -/
def compactMembers : List (String × Json) → List String
  | [] => []
  | (key, d) :: ds => (quote key ++ ":" ++ d.compact) :: compactMembers ds

end

/-! ## Indented -/

/-- Parts on lines of their own between two brackets; without parts the brackets touch. -/
def bracketed (opening closing indent : String) (parts : List String) : String :=
  if parts = [] then opening ++ closing
  else
    let lines := parts.map fun part => "\n" ++ indent ++ "  " ++ part
    opening ++ ",".intercalate lines ++ "\n" ++ indent ++ closing

mutual

/-- The document indented inside text that is itself indented by `indent`. -/
def prettyAt (indent : String) : Json → String
  | null => "null"
  | bool b => if b then "true" else "false"
  | number n => n.write
  | text s => quote s
  | list items => bracketed "[" "]" indent (prettyItems (indent ++ "  ") items)
  | object members => bracketed "\x7b" "\x7d" indent (prettyMembers (indent ++ "  ") members)

/-- The items of a list, each indented. -/
def prettyItems (indent : String) : List Json → List String
  | [] => []
  | d :: ds => d.prettyAt indent :: prettyItems indent ds

/-- The members of an object, each indented. -/
def prettyMembers (indent : String) : List (String × Json) → List String
  | [] => []
  | (key, d) :: ds => (quote key ++ ": " ++ d.prettyAt indent) :: prettyMembers indent ds

end

/-- The document with every item and member on a line of its own. -/
def pretty (d : Json) : String := d.prettyAt ""

/-! ## Access -/

/-- The member of an object with this key. -/
def member? (key : String) : Json → Option Json
  | object members => members.lookup key
  | _ => none

end Json

end Stencil
