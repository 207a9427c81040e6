import Stencil.Json.Number

/-!
# Stencil.Json.Reader — reading documents

`Json.read?` cuts a text into marks and scalars and folds them into a document, with the
lists and objects that are still open on a stack. At most 127 may be open at a time. Of
members with the same key the last value counts, at the place of the first.
-/

namespace Stencil.Json

/-! ## Marks and scalars -/

/-- The pieces a document is written with. -/
inductive Piece where
  | openList | closeList | openObject | closeObject | colon | comma
  | scalar (d : Json)

/-- The value of a hexadecimal digit. -/
def hexValue? (c : Char) : Option Nat :=
  if c.isDigit then some (c.toNat - '0'.toNat)
  else if 'a' ≤ c ∧ c ≤ 'f' then some (c.toNat - 'a'.toNat + 10)
  else if 'A' ≤ c ∧ c ≤ 'F' then some (c.toNat - 'A'.toNat + 10)
  else none

/-- The number that four hexadecimal digits spell. -/
def hexUnit? (a b c d : Char) : Option Nat := do
  return (((← hexValue? a) * 16 + (← hexValue? b)) * 16 + (← hexValue? c)) * 16 + (← hexValue? d)

/-- The character of a one-letter escape. -/
def unescape? (c : Char) : Option Char :=
  if c = '"' ∨ c = '\\' ∨ c = '/' then some c
  else if c = 'b' then some (Char.ofNat 8)
  else if c = 'f' then some (Char.ofNat 12)
  else if c = 'n' then some '\n'
  else if c = 'r' then some '\r'
  else if c = 't' then some '\t'
  else none

/-- Reads a text literal behind its opening quote. A code above the first plane is written as
two escaped units; half of such a pair is refused. -/
def takeText? : List Char → Option (List Char × List Char)
  | [] => none
  | '"' :: cs => some ([], cs)
  | '\\' :: 'u' :: a :: b :: c :: d :: '\\' :: 'u' :: e :: f :: g :: h :: cs =>
    match hexUnit? a b c d, hexUnit? e f g h with
    | some high, some low =>
      if 0xD800 ≤ high ∧ high < 0xDC00 then
        if 0xDC00 ≤ low ∧ low < 0xE000 then
          let code := 0x10000 + (high - 0xD800) * 0x400 + (low - 0xDC00)
          (takeText? cs).map fun (t, rest) => (Char.ofNat code :: t, rest)
        else none
      else if 0xDC00 ≤ high ∧ high < 0xE000 then none
      else
        (takeText? ('\\' :: 'u' :: e :: f :: g :: h :: cs)).map fun (t, rest) =>
          (Char.ofNat high :: t, rest)
    | _, _ => none
  | '\\' :: 'u' :: a :: b :: c :: d :: cs =>
    match hexUnit? a b c d with
    | some code =>
      if 0xD800 ≤ code ∧ code < 0xE000 then none
      else (takeText? cs).map fun (t, rest) => (Char.ofNat code :: t, rest)
    | none => none
  | '\\' :: c :: cs =>
    match unescape? c with
    | some x => (takeText? cs).map fun (t, rest) => (x :: t, rest)
    | none => none
  | c :: cs =>
    if c.toNat < 32 ∨ c = '\\' then none
    else (takeText? cs).map fun (t, rest) => (c :: t, rest)
termination_by cs => cs.length

/-- The blanks between pieces. -/
def isGap (c : Char) : Bool := c = ' ' || c = '\n' || c = '\r' || c = '\t'

/-- The piece at the front of a text that starts with `c`. -/
def takePiece? (c : Char) (cs : List Char) : Option (Piece × List Char) :=
  match c with
  | '[' => some (.openList, cs)
  | ']' => some (.closeList, cs)
  | '\x7b' => some (.openObject, cs)
  | '\x7d' => some (.closeObject, cs)
  | ':' => some (.colon, cs)
  | ',' => some (.comma, cs)
  | '"' => (takeText? cs).map fun (t, rest) => (.scalar (.text (String.ofList t)), rest)
  | _ =>
    let word (w : String) (d : Json) : Option (Piece × List Char) :=
      if w.toList.isPrefixOf (c :: cs) then
        some (.scalar d, (c :: cs).drop w.length)
      else none
    word "null" .null <|> word "true" (.bool true) <|> word "false" (.bool false) <|>
      (Number.take? (c :: cs)).map fun (n, rest) => (.scalar (.number n), rest)

/-- The pieces of a text, of which at most `fuel` characters are left. -/
def pieces? : Nat → List Char → Option (List Piece)
  | 0, _ => some []
  | fuel + 1, cs =>
    match cs.dropWhile isGap with
    | [] => some []
    | c :: cs =>
      match takePiece? c cs with
      | none => none
      | some (piece, rest) => (pieces? fuel rest).map (piece :: ·)

/-! ## Documents -/

/-- A list or object that is open: what it holds so far, latest first, and for an object the
key whose value is being read. -/
inductive Open where
  | list (items : List Json)
  | object (members : List (String × Json)) (key : String)

/-- What may come next. -/
inductive Expect where
  /-- A value; right behind `[` also its end. -/
  | value (orClose : Bool)
  /-- A key of these members; right behind `{` also its end. -/
  | key (members : List (String × Json)) (orClose : Bool)
  /-- The colon behind a key. -/
  | colon (members : List (String × Json)) (key : String)
  /-- A comma, or the end of what is open, behind this value. -/
  | next (d : Json)

/-- A member added, latest first: a key that is there already keeps its place. -/
def putMember (members : List (String × Json)) (key : String) (d : Json) :
    List (String × Json) :=
  if members.any (·.1 == key) then
    members.map fun m => if m.1 == key then (key, d) else m
  else (key, d) :: members

/-- How many lists and objects may be open at a time. -/
def maxOpen : Nat := 127

/-- Reads one piece. -/
def readPiece? : List Open → Expect → Piece → Option (List Open × Expect)
  | stack, .value _, .scalar d => some (stack, .next d)
  | stack, .value _, .openList =>
    if stack.length < maxOpen then some (.list [] :: stack, .value true) else none
  | stack, .value _, .openObject =>
    if stack.length < maxOpen then some (.object [] "" :: stack, .key [] true) else none
  | .list [] :: stack, .value true, .closeList => some (stack, .next (.list []))
  | .object .. :: stack, .key [] true, .closeObject => some (stack, .next (.object []))
  | stack, .key members _, .scalar (.text key) => some (stack, .colon members key)
  | .object .. :: stack, .colon members key, .colon =>
    some (.object members key :: stack, .value false)
  | .list items :: stack, .next d, .comma => some (.list (d :: items) :: stack, .value false)
  | .list items :: stack, .next d, .closeList =>
    some (stack, .next (.list (d :: items).reverse))
  | .object members key :: stack, .next d, .comma =>
    some (.object [] "" :: stack, .key (putMember members key d) false)
  | .object members key :: stack, .next d, .closeObject =>
    some (stack, .next (.object (putMember members key d).reverse))
  | _, _, _ => none

/-- Reads pieces to the end of a document. -/
def readPieces? : List Open → Expect → List Piece → Option Json
  | [], .next d, [] => some d
  | _, _, [] => none
  | stack, expect, piece :: pieces =>
    match readPiece? stack expect piece with
    | some (stack, expect) => readPieces? stack expect pieces
    | none => none

/-- The document that a text spells. -/
def read? (text : String) : Option Json :=
  let cs := text.toList
  (pieces? (cs.length + 1) cs).bind (readPieces? [] (.value false))

end Stencil.Json
