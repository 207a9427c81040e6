import Stencil.Text.Case.Table

/-!
# Stencil.Text.Case.Basic — upper and lower case of texts

The case mappings of Unicode for whole texts. A character may become several ones. Only
the small sigma looks at its neighbours: it is written differently at the end of a word.
-/

namespace Stencil.Text

/-- Whether the run holds the code. -/
def CaseRun.contains (r : CaseRun) (n : Nat) : Bool :=
  r.first ≤ n && n ≤ r.last && (n - r.first) % r.step = 0

/-- What a character becomes, given its runs and its expansions. -/
def mapCase (runs : List CaseRun) (expansions : List (Nat × List Nat)) (c : Char) : List Char :=
  match expansions.lookup c.toNat with
  | some codes => codes.map Char.ofNat
  | none =>
    match runs.find? fun r => r.contains c.toNat with
    | some r => [Char.ofNat (c.toNat + r.distance).toNat]
    | none => [c]

/-- The upper case of a character. -/
def upperChar (c : Char) : List Char :=
  if c.toNat < 0x80 then [c.toUpper] else mapCase upperRuns upperExpansions c

/-- The lower case of a character that stands alone. -/
def lowerChar (c : Char) : List Char :=
  if c.toNat < 0x80 then [c.toLower] else mapCase lowerRuns lowerExpansions c

/-- The upper case of a text. -/
def upper (cs : List Char) : List Char := cs.flatMap upperChar

/-- Whether the next character that counts has case. -/
def nextIsCased (cs : List Char) : Bool :=
  match cs.dropWhile caseIgnorable.contains with
  | c :: _ => cased.contains c
  | [] => false

/-- The lower case of the text that follows `before`, which is given backwards. A capital sigma
is at the end of a word when letters stand before it and none behind it. -/
def lowerAfter (before : List Char) : List Char → List Char
  | [] => []
  | c :: cs =>
    let small := if c ≠ 'Σ' then lowerChar c
      else if nextIsCased before && !nextIsCased cs then ['ς'] else ['σ']
    small ++ lowerAfter (c :: before) cs

/-- The lower case of a text. -/
def lower (cs : List Char) : List Char := lowerAfter [] cs

end Stencil.Text
