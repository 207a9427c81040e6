import Stencil.Text.Entity.Table

/-!
# Stencil.Text.Entity.Basic — texts inside HTML

Writing replaces the five characters that have a meaning in HTML. Reading knows all
references, by name or by number, that end in a semicolon; what is no reference is
kept. The result of a replacement is not read again.
-/

namespace Stencil.Text.Entity

/-! ## Writing -/

/-- A character as it is written inside a quoted attribute. -/
def encodeChar (c : Char) : List Char :=
  if c = '&' then "&amp;".toList
  else if c = '<' then "&lt;".toList
  else if c = '>' then "&gt;".toList
  else if c = '"' then "&quot;".toList
  else if c = '\'' then "&#x27;".toList
  else [c]

/-- A text as it is written inside a quoted attribute. -/
def encode (cs : List Char) : List Char := cs.flatMap encodeChar

/-! ## Reading -/

/-- The digit a character stands for in a number to this base. -/
def digit? (base : Nat) (c : Char) : Option Nat :=
  let n := c.toNat
  let d :=
    if 48 ≤ n && n ≤ 57 then some (n - 48)
    else if 65 ≤ n && n ≤ 70 then some (n - 55)
    else if 97 ≤ n && n ≤ 102 then some (n - 87)
    else none
  d.filter (· < base)

/-- The number that digits spell, if there are any and they are nothing but digits. -/
def number? (base : Nat) : List Char → Option Nat
  | [] => none
  | cs => cs.foldl (fun n c => do return (← n) * base + (← digit? base c)) (some 0)

/-- Whether a code may be referred to: of the first control characters, only the tab and the
ends of lines may. -/
def isReferable (n : Nat) : Bool := n = 0x09 || n = 0x0A || n = 0x0D || 0x20 ≤ n

/-- The character with a code. -/
def charOfCode? (n : Nat) : Option Char :=
  if isReferable n && n.isValidChar then some (Char.ofNat n) else none

/-- An entry of the table: a name, and the code of its character. -/
def readEntry (entry : String) : Option (String × Char) :=
  match entry.splitOn "=" with
  | [name, code] => do return (name, Char.ofNat (← number? 16 code.toList))
  | _ => none

/-- All names, and the characters they stand for. -/
def names : List (String × Char) :=
  markupEntities ++
    (entityTable.splitOn " ").filterMap fun entry => readEntry entry.trimAscii.toString

/-- What stands between an ampersand and the semicolon behind it, if that is not cut off by
another ampersand. -/
def body? (cs : List Char) : Option (List Char × List Char) :=
  let inside := cs.takeWhile fun c => c ≠ ';' && c ≠ '&'
  match cs.drop inside.length with
  | ';' :: rest => some (inside, rest)
  | _ => none

/-- The character that a reference stands for. -/
def referenced? : List Char → Option Char
  | '#' :: 'x' :: digits | '#' :: 'X' :: digits => do charOfCode? (← number? 16 digits)
  | '#' :: digits => do charOfCode? (← number? 10 digits)
  | name => names.lookup (String.ofList name)

/-- The reference behind an ampersand, and the text behind the reference. -/
def reference? (cs : List Char) : Option (Char × List Char) := do
  let (inside, rest) ← body? cs
  return (← referenced? inside, rest)

/-- Behind a semicolon there is less text. -/
theorem body?_length {cs inside rest : List Char} (h : body? cs = some (inside, rest)) :
    rest.length < cs.length := by
  unfold body? at h
  dsimp only at h
  split at h
  next heq =>
    have hlen := congrArg List.length heq
    simp only [List.length_drop, List.length_cons] at hlen
    cases h
    omega
  · cases h

/-- Behind a reference there is less text. -/
theorem reference?_length {cs rest : List Char} {found : Char}
    (h : reference? cs = some (found, rest)) : rest.length < cs.length := by
  simp only [reference?, Option.bind_eq_bind, Option.bind_eq_some_iff, Option.pure_def,
    Option.some.injEq, Prod.mk.injEq] at h
  obtain ⟨⟨_, _⟩, hbody, _, _, _, rfl⟩ := h
  exact body?_length hbody

/-- The text that a text inside HTML stands for. -/
def decode : List Char → List Char
  | [] => []
  | c :: cs =>
    if c = '&' then
      match _h : reference? cs with
      | some (found, rest) => found :: decode rest
      | none => c :: decode cs
    else c :: decode cs
termination_by cs => cs.length
decreasing_by
  · have := reference?_length _h
    simp only [List.length_cons]
    omega
  · simp
  · simp

end Stencil.Text.Entity
