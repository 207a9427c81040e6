import Stencil.Text.Position

/-!
# Stencil.Text.Lines — an index of the lines of a text

The place of a byte offset can be told from the offsets at which the lines of a text start: its line
is the last one that starts at or before it, and its column is counted in the slice between the two.
-/

namespace Stencil

namespace Text

/-- What stands behind the first `n` bytes, if they end between two characters. -/
def drop? : List Char → Nat → Option (List Char)
  | cs, 0 => some cs
  | [], _ + 1 => none
  | c :: cs, n + 1 => if c.utf8Size ≤ n + 1 then drop? cs (n + 1 - c.utf8Size) else none

/-- The first `n` bytes, if they end between two characters. -/
def take? : List Char → Nat → Option (List Char)
  | _, 0 => some []
  | [], _ + 1 => none
  | c :: cs, n + 1 =>
    if c.utf8Size ≤ n + 1 then (take? cs (n + 1 - c.utf8Size)).map (c :: ·) else none

/-- The bytes from one offset to another, if there are so many and both stand between two
characters. -/
def slice? (cs : List Char) (start stop : Nat) : Option (List Char) :=
  if start ≤ stop then (drop? cs start).bind (take? · (stop - start)) else none

/-- Where the lines of a text start, other than the first, when the text starts at this offset. -/
def lineStarts (offset : Nat) : List Char → List Nat
  | [] => []
  | c :: cs =>
    if c = '\n' then (offset + 1) :: lineStarts (offset + 1) cs
    else lineStarts (offset + c.utf8Size) cs

end Text

/-- The byte offsets at which the lines of a text start. -/
structure LineIndex where
  starts : List Nat

namespace LineIndex

/-- The index of a text. -/
def ofText (source : List Char) : LineIndex := ⟨0 :: Text.lineStarts 0 source⟩

/-- The position of an offset; there is none before the first line. Where an offset is not between
two characters its column is counted in bytes. -/
def position (index : LineIndex) (source : List Char) (offset : Nat) : Option Position := do
  let line := (index.starts.takeWhile (· ≤ offset)).length
  let start ← if line = 0 then none else index.starts[line - 1]?
  let before := match Text.slice? source start offset with
    | some slice => slice.length
    | none => offset - start
  return ⟨offset, line, before + 1⟩

end LineIndex

/-- The position of an offset, by the index of the lines. -/
def Position.find? (source : List Char) (offset : Nat) : Option Position :=
  (LineIndex.ofText source).position source offset

end Stencil
