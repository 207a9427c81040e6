import Stencil.Text.Size

/-!
# Stencil.Text.Position — places in a text

A position is a byte offset with the line and column a reader would count: lines from 1,
and columns from 1 in characters. `Position.past` moves over a text, so the position of
a character is that of the start moved over all that stands before it.
-/

namespace Stencil

/-- A place in a text. -/
structure Position where
  /-- In bytes, from 0. -/
  offset : Nat
  /-- From 1. -/
  line : Nat
  /-- In characters, from 1. -/
  column : Nat
deriving DecidableEq, Repr

namespace Position

/-- The start of a text. -/
def start : Position := ⟨0, 1, 1⟩

/-- The position behind one character. -/
def advance (p : Position) (c : Char) : Position :=
  if c = '\n' then ⟨p.offset + c.utf8Size, p.line + 1, 1⟩
  else ⟨p.offset + c.utf8Size, p.line, p.column + 1⟩

/-- The position behind a text that starts here. -/
def past (p : Position) (cs : List Char) : Position := cs.foldl advance p

@[simp] theorem past_nil (p : Position) : p.past [] = p := rfl

@[simp] theorem past_cons (p : Position) (c : Char) (cs : List Char) :
    p.past (c :: cs) = (p.advance c).past cs := rfl

@[simp] theorem past_append (p : Position) (a b : List Char) :
    p.past (a ++ b) = (p.past a).past b := List.foldl_append

/-- The offset grows by the bytes of the character. -/
@[simp] theorem advance_offset (p : Position) (c : Char) :
    (p.advance c).offset = p.offset + c.utf8Size := by
  unfold advance
  split <;> rfl

/-- Offsets move by the size of the text. -/
@[simp] theorem past_offset (p : Position) (cs : List Char) :
    (p.past cs).offset = p.offset + Text.size cs := by
  induction cs generalizing p with
  | nil => rfl
  | cons c cs ih => simp [ih, Nat.add_assoc]

/-- The position `bytes` bytes into a text that starts here. -/
def into (p : Position) (cs : List Char) (bytes : Nat) : Position :=
  match cs with
  | [] => p
  | c :: cs => if bytes = 0 then p else (p.advance c).into cs (bytes - c.utf8Size)

/-- Behind a first part the position is the one past that part. -/
theorem into_append (p : Position) (a b : List Char) :
    p.into (a ++ b) (Text.size a) = p.past a := by
  induction a generalizing p with
  | nil => cases b <;> simp [into]
  | cons c a ih =>
    have hc : c.utf8Size ≠ 0 := Nat.ne_of_gt c.utf8Size_pos
    simp [into, ih, hc]

/-- The position in the words of a message. -/
def describe (p : Position) : String :=
  "line " ++ toString p.line ++ ", column " ++ toString p.column

end Position

/-- A piece of a text, and where it starts. -/
structure Span where
  start : Position
  text : List Char
deriving DecidableEq, Repr

end Stencil
