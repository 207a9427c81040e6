import Stencil.Expr.Name

/-!
# Stencil.Frame.Path — paths through data

A path starts at a frame and follows keys: `~` starts at the outermost frame, a run of
dots at the current frame or, for each dot after the first, one frame further out.
`Path.ofString` gives every text a meaning; `Path.isValid` tells which texts are written
as the path grammar wants them.
-/

namespace Stencil

/-- The frame at which a path starts. -/
inductive Anchor where
  | outermost
  /-- So many frames outwards, as far as there are any. -/
  | up (hops : Nat)
deriving DecidableEq, Repr

/-- A starting frame and the keys to follow from there. -/
structure Path where
  anchor : Anchor
  keys : List String
deriving DecidableEq, Repr

namespace Path

/-- The pieces between the dots of a text. -/
def pieces : List Char → List (List Char)
  | [] => [[]]
  | c :: cs =>
    if c = '.' then [] :: pieces cs
    else
      match pieces cs with
      | [] => [[c]]
      | p :: ps => (c :: p) :: ps

/-- The keys of a dotted text; empty pieces do not count. -/
def keysOf (cs : List Char) : List String :=
  ((pieces cs).filter (· ≠ [])).map String.ofList

/-- The path that a list of characters spells. -/
def ofChars : List Char → Path
  | '~' :: cs => ⟨.outermost, keysOf cs⟩
  | cs =>
    let dots := (cs.takeWhile (· == '.')).length
    ⟨.up (dots - 1), keysOf (cs.drop dots)⟩

/-- The path that a text spells. -/
def ofString (s : String) : Path := ofChars s.toList

/-- Whether a text is a dotted name behind `~`, behind dots or behind nothing. -/
def isValid (s : String) : Bool :=
  match Expr.Name.takePath? s.toList with
  | some (_, []) => true
  | _ => false

end Path

end Stencil
