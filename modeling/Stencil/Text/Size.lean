/-!
# Stencil.Text.Size — lengths in bytes

Offsets count the bytes of a text's UTF-8 form. `size` is that count for a list of
characters; it is additive, so an offset is the size of what stands before it.
-/

namespace Stencil.Text

/-- The number of bytes of the UTF-8 form of `cs`. -/
def size : List Char → Nat
  | [] => 0
  | c :: cs => c.utf8Size + size cs

@[simp] theorem size_nil : size [] = 0 := rfl

@[simp] theorem size_cons (c : Char) (cs : List Char) :
    size (c :: cs) = c.utf8Size + size cs := rfl

@[simp] theorem size_append (a b : List Char) : size (a ++ b) = size a + size b := by
  induction a with
  | nil => simp
  | cons c a ih => simp [ih, Nat.add_assoc]

end Stencil.Text
