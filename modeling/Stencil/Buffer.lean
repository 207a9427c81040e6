/-!
# Stencil.Buffer — text that has been written

The simplest place for a render to write to.
-/

namespace Stencil

/-- Written text. -/
structure Buffer where
  contents : String
deriving DecidableEq, Repr

namespace Buffer

/-- Nothing written yet. -/
def empty : Buffer := ⟨""⟩

/-- Writes a text behind what is there. -/
def write (b : Buffer) (text : String) : Buffer := ⟨b.contents ++ text⟩

/-- Takes out all that was written. -/
def take (b : Buffer) : String × Buffer := (b.contents, empty)

/-- Whether there is nothing. -/
def isEmpty (b : Buffer) : Bool := b.contents = ""

/-- Texts written one after the other are written as one. -/
@[simp] theorem write_write (b : Buffer) (s t : String) :
    (b.write s).write t = b.write (s ++ t) := by
  simp [write, String.append_assoc]

@[simp] theorem contents_write (b : Buffer) (text : String) :
    (b.write text).contents = b.contents ++ text := rfl

end Buffer

end Stencil
