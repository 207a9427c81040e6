import Stencil.Error.Render

/-!
# Stencil.Modifier.Basic — modifiers by name
-/

namespace Stencil

/-- What a modifier does to a value, given its arguments. -/
abbrev Modifier := Value → List Value → Except RenderError Value

/-- The modifiers that directives can name, each name once. -/
structure Modifiers where
  entries : List (String × Modifier)

namespace Modifiers

/-- No modifiers. -/
def empty : Modifiers := ⟨[]⟩

/-- Adds a modifier, or replaces the one of that name. -/
def register (ms : Modifiers) (name : String) (m : Modifier) : Modifiers :=
  ⟨(name, m) :: ms.entries.filter (·.1 ≠ name)⟩

/-- The modifier of that name. -/
def get? (ms : Modifiers) (name : String) : Option Modifier := ms.entries.lookup name

/-- Whether there is a modifier of that name. -/
def contains (ms : Modifiers) (name : String) : Bool := (ms.get? name).isSome

/-- All names. -/
def names (ms : Modifiers) : List String := ms.entries.map (·.1)

/-- Applies the modifier of that name. -/
def apply (ms : Modifiers) (name : String) (v : Value) (args : List Value) :
    Except RenderError Value :=
  match ms.get? name with
  | some m => m v args
  | none => .error (.unknownModifier name)

end Modifiers

end Stencil
