import Stencil.Scope.Formula

/-!
# Stencil.Scope.Basic — compiled templates

A scope is a template, or the body of a block, as its directives have been read: a list of
steps in the order of the template. How they are run is another matter (`Stencil.Scope.Layout`).
-/

namespace Stencil

/-- A modifier whose arguments are still to be evaluated. -/
structure PendingModifier where
  name : String
  args : List Formula

/-- What all directives have in common: the context they see, the calls made before they run,
their modifiers, and where their errors are placed. -/
structure Head where
  context : Option String
  calls : List Call
  modifiers : List PendingModifier
  position : Option Position

/-- The name of the template to include. -/
inductive TemplateName where
  | fixed (name : String)
  | computed (formula : Formula)

/-- The condition of a branch and the calls it makes. -/
structure Test where
  calls : List Call
  formula : Formula

mutual

/-- One step of a scope. -/
inductive Step where
  | text (s : String)
  | output (head : Head) (value : Formula)
  /-- Runs the first branch whose test holds. -/
  | choice (alternatives : List Alternative)
  | iterate (head : Head) (collection : Formula) (body : Scope)
  | custom (head : Head) (path : String) (bodies : List Scope)
  | declare (head : Head) (name : String) (body : Scope)
  | render (head : Head) (name : String)
  | inclusion (head : Head) (name : TemplateName)

/-- A branch of a choice; one without a test always holds. -/
inductive Alternative where
  | mk (head : Head) (test : Option Test) (body : Scope)

/-- A compiled template or body. -/
inductive Scope where
  | mk (steps : List Step)

end

instance : Inhabited Scope := ⟨.mk []⟩

/-- The steps of a scope. -/
def Scope.steps : Scope → List Step
  | mk steps => steps

end Stencil
