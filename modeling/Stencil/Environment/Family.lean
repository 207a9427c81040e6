import Stencil.Environment.Basic

/-!
# Stencil.Environment.Family — environments that share their templates

A copy of an environment keeps the templates in common with it: one that is added through
either is there for both. Options and modifiers are each one's own from then on.
-/

namespace Stencil

/-- Environments that are copies of one another, and the templates they share. -/
structure Family where
  catalog : Catalog
  members : List Environment

namespace Family

variable {H : Host}

/-- An environment that has no copies yet. -/
def single (e : Environment) : Family := ⟨.empty, [e]⟩

/-- Adds a template for all members. -/
def addTemplate (family : Family) (name source : String) : Family :=
  { family with catalog := family.catalog.add name source }

/-- Changes one member. -/
def modify (family : Family) (i : Nat) (change : Environment → Environment) : Family :=
  { family with members := family.members.modify i change }

/-- Adds a copy of one member, behind all others. -/
def copy (family : Family) (i : Nat) : Family :=
  { family with members := family.members ++ (family.members[i]?).toList }

/-- Lets one member render a template text. -/
def renderText (family : Family) (fuel : Nat) (i : Nat) (source : String) (data : Value)
    (host : H.State) (polls : optParam (Option Nat) none) :
    Option (Except Error Unit × H.State × Family) := do
  let e ← family.members[i]?
  let r ← e.renderText fuel family.catalog source data host polls
  return (r.outcome, r.host, { family with catalog := r.catalog })

/-- Lets one member render the template of a name. -/
def renderNamed (family : Family) (fuel : Nat) (i : Nat) (deadline : Option Deadline)
    (name : String) (data : Value) (host : H.State) :
    Option (Except Error Unit × H.State × Family) := do
  let e ← family.members[i]?
  let r ← e.renderNamed fuel deadline family.catalog name data host
  return (r.outcome, r.host, { family with catalog := r.catalog })

end Family

end Stencil
