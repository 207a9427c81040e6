import Stencil.Error.Render
import Stencil.Scope.Build

/-!
# Stencil.Catalog — templates by name

A template may be named with or without one of the known extensions. Sources are
compiled when they are first asked for, and the result is kept until the source is
replaced. A source that does not compile leaves the catalog as it was.
-/

namespace Stencil

/-- The extensions that a template name may carry. -/
def templateExtensions : List String := [".weft", ".txt"]

/-- A text without this ending, if it has the ending. -/
def stripEnding? (ending name : List Char) : Option (List Char) :=
  if ending.reverse.isPrefixOf name.reverse then some (name.take (name.length - ending.length))
  else none

/-- The name without its extension. Of a name that is nothing but an extension nothing is
taken away. -/
def normalizeName (name : String) : String :=
  match templateExtensions.findSome? fun e => stripEnding? e.toList name.toList with
  | some (c :: cs) => String.ofList (c :: cs)
  | _ => name

/-- Template sources by name, and what has been compiled of them. -/
structure Catalog where
  sources : List (String × String)
  compiled : List (String × Scope)

namespace Catalog

/-- No templates. -/
def empty : Catalog := ⟨[], []⟩

/-- The entries of other names. -/
def without {α : Type} (entries : List (String × α)) (name : String) : List (String × α) :=
  entries.filter (·.1 ≠ name)

/-- Adds a template, or replaces the one of that name. -/
def add (c : Catalog) (name source : String) : Catalog :=
  let key := normalizeName name
  ⟨(key, source) :: without c.sources key, without c.compiled key⟩

/-- The source of a template. -/
def source? (c : Catalog) (name : String) : Option String :=
  c.sources.lookup (normalizeName name)

/-- Whether there is a template of that name. -/
def contains (c : Catalog) (name : String) : Bool := (c.source? name).isSome

/-- The names of all templates. -/
def names (c : Catalog) : List String := c.sources.map (·.1)

/-- How many templates there are. -/
def size (c : Catalog) : Nat := c.sources.length

/-- The compiled template of that name, and the catalog that keeps it. -/
def get (c : Catalog) (debug : Bool) (name : String) : Except RenderError Scope × Catalog :=
  let key := normalizeName name
  match c.compiled.lookup key, c.sources.lookup key with
  | some scope, _ => (.ok scope, c)
  | none, none => (.error (.templateNotFound key), c)
  | none, some source =>
    match Scope.compileText debug source with
    | .ok scope => (.ok scope, { c with compiled := (key, scope) :: c.compiled })
    | .error e => (.error (.invalidTemplate key e), c)

end Catalog

end Stencil
