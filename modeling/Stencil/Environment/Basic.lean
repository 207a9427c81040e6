import Stencil.Modifier.Builtin
import Stencil.Options
import Stencil.Task.Basic

/-!
# Stencil.Environment.Basic — rendering templates

An environment holds what a render needs besides the template and its data: the options
and the modifiers. Templates are kept in a catalog, which environments may share, so a
render is given the catalog and gives it back with what it has compiled.
-/

namespace Stencil

/-- Options and modifiers. -/
structure Environment where
  options : Options
  modifiers : Modifiers

/-- How a render ended, and what it left behind. -/
structure Rendered (H : Host) where
  outcome : Except Error Unit
  host : H.State
  catalog : Catalog

namespace World

variable {H : Host} [Evaluator]

/-- Renders a scope to its end, in at most `fuel` steps, and sees that what it wrote arrives.
None means that the fuel was too little, or that the render waits for ever. -/
def render (fuel : Nat) (deadline : Option Deadline) (scope : Scope) (frame : Frame) (w : World H) :
    Option (Outcome × World H) := do
  let (task, w) ← Task.start scope [] frame (.start 0) w
  let (outcome, w) ← Task.run deadline fuel task w
  match outcome with
  | .ok () => return w.flush
  | .error e => return (.error e, w)

end World

namespace Environment

variable {H : Host}

/-- An environment with these options and the modifiers that every template has. -/
def ofOptions (options : Options) : Environment := ⟨options, .builtin⟩

/-- Adds a modifier. -/
def addModifier (e : Environment) (name : String) (m : Modifier) : Environment :=
  { e with modifiers := e.modifiers.register name m }

/-- Compiles a template text. -/
def compile (e : Environment) (source : String) : Except TemplateError Scope :=
  Scope.compileText e.options.debug source

/-- The world in which this environment starts a render. -/
def world (e : Environment) (catalog : Catalog) (host : H.State) : World H :=
  World.start host catalog e.modifiers e.options.debug

/-- Renders a scope. -/
def renderScope (e : Environment) (fuel : Nat) (deadline : Option Deadline) (catalog : Catalog)
    (scope : Scope) (frame : Frame) (host : H.State) : Option (Rendered H) :=
  ((e.world catalog host).render fuel deadline scope frame).map fun (outcome, w) =>
    ⟨outcome.mapError .render, w.host, w.catalog⟩

/-- Compiles a template text and renders it. After so many polls its time is over. -/
def renderText (e : Environment) (fuel : Nat) (catalog : Catalog) (source : String)
    (data : Value) (host : H.State) (polls : optParam (Option Nat) none) : Option (Rendered H) :=
  match e.compile source with
  | .ok scope =>
    e.renderScope fuel (e.options.timeout.map (⟨·, polls⟩)) catalog scope (.ofData data) host
  | .error error => some ⟨.error (.template error), host, catalog⟩

/-- Renders the template of a name. Its frame knows the name as it was given. -/
def renderNamed (e : Environment) (fuel : Nat) (deadline : Option Deadline) (catalog : Catalog)
    (name : String) (data : Value) (host : H.State) : Option (Rendered H) :=
  match catalog.get e.options.debug name with
  | (.ok scope, catalog) =>
    e.renderScope fuel deadline catalog scope ((Frame.ofData data).named name) host
  | (.error error, catalog) => some ⟨.error (.render error), host, catalog⟩

end Environment

end Stencil
