import Stencil.Environment.Basic
import Stencil.Proofs.Task.Watch

/-!
# Stencil.Proofs.Environment.Watch — watched renders of environments

Renders of environments that are watched do what they do unwatched. A template that does not compile
is not rendered, and then nothing is seen.
-/

namespace Stencil

/-- The frames that a request shows to others. -/
def Request.frames : Request → List Frame
  | .declare _ fragment => [fragment.frame]
  | .call _ frame _ => [frame]
  | .custom _ block => [block.frame]
  | .enter _ _ frame _ => [frame]
  | _ => []

/-- The frames that can be seen in an event. -/
def Event.frames : Event → List Frame
  | .asked q => q.frames
  | .answered (.resolve _) (some fragment) => [fragment.frame]
  | _ => []

namespace Environment

variable {H : Host} (e : Environment)

/-- The render of a scope. -/
def watchScope (fuel : Nat) (deadline : Option Deadline) (catalog : Catalog) (scope : Scope)
    (frame : Frame) (host : H.State) : Watched (Rendered H) :=
  ((e.world catalog host).watch fuel deadline scope frame).bind fun r =>
    .pure ⟨r.1.mapError .render, r.2.host, r.2.catalog⟩

/-- A watched render of a scope comes to the same as one that is not watched. -/
theorem watchScope_result (fuel : Nat) (deadline : Option Deadline) (catalog : Catalog)
    (scope : Scope) (frame : Frame) (host : H.State) :
    (e.watchScope fuel deadline catalog scope frame host).result =
      e.renderScope fuel deadline catalog scope frame host := by
  rw [watchScope, Watched.result_bind, World.watch_result, renderScope]
  cases (e.world catalog host).render fuel deadline scope frame <;> rfl

/-- The render of a template text. -/
def watchText (fuel : Nat) (catalog : Catalog) (source : String) (data : Value)
    (host : H.State) (polls : Option Nat) : Watched (Rendered H) :=
  match e.compile source with
  | .ok scope =>
    e.watchScope fuel (e.options.timeout.map (⟨·, polls⟩)) catalog scope (.ofData data) host
  | .error error => .pure ⟨.error (.template error), host, catalog⟩

theorem watchText_result (fuel : Nat) (catalog : Catalog) (source : String) (data : Value)
    (host : H.State) (polls : Option Nat) :
    (e.watchText fuel catalog source data host polls).result =
      e.renderText fuel catalog source data host polls := by
  unfold watchText renderText
  cases e.compile source with
  | ok scope => exact e.watchScope_result fuel (e.options.timeout.map _) catalog scope _ host
  | error error => rfl

/-- The render of the template of a name. -/
def watchNamed (fuel : Nat) (deadline : Option Deadline) (catalog : Catalog) (name : String)
    (data : Value) (host : H.State) : Watched (Rendered H) :=
  match catalog.get e.options.debug name with
  | (.ok scope, catalog) =>
    e.watchScope fuel deadline catalog scope ((Frame.ofData data).named name) host
  | (.error error, catalog) => .pure ⟨.error (.render error), host, catalog⟩

theorem watchNamed_result (fuel : Nat) (deadline : Option Deadline) (catalog : Catalog)
    (name : String) (data : Value) (host : H.State) :
    (e.watchNamed fuel deadline catalog name data host).result =
      e.renderNamed fuel deadline catalog name data host := by
  unfold watchNamed renderNamed
  rcases catalog.get e.options.debug name with ⟨scope | error, catalog'⟩
  · rfl
  · exact e.watchScope_result fuel deadline catalog' _ _ host

end Environment

end Stencil
