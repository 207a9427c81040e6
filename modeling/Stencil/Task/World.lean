import Stencil.Catalog
import Stencil.Modifier.Basic
import Stencil.Task.Host

/-!
# Stencil.Task.World — the state of a render

The world of a render is the host's state together with what the render keeps itself:
whether it has been stopped, the named fragments declared so far, and the templates and
modifiers it can use. `World.answer?` answers the requests that need no waiting.
-/

namespace Stencil

/-- The state of a render. -/
structure World (H : Host) where
  host : H.State
  halted : Bool
  fragments : List (String × Fragment)
  catalog : Catalog
  modifiers : Modifiers
  debug : Bool

namespace World

variable {H : Host}

/-- The world at the start of a render. -/
def start (host : H.State) (catalog : Catalog) (modifiers : Modifiers) (debug : Bool) : World H :=
  ⟨host, false, [], catalog, modifiers, debug⟩

/-- Stops the render. -/
def halt (w : World H) : World H := { w with halted := true }

/-- Hands a text to the sink. A stopped render takes none, and an empty text is not handed
on. -/
def write (w : World H) (text : String) : Except RenderError Unit × World H :=
  if w.halted then (.error .aborted, w)
  else if text = "" then (.ok (), w)
  else
    let (r, host) := H.write text w.host
    (r, { w with host })

/-- Makes sure that what was written has arrived. -/
def flush (w : World H) : Except RenderError Unit × World H :=
  let (r, host) := H.flush w.host
  (r, { w with host })

/-- Keeps a fragment under a name, in place of an earlier one. -/
def declare (w : World H) (name : String) (fragment : Fragment) : World H :=
  { w with fragments := (name, fragment) :: w.fragments.filter (·.1 ≠ name) }

/-- The compiled template of a name. -/
def template (w : World H) (name : String) : Except RenderError Scope × World H :=
  let (r, catalog) := w.catalog.get w.debug name
  (r, { w with catalog })

/-- Answers a request; none for those that may have to wait. -/
def answer? (w : World H) : (q : Request) → Option (q.Answer × World H)
  | .write text => some (w.write text)
  | .isHalted => some (w.halted, w)
  | .halt => some ((), w.halt)
  | .modify name v args => some (w.modifiers.apply name v args, w)
  | .declare name fragment => some ((), w.declare name fragment)
  | .resolve name => some (w.fragments.lookup name, w)
  | .template name => some (w.template name)
  | .call .. | .custom .. | .enter .. => none

/-- Runs a program that does not wait; none if it does. -/
def runNow {α : Type} : Program α → World H → Option (α × World H)
  | .done a, w => some (a, w)
  | .ask q k, w =>
    match w.answer? q with
    | some (a, w) => runNow (k a) w
    | none => none

end World

end Stencil
