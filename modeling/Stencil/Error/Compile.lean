import Stencil.Segment.Error
import Stencil.Text.Quoted

/-!
# Stencil.Error.Compile — why segments do not form a template

A `CompileFault` names what is wrong with the structure of a list of segments. The error
that leaves the compiler shows it, with its place, only when details are asked for;
otherwise it has one fixed wording.
-/

namespace Stencil

/-- What is wrong with the structure of a list of segments. -/
inductive CompileFault where
  | missingClosing (kind : Kind)
  | unexpectedClosing (kind : Kind)
  | unexpectedContinuation (kind : Kind)
  | tooManySegments (kind : Kind)
  | emptyConditional
  | misplacedElse
  | missingExpression (kind : Kind)
  | invalidName (kind : Kind)
  /-- A text that holds this part, which looks like a directive. -/
  | suspiciousText (found : String)
deriving DecidableEq, Repr

/-- The wording of a fault. -/
def CompileFault.message : CompileFault → String
  | missingClosing kind => kind.describe ++ " block is missing its closing segment"
  | unexpectedClosing kind => "unexpected closing " ++ kind.describe ++ " segment"
  | unexpectedContinuation kind => "unexpected " ++ kind.describe ++ " continuation segment"
  | tooManySegments kind => "too many segments in " ++ kind.describe ++ " block"
  | emptyConditional => "conditional block has no body"
  | misplacedElse => "else branch must be the last branch of a conditional"
  | missingExpression kind => kind.describe ++ " segment requires an expression"
  | invalidName kind => kind.describe ++ " segment requires a plain name or path"
  | suspiciousText found =>
      "literal text looks like an unparsed directive: " ++ Text.quote found

/-- A fault in the structure of a template. The position is known only when details were
asked for. -/
structure CompileError where
  fault : CompileFault
  position : Option Position
deriving DecidableEq, Repr

namespace CompileError

/-- A fault of a segment, with or without its details. -/
def ofFault (debug : Bool) (s : Segment) (fault : CompileFault) : CompileError :=
  ⟨fault, if debug then some s.position else none⟩

/-- The wording: without details always the same. -/
def message (e : CompileError) : String :=
  match e.position with
  | some p => e.fault.message ++ " at " ++ p.describe
  | none => "malformed parsed data"

end CompileError

/-- Why a text is not a template. -/
inductive TemplateError where
  | syntaxError (e : Segment.Error)
  | compileError (e : CompileError)
deriving DecidableEq, Repr

/-- The wording of either. -/
def TemplateError.message : TemplateError → String
  | syntaxError e => e.message
  | compileError e => e.message

end Stencil
