import Stencil.Expr.Basic
import Stencil.Text.Position

/-!
# Stencil.Segment.Basic — the pieces of a template

A template is a list of segments: literal texts and directives. A directive has a kind,
and may have a context path, an expression and modifiers; `closing` and `next` mark the
segments that end a block or start another body in it.

Segments are flat. Which of them belong together is found out later, and a list put
together by hand may hold combinations that no template text gives.
-/

namespace Stencil

/-- What a segment is for. -/
inductive Kind where
  | text | output | conditional | iterator | custom | declare | render | inclusion
deriving DecidableEq, Repr

namespace Kind

/-- How the kind is named in messages. -/
def describe : Kind → String
  | text => "text"
  | output => "output"
  | conditional => "conditional"
  | iterator => "iterator"
  | custom => "custom"
  | declare => "named declare"
  | render => "named render"
  | inclusion => "partial"

/-- How the kind is named in documents. -/
def tag : Kind → String
  | declare => "named_declare"
  | render => "named_render"
  | kind => kind.describe

/-- Whether segments of the kind delimit a block with a body. -/
def opensBlock : Kind → Bool
  | conditional | iterator | custom | declare => true
  | _ => false

/-- The kind of directive that a character behind the first brace marks. -/
def ofMarker? (c : Char) : Option Kind :=
  if c = '?' then some conditional
  else if c = '#' then some iterator
  else if c = '%' then some custom
  else if c = '+' then some declare
  else if c = '=' then some render
  else if c = '>' then some inclusion
  else none

end Kind

/-- A modifier by name, with the expressions of its arguments. -/
structure ModifierCall where
  name : String
  args : List Expr.Postfix

/-- One segment of a template. -/
structure Segment where
  kind : Kind
  position : Position
  text : Option String
  context : Option String
  expression : Option Expr.Postfix
  modifiers : List ModifierCall
  closing : Bool
  next : Bool

namespace Segment

/-- A literal text. -/
def ofText (s : Span) : Segment :=
  ⟨.text, s.start, some (String.ofList s.text), none, none, [], false, false⟩

/-- Whether the segment stands for itself: no block starts, goes on or ends at it. A custom
directive does when it has an expression and closes. -/
def isSelfContained (s : Segment) : Bool :=
  match s.kind with
  | .output | .render | .inclusion => true
  | .custom => s.closing && s.expression.isSome
  | _ => false

end Segment

end Stencil
