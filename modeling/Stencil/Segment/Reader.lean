import Stencil.Expr.Parser
import Stencil.Frame.Path
import Stencil.Segment.Brace
import Stencil.Segment.Error

/-!
# Stencil.Segment.Reader — reading directives

The content of a directive is an optional context path before a colon, an optional
expression, and an optional mark at the end: `/` closes, `~` continues. `Segment.parse`
reads all directives of a template; the first one that is not acceptable is reported,
with the place of the fault.
-/

namespace Stencil.Segment

/-- The mark at the end of a directive's content. -/
inductive Mark where
  | closing
  | next
deriving DecidableEq, Repr

/-- The content without its mark, and the mark. Blanks behind a mark do not count. -/
def takeMark (content : List Char) : List Char × Option Mark :=
  match content.reverse.dropWhile Text.isBlank with
  | '/' :: cs => (cs.reverse, some .closing)
  | '~' :: cs => (cs.reverse, some .next)
  | _ => (content, none)

/-- The characters that may stand in front of the colon of a context. -/
def isContextChar (c : Char) : Bool :=
  c == '~' || c == '.' || c == '_' || c.isAlphanum

/-- Splits what may be a context off the front of a text: the blanks before it, the path, the
blanks and the colon behind it, and the rest. -/
def takeContext? (cs : List Char) : Option (List Char × List Char × List Char × List Char) :=
  let body := cs.dropWhile Text.isBlank
  let path := body.takeWhile isContextChar
  let behind := body.dropWhile isContextChar
  match path, behind.dropWhile Text.isBlank with
  | _ :: _, ':' :: rest =>
    some (cs.takeWhile Text.isBlank, path, behind.takeWhile Text.isBlank ++ [':'], rest)
  | _, _ => none

/-- The context of a directive, if it has one, and the content behind it. -/
def readContext (content : Span) : Except Error (Option String × Span) :=
  match takeContext? content.text with
  | none => .ok (none, content)
  | some (blanks, path, colon, rest) =>
    let start := content.start.past blanks
    let name := String.ofList path
    if Path.isValid name then .ok (some name, ⟨(start.past path).past colon, rest⟩)
    else .error ⟨.context name, start⟩

/-- Places an error in an expression that is part of a template. -/
def placeError (s : Span) (e : Expr.Error) : Error :=
  ⟨.expression e.fault, s.start.into s.text e.offset⟩

/-- The expression of a directive; blank content has none. -/
def readExpression (s : Span) : Except Error (Option Expr.Postfix) :=
  if s.text.all Text.isBlank then .ok none
  else ((Expr.Postfix.parse (String.ofList s.text)).mapError (placeError s)).map some

/-- A modifier with its arguments. -/
def readModifier (m : RawModifier) : Except Error ModifierCall := do
  let args ← match m.args with
    | some s => (Expr.Postfix.parseList (String.ofList s.text)).mapError (placeError s)
    | none => .ok []
  return ⟨String.ofList m.name.text, args⟩

/-- Checks a directive's mark against what its kind allows. -/
def checkMark (s : Segment) (mark : Option Mark) : Except Fault Segment :=
  match s.kind, mark with
  | .output, some _ => .error .markedOutput
  | .render, some .next | .inclusion, some .next => .error (.continued s.kind)
  | .output, none | .render, _ | .inclusion, _ =>
    if s.expression.isSome then .ok s else .error (.missingExpression s.kind)
  | _, some .closing =>
    let call := s.kind = .custom ∧ s.expression.isSome
    if ¬ call ∧ (s.expression.isSome ∨ s.context.isSome ∨ ¬ s.modifiers.isEmpty) then
      .error (.ladenClosing s.kind)
    else .ok { s with closing := true }
  | _, some .next => .ok { s with next := true }
  | _, none =>
    if s.expression.isSome then .ok s else .error (.missingExpression s.kind)

/-- Reads one directive. -/
def readDirective (d : RawDirective) : Except Error Segment := do
  let (text, mark) := takeMark d.content.text
  let (context, body) ← readContext ⟨d.content.start, text⟩
  let expression ← readExpression body
  let modifiers ← d.modifiers.mapM readModifier
  let s : Segment := ⟨d.kind, d.start, none, context, expression, modifiers, false, false⟩
  (checkMark s mark).mapError (⟨·, d.start⟩)

/-- Reads one piece of a template. -/
def readPiece : Piece → Except Error Segment
  | .text s => .ok (ofText s)
  | .directive d => readDirective d

/-- The segments of a template. -/
def parse (source : String) : Except Error (List Segment) :=
  (split source.toList).mapM readPiece

end Stencil.Segment
