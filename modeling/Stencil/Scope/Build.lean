import Stencil.Block.Basic
import Stencil.Scope.Basic
import Stencil.Segment.Reader

/-!
# Stencil.Scope.Build — compiling templates

`Scope.compile` turns a list of segments into a scope: block structure first, then one
step for each node. Every directive is checked for what its kind needs. Neighbouring
texts become one, so each run of text is written in one piece.
-/

namespace Stencil.Scope

/-! ## Texts that look like directives -/

/-- The rest of a brace group, up to its closing brace. -/
def takeGroup? : List Char → Option (List Char)
  | [] => none
  | c :: cs =>
    if c = '\x7d' then some [c]
    else if c = '\x7b' then none
    else (takeGroup? cs).map (c :: ·)

/-- The directive that seems to start a text: a brace, a marker or none, and a complete brace
group. -/
def suspectAt? : List Char → Option (List Char)
  | '\x7b' :: '\x7b' :: cs => (takeGroup? cs).map ('\x7b' :: '\x7b' :: ·)
  | '\x7b' :: c :: '\x7b' :: cs =>
    if (Kind.ofMarker? c).isSome then (takeGroup? cs).map ('\x7b' :: c :: '\x7b' :: ·) else none
  | _ => none

/-- The first part of a text that looks like a directive. -/
def suspect? : List Char → Option (List Char)
  | [] => none
  | c :: cs =>
    match suspectAt? (c :: cs) with
    | some found => some found
    | none => suspect? cs

/-! ## Parts of a directive -/

/-- The expression that a directive cannot do without. -/
def requireExpression (debug : Bool) (s : Segment) : Except CompileError Expr.Postfix :=
  match s.expression with
  | some e => .ok e
  | none => .error (.ofFault debug s (.missingExpression s.kind))

/-- The name that a directive gives: a plain path or a text. -/
def requireName (debug : Bool) (s : Segment) : Except CompileError String := do
  let e ← requireExpression debug s
  match e.path?.or e.text? with
  | some name => return name
  | none => throw (.ofFault debug s (.invalidName s.kind))

/-- The path of the function that a custom directive names. -/
def requirePath (debug : Bool) (s : Segment) : Except CompileError String := do
  let e ← requireExpression debug s
  match e.path? with
  | some path => return path
  | none => throw (.ofFault debug s (.invalidName .custom))

/-- Where errors of a segment are placed: nowhere unless details are asked for. -/
def place (debug : Bool) (s : Segment) : Option Position :=
  if debug then some s.position else none

/-- An expression of a segment, its calls added to `calls`. -/
def formula (debug : Bool) (s : Segment) (e : Expr.Postfix) (calls : List Call) :
    Formula × List Call :=
  Formula.ofPostfix s.context (place debug s) e calls

/-- The modifiers of a segment, their calls added to `calls`. -/
def pendingModifiers (debug : Bool) (s : Segment) (calls : List Call) :
    List PendingModifier × List Call :=
  s.modifiers.foldl (fun (done, calls) m =>
    let (args, calls) := Formula.ofArguments s.context (place debug s) m.args calls
    (done ++ [⟨m.name, args⟩], calls)) ([], calls)

/-- What a directive has besides its expression, whose calls are `calls`. -/
def head (debug : Bool) (s : Segment) (calls : List Call) : Head :=
  let (modifiers, calls) := pendingModifiers debug s calls
  ⟨s.context, calls, modifiers, place debug s⟩

/-! ## Directives without a body -/

/-- A literal text. -/
def textStep (debug : Bool) (s : Segment) : Except CompileError Step :=
  let text := s.text.getD ""
  match suspect? text.toList with
  | some found => .error (.ofFault debug s (.suspiciousText (String.ofList found)))
  | none => .ok (.text text)

/-- An output directive. -/
def outputStep (debug : Bool) (s : Segment) : Except CompileError Step := do
  let e ← requireExpression debug s
  let (value, calls) := formula debug s e []
  return .output (head debug s calls) value

/-- A directive that stands for itself. -/
def inlineStep (debug : Bool) (s : Segment) : Except CompileError Step := do
  match s.kind with
  | .render => return .render (head debug s []) (← requireName debug s)
  | .inclusion =>
    let e ← requireExpression debug s
    match e.text?.or e.path? with
    | some name => return .inclusion (head debug s []) (.fixed name)
    | none =>
      let (name, calls) := formula debug s e []
      return .inclusion (head debug s calls) (.computed name)
  | _ => return .custom (head debug s []) (← requirePath debug s) []

/-! ## Blocks -/

/-- Refuses continuations. -/
def requireSingle (debug : Bool) (s : Segment) : List Branch → Except CompileError Unit
  | [] => .ok ()
  | extra :: _ => .error (.ofFault debug extra.head (.tooManySegments s.kind))

/-- The test of a branch; only the last branch of a conditional, and not the first, goes
without. -/
def readTest (debug first last : Bool) (s : Segment) : Except CompileError (Option Test) :=
  match s.expression with
  | some e =>
    let (formula, calls) := formula debug s e []
    .ok (some ⟨calls, formula⟩)
  | none =>
    if first then .error (.ofFault debug s (.missingExpression .conditional))
    else if last then .ok none
    else .error (.ofFault debug s .misplacedElse)

/-- Puts a step in front of others. Neighbouring texts are one step, and empty ones none. -/
def consStep : Step → List Step → List Step
  | .text a, .text b :: steps => .text (a ++ b) :: steps
  | .text a, steps => if a = "" then steps else .text a :: steps
  | step, steps => step :: steps

mutual

/-- The step for a node. -/
def buildNode (debug : Bool) : Node → Except CompileError Step
  | .text s => textStep debug s
  | .output s => outputStep debug s
  | .inline s => inlineStep debug s
  | .block s body more =>
    match s.kind with
    | .conditional =>
      if body.isEmpty && more.all (·.body.isEmpty) then
        .error (.ofFault debug s .emptyConditional)
      else do
        let test ← readTest debug true more.isEmpty s
        let body ← buildNodes debug body
        let others ← buildAlternatives debug more
        return .choice (.mk (head debug s []) test (.mk body) :: others)
    | .iterator => do
      requireSingle debug s more
      let e ← requireExpression debug s
      let (collection, calls) := formula debug s e []
      return .iterate (head debug s calls) collection (.mk (← buildNodes debug body))
    | .custom => do
      let path ← requirePath debug s
      let body ← buildNodes debug body
      let others ← buildContinuations debug more
      return .custom (head debug s []) path (.mk body :: others)
    | .declare => do
      requireSingle debug s more
      let name ← requireName debug s
      return .declare (head debug s []) name (.mk (← buildNodes debug body))
    | kind => .error (.ofFault debug s (.unexpectedClosing kind))

/-- The steps for a list of nodes. -/
def buildNodes (debug : Bool) : List Node → Except CompileError (List Step)
  | [] => .ok []
  | node :: nodes => do
    let step ← buildNode debug node
    let steps ← buildNodes debug nodes
    return consStep step steps

/-- The branches of a conditional behind its first. -/
def buildAlternatives (debug : Bool) : List Branch → Except CompileError (List Alternative)
  | [] => .ok []
  | .mk s body :: more => do
    let test ← readTest debug false more.isEmpty s
    let body ← buildNodes debug body
    let others ← buildAlternatives debug more
    return .mk (head debug s []) test (.mk body) :: others

/-- The bodies of a custom block behind its first. -/
def buildContinuations (debug : Bool) : List Branch → Except CompileError (List Scope)
  | [] => .ok []
  | .mk s body :: more => do
    if s.expression.isSome then
      throw (.ofFault debug s (.unexpectedContinuation .custom))
    let body ← buildNodes debug body
    let others ← buildContinuations debug more
    return .mk body :: others

end

/-- Compiles a list of segments. -/
def compile (debug : Bool) (segments : List Segment) : Except CompileError Scope := do
  let nodes ← Node.scan debug segments
  return .mk (← buildNodes debug nodes)

/-- Compiles the text of a template. -/
def compileText (debug : Bool) (source : String) : Except TemplateError Scope := do
  let segments ← (Segment.parse source).mapError .syntaxError
  (compile debug segments).mapError .compileError

end Stencil.Scope
