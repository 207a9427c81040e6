import Stencil.Proofs.Walk.Settle

/-!
# Stencil.Proofs.Walk.Basic — templates walked from left to right

The walk goes through the nodes of a template in order and does what each says where it stands:

* a run of neighbouring texts is written in one piece, unless it is empty;
* a directive makes the calls of its expression, then those in its modifiers, then does its
  work;
* a conditional makes the calls of a test when it comes to the branch, and those in the
  modifiers of a branch when it takes the branch.

Bodies that are handed to others are handed out ready to run (`Walk.ready`).
-/

namespace Stencil.Walk

variable (debug : Bool) (channel : Channel) (frame : Frame) (site : Site)

/-! ## Directives -/

/-- A directive with an expression. Its work is done in the frame that its context leads to. -/
def evaluating (s : Segment) (e : Expr.Postfix)
    (work : Frame → Formula → List PendingModifier → Action Unit) : Action Unit := do
  let (f, n) ← settle s.context (Scope.place debug s) frame site e 0
  let (pending, _) ← settleModifiers s.context (Scope.place debug s) frame site s.modifiers n
  (work (frame.reroot site s.context) f pending).locate (Scope.place debug s)

/-- A directive that evaluates nothing but the arguments of its modifiers. -/
def modifying (s : Segment) (work : Frame → List PendingModifier → Action Unit) : Action Unit := do
  let (pending, _) ← settleModifiers s.context (Scope.place debug s) frame site s.modifiers 0
  (work (frame.reroot site s.context) pending).locate (Scope.place debug s)

/-- The modifiers of a directive with their arguments evaluated. -/
def applied (pending : List PendingModifier) (target : Frame) : Action (List AppliedModifier) :=
  Action.ofExcept (pending.mapM fun m => m.apply target [])

/-- Evaluates, modifies and writes. -/
def output (s : Segment) (e : Expr.Postfix) : Action Unit :=
  evaluating debug frame site s e fun target value pending => do
    let v ← Action.ofExcept (value.eval target [])
    let v ← modifyAll target [] pending v
    channel.write v.display

/-- Hands bodies to the function that is named. -/
def custom (s : Segment) (path : String) (bodies : List Scope) : Action Unit :=
  modifying debug frame site s fun target pending => do
    let modifiers ← applied pending target
    runCustom (Channel.wrap modifiers channel) path target site bodies

/-- Renders the fragment declared last under the name. -/
def render (s : Segment) (name : String) : Action Unit :=
  modifying debug frame site s fun target pending => do
    match ← Action.resolve name with
    | none => return ()
    | some fragment =>
      let modifiers ← applied pending target
      runFragment fragment (Channel.wrap modifiers channel) target.data site

/-- Renders the template of a name that stands in the directive. -/
def includeFixed (s : Segment) (name : String) : Action Unit :=
  modifying debug frame site s fun target pending => do
    let modifiers ← applied pending target
    runTemplate (Channel.wrap modifiers channel) name target site

/-- Renders the template of a name that is computed. -/
def includeComputed (s : Segment) (e : Expr.Postfix) : Action Unit :=
  evaluating debug frame site s e fun target name pending => do
    let v ← Action.ofExcept (name.eval target [])
    let modifiers ← applied pending target
    runTemplate (Channel.wrap modifiers channel) v.display target site

/-- Iterates over a collection. -/
def iterate (s : Segment) (e : Expr.Postfix)
    (body : Channel → Frame → Site → Action Unit) : Action Unit :=
  evaluating debug frame site s e fun target collection pending => do
    let collection ← Action.ofExcept (collection.eval target [])
    let modifiers ← applied pending target
    runIteration collection target site fun frame site =>
      body (Channel.wrap modifiers channel) frame site

/-- Keeps a body under a name. -/
def declare (s : Segment) (name : String) (body : Scope) : Action Unit := do
  let (pending, _) ← settleModifiers s.context (Scope.place debug s) frame site s.modifiers 0
  let target := frame.reroot site s.context
  let modifiers ← (applied pending target).locate (Scope.place debug s)
  Action.declare name ⟨target, body, modifiers⟩

/-- Whether the branch is taken: when its test holds, or when it has none. -/
def holds (s : Segment) : Action Bool :=
  match s.expression with
  | none => return true
  | some e => do
    let (test, _) ← settle s.context (Scope.place debug s) frame site e 0
    let v ← (Action.ofExcept (test.eval (frame.reroot site s.context) [])).locate
      (Scope.place debug s)
    return v.truthy

/-- Takes the branch with number `k` if it holds, or goes on to the others. -/
def branch (k : Nat) (s : Segment) (body : Channel → Frame → Site → Action Unit)
    (others : Action Unit) : Action Unit := do
  let inside := Site.part site k
  if ← holds debug frame inside s then
    let (pending, _) ← settleModifiers s.context (Scope.place debug s) frame (.part inside 0)
      s.modifiers 0
    let target := frame.reroot inside s.context
    let modifiers ← (applied pending target).locate (Scope.place debug s)
    body (Channel.wrap modifiers channel) target inside
  else others

/-! ## Nodes -/

/-- The name that stands in a directive, as a path or as a text. -/
def name (s : Segment) : String := (s.expression.bind fun e => e.path?.or e.text?).getD ""

/-- The path that stands in a directive. -/
def path (s : Segment) : String := (s.expression.bind Expr.Postfix.path?).getD ""

/-- A body ready to run. -/
def ready (nodes : List Node) : Scope :=
  match Scope.buildNodes debug nodes with
  | .ok steps => .mk steps
  | .error _ => .mk []

/-- A directive without a body. -/
def inlined (s : Segment) : Action Unit :=
  match s.kind with
  | .render => render debug channel frame site s (name s)
  | .inclusion =>
    match s.expression with
    | some e =>
      match e.text?.or e.path? with
      | some name => includeFixed debug channel frame site s name
      | none => includeComputed debug channel frame site s e
    | none => return ()
  | _ => custom debug channel frame site s (path s) []

/-- Writes a run of texts, unless it is empty. -/
def flush (pending : String) : Action Unit :=
  if pending = "" then return () else channel.write pending

mutual

/-- Walks through one node. -/
def node (channel : Channel) (frame : Frame) (site : Site) : Node → Action Unit
  | .text s => flush channel (s.text.getD "")
  | .output s =>
    match s.expression with
    | some e => output debug channel frame site s e
    | none => return ()
  | .inline s => inlined debug channel frame site s
  | .block s body more =>
    match s.kind, s.expression with
    | .conditional, _ =>
      branch debug channel frame site 0 s
        (fun channel frame site => nodes channel frame site 0 "" body)
        (branches channel frame site 1 more)
    | .iterator, some e =>
      iterate debug channel frame site s e fun channel frame site =>
        nodes channel frame site 0 "" body
    | .custom, _ =>
      custom debug channel frame site s (path s)
        (ready debug body :: more.map fun b => ready debug b.body)
    | .declare, _ => declare debug frame site s (name s) (ready debug body)
    | _, _ => return ()

/-- Walks through nodes. The next step is the one with number `i`, and the texts right before
these nodes are still to be written. -/
def nodes (channel : Channel) (frame : Frame) (site : Site) (i : Nat) (pending : String) :
    List Node → Action Unit
  | [] => flush channel pending
  | .text s :: ns => nodes channel frame site i (pending ++ s.text.getD "") ns
  | n :: ns => do
    flush channel pending
    let i := if pending = "" then i else i + 1
    node channel frame (.step site i) n
    nodes channel frame site (i + 1) "" ns

/-- Walks through the branches of a conditional, the first of them being the one with number
`k`, up to the first that is taken. -/
def branches (channel : Channel) (frame : Frame) (site : Site) (k : Nat) :
    List Branch → Action Unit
  | [] => return ()
  | .mk s body :: more =>
    branch debug channel frame site k s
      (fun channel frame site => nodes channel frame site 0 "" body)
      (branches channel frame site (k + 1) more)

end

end Stencil.Walk
