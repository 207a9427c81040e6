import Stencil.Proofs.Scope.Places
import Stencil.Proofs.Walk.Build

/-!
# Stencil.Proofs.Walk.Blame — what the errors of a walk are blamed on

The walk is made once more, without any places. Instead, each error is blamed on the directive in
whose own work it has come up, or on a literal text, and it is noted which iterations it passes on
its way out. The walk that places errors reports the place of the directive that is to blame, and
for a text that of the innermost iteration around it (`Walk.reported_nodes`).
-/

namespace Stencil

/-- An error, and what it is to be blamed on. -/
structure Blame where
  /-- The error as it came up. -/
  cause : RenderError
  /-- The directive in whose work it came up; none if it was in writing a literal text. -/
  directive : Option Segment
  /-- The iterations that the error has passed, innermost first. -/
  iterations : List Segment

namespace Blame

/-- The segment that gives the error its place, if any does. -/
def placer? (b : Blame) : Option Segment := b.directive.or b.iterations.head?

/-- The error as it is reported. -/
def reported (debug : Bool) (b : Blame) : RenderError :=
  b.cause.locate (b.placer?.bind (Scope.place debug))

/-- The error has passed an iteration. -/
def through (s : Segment) (b : Blame) : Blame := { b with iterations := b.iterations ++ [s] }

end Blame

/-- A program that says what its errors are to be blamed on. -/
abbrev Blaming (α : Type) := ExceptT Blame Program α

/-! ## Places -/

/-- The innermost position of an error is the one that stays. -/
theorem RenderError.locate_locate (e : RenderError) (p q : Position) :
    (e.locate (some p)).locate (some q) = e.locate (some p) := by
  cases e <;> rfl

theorem Scope.place_false (s : Segment) : place false s = none := rfl

/-- An iteration that an error passes places it where it has no place yet. -/
theorem Blame.reported_through (debug : Bool) (s : Segment) (b : Blame) :
    (b.through s).reported debug = (b.reported debug).locate (Scope.place debug s) := by
  obtain ⟨cause, directive, iterations⟩ := b
  unfold reported through placer?
  cases debug with
  | false =>
    have hnone : ∀ t : Option Segment, t.bind (Scope.place false) = none := by
      rintro (_ | t) <;> rfl
    rw [hnone, hnone]
    exact (RenderError.locate_none _).symm
  | true =>
    -- an iteration further out places only what has no place yet
    rcases directive with _ | t
    · rcases iterations with _ | ⟨i, iterations⟩
      · exact congrArg (RenderError.locate · _) (RenderError.locate_none _).symm
      · exact (cause.locate_locate i.position s.position).symm
    · exact (cause.locate_locate t.position s.position).symm

namespace Program

variable {ε ε' ε'' α β : Type}

/-- Does something to the error, if there is one. -/
def mapError (f : ε → ε') (x : ExceptT ε Program α) : ExceptT ε' Program α :=
  Program.bind x fun r => .done (r.mapError f)

/-- What is done to the errors of two parts is done to those of each. -/
theorem mapError_bind (f : ε → ε') (x : ExceptT ε Program α) (k : α → ExceptT ε Program β) :
    mapError f (x >>= k) = (mapError f x >>= fun a => mapError f (k a)) := by
  show Program.bind (Program.bind x _) _ = Program.bind (Program.bind x _) _
  rw [Program.bind_assoc, Program.bind_assoc]
  congr 1
  funext r
  cases r <;> rfl

/-- Errors mapped twice are mapped by the two together. -/
theorem mapError_mapError (f : ε → ε') (g : ε' → ε'') (x : ExceptT ε Program α) :
    mapError g (mapError f x) = mapError (fun e => g (f e)) x := by
  show Program.bind (Program.bind x _) _ = Program.bind x _
  rw [Program.bind_assoc]
  congr 1
  funext r
  cases r <;> rfl

end Program

open Program (mapError)

namespace Action

variable {α β : Type}

/-- The errors of a sequence are placed where those of its parts are. -/
theorem locate_bind (x : Action α) (f : α → Action β) (position : Option Position) :
    (x >>= f).locate position = (x.locate position >>= fun a => (f a).locate position) :=
  Program.mapError_bind _ x f

theorem locate_pure (a : α) (position : Option Position) :
    (pure a : Action α).locate position = pure a := rfl

/-- Blames the errors of an action on a directive, or on a literal text. -/
def blame (directive : Option Segment) (x : Action α) : Blaming α :=
  mapError (⟨·, directive, []⟩) x

end Action

namespace Blaming

variable {α β : Type}

/-- Notes that errors pass an iteration. -/
def through (s : Segment) (x : Blaming α) : Blaming α := mapError (·.through s) x

/-- Reports the errors. -/
def reported (debug : Bool) (x : Blaming α) : Action α := mapError (·.reported debug) x

variable (debug : Bool)

theorem reported_bind (x : Blaming α) (f : α → Blaming β) :
    (x >>= f).reported debug = (x.reported debug >>= fun a => (f a).reported debug) :=
  Program.mapError_bind _ x f

/-- What is blamed on a directive is reported at its place. -/
theorem reported_blame (x : Action α) (directive : Option Segment) :
    (x.blame directive).reported debug = x.locate (directive.bind (Scope.place debug)) := by
  have hreported : ∀ e, Blame.reported debug ⟨e, directive, []⟩ =
      e.locate (directive.bind (Scope.place debug)) := by
    intro e
    cases directive <;> rfl
  refine (Program.mapError_mapError _ _ x).trans ?_
  simp only [hreported]
  rfl

/-- What passes an iteration is reported at its place, unless it has one. -/
theorem reported_through (x : Blaming α) (s : Segment) :
    (x.through s).reported debug = (x.reported debug).locate (Scope.place debug s) := by
  refine (Program.mapError_mapError _ _ x).trans ?_
  simp only [Blame.reported_through]
  exact (Program.mapError_mapError (·.reported debug) (·.locate (Scope.place debug s)) x).symm

/-- Runs the body for each pass, one after the other. -/
def entries (body : Frame → Site → Blaming Unit) (base : Frame) (site : Site) (es : Entries) :
    Blaming Unit :=
  match _h : es.next? with
  | none => return ()
  | some (p, rest) => do
    body (p.frame base site) (p.site site)
    entries body base site rest
termination_by es.size
decreasing_by
  have := Entries.next?_size _h
  omega

/-- The passes of an iteration report what their bodies do. -/
theorem reported_entries (body : Frame → Site → Blaming Unit) (base : Frame) (site : Site)
    (es : Entries) :
    (entries body base site es).reported debug =
      runEntries (fun frame site => (body frame site).reported debug) base site es := by
  -- along the entries, of which each is one pass
  fun_induction entries body base site es with
  | case1 es hnext =>
    rw [runEntries]
    split
    · rfl
    · next heq =>
      rw [hnext] at heq
      cases heq
  | case2 es p rest hnext ih =>
    rw [runEntries]
    split
    · next heq =>
      rw [hnext] at heq
      cases heq
    · next heq =>
      cases hnext.symm.trans heq
      rw [reported_bind]
      exact bind_congr fun _ => ih

end Blaming

/-! ## Directives -/

namespace Walk

section Places

variable (context : Option String) (position : Option Position) (frame : Frame) (site : Site)

mutual

/-- The calls of an expression are placed where all of it is placed. -/
theorem settle_locate : ∀ (e : Expr.Postfix) (n : Nat),
    settle context position frame site e n =
      (settle context none frame site e n).locate position
  | [], n => by
    rw [settle, settle]
    rfl
  | .call path args property :: rest, n => by
    -- the arguments are placed by induction, the call itself at the position, and so is what
    -- follows it
    rw [settle, settle, settleAll_locate, Action.locate_bind]
    refine bind_congr fun (args, n) => ?_
    dsimp only
    rw [Action.locate_bind, Action.locate_none]
    refine bind_congr fun v => ?_
    rw [settle_locate rest, Action.locate_bind]
    rfl
  | .literal _ :: rest, n => by
    rw [settle, settle, settle_locate rest, Action.locate_bind]
    rfl
  | .path _ :: rest, n => by
    rw [settle, settle, settle_locate rest, Action.locate_bind]
    rfl
  | .operator _ :: rest, n => by
    rw [settle, settle, settle_locate rest, Action.locate_bind]
    rfl
  | .negate _ :: rest, n => by
    rw [settle, settle, settle_locate rest, Action.locate_bind]
    rfl
  | .opening :: rest, n => by
    rw [settle, settle, settle_locate rest]
  | .closing :: rest, n => by
    rw [settle, settle, settle_locate rest]
  | .separator :: rest, n => by
    rw [settle, settle, settle_locate rest]

/-- So are the errors of a list of expressions. -/
theorem settleAll_locate : ∀ (es : List Expr.Postfix) (n : Nat),
    settleAll context position frame site es n =
      (settleAll context none frame site es n).locate position
  | [], n => by
    rw [settleAll, settleAll]
    rfl
  | e :: es, n => by
    rw [settleAll, settleAll, settle_locate e, Action.locate_bind]
    refine bind_congr fun (f, n) => ?_
    dsimp only
    rw [settleAll_locate es, Action.locate_bind]
    rfl

end

/-- So are those of the arguments of modifiers. -/
theorem settleModifiers_locate (ms : List ModifierCall) (n : Nat) :
    settleModifiers context position frame site ms n =
      (settleModifiers context none frame site ms n).locate position := by
  induction ms generalizing n with
  | nil => rfl
  | cons m ms ih =>
    rw [settleModifiers, settleModifiers, settleAll_locate, Action.locate_bind]
    refine bind_congr fun (args, n) => ?_
    dsimp only
    rw [ih, Action.locate_bind]
    rfl

end Places

variable (debug : Bool) (channel : Channel) (frame : Frame) (site : Site) (s : Segment)

/-- All that a directive with an expression does is placed at the directive. -/
theorem evaluating_locate (e : Expr.Postfix)
    (work : Frame → Formula → List PendingModifier → Action Unit) :
    evaluating debug frame site s e work =
      (evaluating false frame site s e work).locate (Scope.place debug s) := by
  unfold evaluating
  rw [settle_locate, Action.locate_bind]
  refine bind_congr fun (f, n) => ?_
  dsimp only
  rw [settleModifiers_locate, Action.locate_bind]
  refine bind_congr fun (pending, n) => ?_
  dsimp only
  exact congrArg (Action.locate _) (Action.locate_none _).symm

/-- A directive with modifiers fails at its own place, whatever in it does. -/
theorem modifying_locate (work : Frame → List PendingModifier → Action Unit) :
    modifying debug frame site s work =
      (modifying false frame site s work).locate (Scope.place debug s) := by
  unfold modifying
  rw [settleModifiers_locate, Action.locate_bind]
  refine bind_congr fun (pending, n) => ?_
  dsimp only
  exact congrArg (Action.locate _) (Action.locate_none _).symm

theorem declare_locate (name : String) (body : Scope) :
    declare debug frame site s name body =
      (declare false frame site s name body).locate (Scope.place debug s) := by
  unfold declare
  rw [settleModifiers_locate, Action.locate_bind]
  refine bind_congr fun (pending, n) => ?_
  dsimp only
  rw [Action.locate_bind, Scope.place_false, Action.locate_none]
  rfl

/-! ## Walking with blame -/

/-- What an iteration does before its first pass: it comes to its passes and its modifiers. -/
def passes (s : Segment) (e : Expr.Postfix) : Action (Entries × List AppliedModifier) := do
  let (f, n) ← settle s.context none frame site e 0
  let (pending, _) ← settleModifiers s.context none frame site s.modifiers n
  let collection ← Action.ofExcept (f.eval (frame.reroot site s.context) [])
  let modifiers ← applied pending (frame.reroot site s.context)
  let es ← Action.ofExcept (Entries.ofValue collection)
  return (es, modifiers)

/-- What a branch that is taken does before its body: its modifiers. -/
def taken (s : Segment) : Action (List AppliedModifier) := do
  let (pending, _) ← settleModifiers s.context none frame (.part site 0) s.modifiers 0
  applied pending (frame.reroot site s.context)

/-- Iterates over a collection. What the body raises is not blamed on the iteration. -/
def blamedIterate (s : Segment) (e : Expr.Postfix)
    (body : Channel → Frame → Site → Blaming Unit) : Blaming Unit := do
  let (es, modifiers) ← (passes frame site s e).blame (some s)
  (Blaming.entries (body (Channel.wrap modifiers channel)) (frame.reroot site s.context) site
    es).through s

/-- Takes the branch with number `k` if it holds, or goes on to the others. What the body raises is
not blamed on the branch. -/
def blamedBranch (k : Nat) (s : Segment) (body : Channel → Frame → Site → Blaming Unit)
    (others : Blaming Unit) : Blaming Unit := do
  let inside := Site.part site k
  if ← (holds false frame inside s).blame (some s) then
    let modifiers ← (taken frame inside s).blame (some s)
    body (Channel.wrap modifiers channel) (frame.reroot inside s.context) inside
  else others

mutual

/-- Walks through one node. The bodies that are handed to others report their errors by
themselves. -/
def blamedNode (channel : Channel) (frame : Frame) (site : Site) : Node → Blaming Unit
  | .text s => (flush channel (s.text.getD "")).blame none
  | .output s => (node false channel frame site (.output s)).blame (some s)
  | .inline s => (node false channel frame site (.inline s)).blame (some s)
  | .block s body more =>
    match s.kind, s.expression with
    | .conditional, _ =>
      blamedBranch channel frame site 0 s
        (fun channel frame site => blamedNodes channel frame site 0 "" body)
        (blamedBranches channel frame site 1 more)
    | .iterator, some e =>
      blamedIterate channel frame site s e fun channel frame site =>
        blamedNodes channel frame site 0 "" body
    | .custom, _ =>
      (custom false channel frame site s (path s)
        (ready debug body :: more.map fun b => ready debug b.body)).blame (some s)
    | .declare, _ => (declare false frame site s (name s) (ready debug body)).blame (some s)
    | _, _ => return ()

/-- Walks through nodes. The next step is the one with number `i`, and the texts right before
these nodes are still to be written. -/
def blamedNodes (channel : Channel) (frame : Frame) (site : Site) (i : Nat) (pending : String) :
    List Node → Blaming Unit
  | [] => (flush channel pending).blame none
  | .text s :: ns => blamedNodes channel frame site i (pending ++ s.text.getD "") ns
  | n :: ns => do
    (flush channel pending).blame none
    let i := if pending = "" then i else i + 1
    blamedNode channel frame (.step site i) n
    blamedNodes channel frame site (i + 1) "" ns

/-- Walks through the branches of a conditional, the first of them being the one with number
`k`, up to the first that is taken. -/
def blamedBranches (channel : Channel) (frame : Frame) (site : Site) (k : Nat) :
    List Branch → Blaming Unit
  | [] => return ()
  | .mk s body :: more =>
    blamedBranch channel frame site k s
      (fun channel frame site => blamedNodes channel frame site 0 "" body)
      (blamedBranches channel frame site (k + 1) more)

end

/-! ## Reporting -/

/-- Only the work of the iteration itself is placed where the body has a place already. -/
theorem reported_blamedIterate (e : Expr.Postfix)
    (body : Channel → Frame → Site → Blaming Unit) :
    (blamedIterate channel frame site s e body).reported debug =
      iterate debug channel frame site s e fun channel frame site =>
        (body channel frame site).reported debug := by
  unfold blamedIterate iterate passes
  rw [Blaming.reported_bind, Blaming.reported_blame, evaluating_locate debug]
  unfold evaluating runIteration
  simp only [Blaming.reported_through, Blaming.reported_entries, Action.locate_bind, bind_assoc,
    Scope.place_false, Action.locate_none, Option.bind_some, Action.locate_pure, pure_bind]

theorem holds_locate :
    holds debug frame site s = (holds false frame site s).locate (Scope.place debug s) := by
  unfold holds
  cases s.expression with
  | none => rfl
  | some e =>
    dsimp only
    rw [settle_locate]
    simp only [Action.locate_bind, Scope.place_false, Action.locate_none, Action.locate_pure]

/-- A branch reports its test and its modifiers at its own place, and what its body reports. -/
theorem reported_blamedBranch (k : Nat) (body : Channel → Frame → Site → Blaming Unit)
    (others : Blaming Unit) :
    (blamedBranch channel frame site k s body others).reported debug =
      branch debug channel frame site k s
        (fun channel frame site => (body channel frame site).reported debug)
        (others.reported debug) := by
  unfold blamedBranch branch taken
  dsimp only
  rw [holds_locate debug, Blaming.reported_bind, Blaming.reported_blame]
  refine bind_congr fun holds => ?_
  -- a branch that is not taken only reports its test
  cases holds with
  | false => rfl
  | true =>
    rw [if_pos rfl, if_pos rfl, Blaming.reported_bind, Blaming.reported_blame,
      settleModifiers_locate s.context (Scope.place debug s), Action.locate_bind, bind_assoc]
    rfl

/-- A custom block fails at its own place. -/
theorem custom_locate (path : String) (bodies : List Scope) :
    custom debug channel frame site s path bodies =
      (custom false channel frame site s path bodies).locate (Scope.place debug s) :=
  modifying_locate debug frame site s _

theorem inlined_locate :
    inlined debug channel frame site s =
      (inlined false channel frame site s).locate (Scope.place debug s) := by
  unfold inlined
  split
  · exact modifying_locate debug frame site s _
  · split
    · split
      · exact modifying_locate debug frame site s _
      · exact evaluating_locate debug frame site s _ _
    · rfl
  · exact custom_locate debug channel frame site s _ _

theorem output_locate :
    node debug channel frame site (.output s) =
      (node false channel frame site (.output s)).locate (Scope.place debug s) := by
  rw [node, node]
  split
  · exact evaluating_locate debug frame site s _ _
  · rfl

mutual

/-- Reporting what is blamed on the directives is placing the errors at them. -/
theorem reported_blamedNode : ∀ (n : Node) channel frame site,
    (blamedNode debug channel frame site n).reported debug = node debug channel frame site n
  | .text s, channel, frame, site => by
    rw [blamedNode, node, Blaming.reported_blame]
    exact Action.locate_none _
  | .output s, channel, frame, site => by
    rw [blamedNode, output_locate debug, Blaming.reported_blame]
    rfl
  | .inline s, channel, frame, site => by
    rw [blamedNode, node, node, inlined_locate debug, Blaming.reported_blame]
    rfl
  | .block s body more, channel, frame, site => by
    rw [blamedNode, node]
    generalize s.kind = kind
    generalize s.expression = expression
    -- by the kind of the block; only an iteration places what its body could not
    cases kind with
    | conditional =>
      dsimp only
      rw [reported_blamedBranch, reported_blamedBranches more]
      simp only [reported_blamedNodes body]
    | iterator =>
      cases expression with
      | none => rfl
      | some e =>
        dsimp only
        rw [reported_blamedIterate]
        simp only [reported_blamedNodes body]
    | custom =>
      dsimp only
      rw [custom_locate debug, Blaming.reported_blame]
      rfl
    | declare =>
      dsimp only
      rw [declare_locate debug, Blaming.reported_blame]
      rfl
    | text | output | render | inclusion => rfl

/-- So do nodes behind one another. -/
theorem reported_blamedNodes : ∀ (ns : List Node) channel frame site i pending,
    (blamedNodes debug channel frame site i pending ns).reported debug =
      nodes debug channel frame site i pending ns
  | [], channel, frame, site, i, pending => by
    rw [blamedNodes, nodes, Blaming.reported_blame]
    exact Action.locate_none _
  | n :: ns, channel, frame, site, i, pending => by
    have hstep : ∀ i, ((flush channel pending).blame none >>= fun _ =>
        blamedNode debug channel frame (.step site i) n >>= fun _ =>
          blamedNodes debug channel frame site (i + 1) "" ns).reported debug =
        (flush channel pending >>= fun _ => node debug channel frame (.step site i) n >>= fun _ =>
          nodes debug channel frame site (i + 1) "" ns) := by
      intro i
      simp only [Blaming.reported_bind, Blaming.reported_blame, reported_blamedNode n,
        reported_blamedNodes ns, Option.bind_none, Action.locate_none]
    cases n with
    | text s =>
      rw [blamedNodes, nodes]
      exact reported_blamedNodes ns channel frame site i _
    | output | inline | block => exact hstep _

theorem reported_blamedBranches : ∀ (bs : List Branch) channel frame site k,
    (blamedBranches debug channel frame site k bs).reported debug =
      branches debug channel frame site k bs
  | [], channel, frame, site, k => by
    rw [blamedBranches, branches]
    rfl
  | .mk s body :: more, channel, frame, site, k => by
    rw [blamedBranches, branches, reported_blamedBranch, reported_blamedBranches more]
    simp only [reported_blamedNodes body]

end

end Walk

end Stencil
