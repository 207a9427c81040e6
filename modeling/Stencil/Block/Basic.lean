import Stencil.Error.Compile

/-!
# Stencil.Block.Basic — the block structure of a template

A block starts at an opening segment and ends at a closing one of the same kind;
continuation segments in between start further bodies. `Node.scan` recovers this
structure from a flat list of segments.

The extent of a block is found by counting segments of its own kind only; its bodies are
then scanned in turn, so a block of another kind that crosses the border shows up as
unclosed or unopened inside a body.
-/

namespace Stencil

mutual

/-- An element of a template: a text, an output, another directive without a body, or a
block with the body of its opening segment and those of its continuations. -/
inductive Node where
  | text (s : Segment)
  | output (s : Segment)
  | inline (s : Segment)
  | block (head : Segment) (body : List Node) (more : List Branch)

/-- A continuation segment and its body. -/
inductive Branch where
  | mk (head : Segment) (body : List Node)

end

/-- The segment that starts the branch. -/
def Branch.head : Branch → Segment
  | mk head _ => head

/-- The nodes of the branch. -/
def Branch.body : Branch → List Node
  | mk _ body => body

namespace Node

/-- The extent of a block: its first body, its continuations with theirs, and what comes
behind it. -/
structure Extent where
  body : List Segment
  more : List (Segment × List Segment)
  behind : List Segment

/-- Puts a segment in front of the first body. -/
def Extent.cons (s : Segment) (x : Extent) : Extent := { x with body := s :: x.body }

/-- The extent of a block of this kind behind its opening segment, where `depth` blocks of the
kind are open inside it; none when the block is not closed. -/
def extent? (kind : Kind) : Nat → List Segment → Option Extent
  | _, [] => none
  | depth, s :: rest =>
    if s.kind ≠ kind ∨ s.isSelfContained then (extent? kind depth rest).map (.cons s)
    else if s.closing then
      match depth with
      | 0 => some ⟨[], [], rest⟩
      | depth + 1 => (extent? kind depth rest).map (.cons s)
    else if s.next ∧ depth = 0 then
      (extent? kind depth rest).map fun x => ⟨[], (s, x.body) :: x.more, x.behind⟩
    else if s.next then (extent? kind depth rest).map (.cons s)
    else (extent? kind (depth + 1) rest).map (.cons s)

/-- How many segments are in continuations. -/
def branchSize : List (Segment × List Segment) → Nat
  | [] => 0
  | (_, segments) :: more => segments.length + 1 + branchSize more

/-- Every segment is in the extent, except the closing one. -/
theorem extent?_length {kind : Kind} {depth : Nat} {segments : List Segment} {x : Extent}
    (h : extent? kind depth segments = some x) :
    x.body.length + branchSize x.more + x.behind.length + 1 = segments.length := by
  induction segments generalizing depth x with
  | nil => cases h
  | cons s rest ih =>
    unfold extent? at h
    have step : ∀ d, (extent? kind d rest).map (.cons s) = some x →
        x.body.length + branchSize x.more + x.behind.length + 1 = (s :: rest).length := by
      intro d h
      obtain ⟨y, hy, rfl⟩ := Option.map_eq_some_iff.1 h
      have := ih hy
      simp only [Extent.cons, List.length_cons]
      omega
    split at h
    · exact step _ h
    split at h
    · split at h
      · cases h; simp [branchSize]
      · exact step _ h
    split at h
    · obtain ⟨y, hy, rfl⟩ := Option.map_eq_some_iff.1 h
      have := ih hy
      simp only [branchSize, List.length_cons, List.length_nil] at *
      omega
    split at h
    · exact step _ h
    · exact step _ h

mutual

/-- The structure of a list of segments. -/
def scan (debug : Bool) (segments : List Segment) : Except CompileError (List Node) :=
  match segments with
  | [] => .ok []
  | s :: rest =>
    if s.kind = .text then do return text s :: (← scan debug rest)
    else if s.kind = .output then do return output s :: (← scan debug rest)
    else if s.isSelfContained then do return inline s :: (← scan debug rest)
    else if s.closing then .error (.ofFault debug s (.unexpectedClosing s.kind))
    else if s.next then .error (.ofFault debug s (.unexpectedContinuation s.kind))
    else
      match _hx : extent? s.kind 0 rest with
      | none => .error (.ofFault debug s (.missingClosing s.kind))
      | some x => do
        let body ← scan debug x.body
        let more ← scanBranches debug x.more
        let behind ← scan debug x.behind
        return block s body more :: behind
termination_by segments.length
decreasing_by
  · simp
  · simp
  · simp
  · have hlen := extent?_length _hx
    simp only [List.length_cons]
    omega
  · have hlen := extent?_length _hx
    simp only [List.length_cons]
    omega
  · have hlen := extent?_length _hx
    simp only [List.length_cons]
    omega

/-- The structure of continuations and their bodies. -/
def scanBranches (debug : Bool) (more : List (Segment × List Segment)) :
    Except CompileError (List Branch) :=
  match more with
  | [] => .ok []
  | (head, segments) :: more => do
    let body ← scan debug segments
    let more ← scanBranches debug more
    return .mk head body :: more
termination_by branchSize more
decreasing_by
  · simp only [branchSize]; omega
  · simp only [branchSize]; omega

end

end Node

end Stencil
