import Stencil.Proofs.Block.Scan
import Stencil.Proofs.Except
import Stencil.Proofs.Scope.Slots
import Stencil.Proofs.Segment.Parsed
import Stencil.Proofs.Task.Record
import Stencil.Proofs.Task.Watch

/-!
# Stencil.Proofs.Scope.Async — which templates may have to wait

Whether a compiled template may have to wait can be read off its segments: it may when one of them,
outside of the bodies that are only declared, hands control to others or has a call in it at any
depth (`Scope.isAsync_iff`). A template that never waits has come to its end when it has been
started (`Task.start_of_not_async`).
-/

namespace Stencil

/-! ## Counting calls -/

namespace Expr.Postfix

mutual

/-- How many calls there are in an expression, at any depth. -/
def callCount : Postfix → Nat
  | [] => 0
  | .call _ args _ :: rest => argsCallCount args + 1 + callCount rest
  | .literal _ :: rest | .operator _ :: rest | .negate _ :: rest | .path _ :: rest
  | .opening :: rest | .closing :: rest | .separator :: rest => callCount rest

/-- How many calls there are in arguments, at any depth. -/
def argsCallCount : List Postfix → Nat
  | [] => 0
  | e :: es => callCount e + argsCallCount es

end

/-- A path makes no call. -/
theorem callCount_path? {e : Expr.Postfix} {path : String}
    (h : e.path? = some path) : e.callCount = 0 := by
  unfold path? at h
  split at h
  · simp [callCount]
  · cases h

theorem callCount_text? {e : Expr.Postfix} {text : String}
    (h : e.text? = some text) : e.callCount = 0 := by
  unfold text? at h
  split at h
  · simp [callCount]
  · cases h

end Expr.Postfix

/-- How many calls there are in the arguments of a modifier. -/
def ModifierCall.callCount (m : ModifierCall) : Nat := Expr.Postfix.argsCallCount m.args

/-- How many calls there are in the arguments of modifiers. -/
def modifiersCallCount : List ModifierCall → Nat
  | [] => 0
  | m :: ms => m.callCount + modifiersCallCount ms

namespace Formula

open Expr.Postfix

variable (context : Option String) (position : Option Position)

mutual

/-- All calls are taken out of an expression. -/
theorem length_ofPostfix : ∀ (e : Expr.Postfix) (calls : List Call),
    (ofPostfix context position e calls).2.length = calls.length + callCount e
  | [], calls => by
    rw [ofPostfix, callCount]
    rfl
  -- the calls in the arguments come first, and the call itself after them
  | .call path args property :: rest, calls => by
    have hargs := length_ofArguments args calls
    rw [ofPostfix_call, callCount, length_ofPostfix rest, List.length_append,
      List.length_singleton, hargs]
    omega
  | .literal _ :: rest, calls => by
    rw [ofPostfix, callCount]
    exact length_ofPostfix rest calls
  | .path _ :: rest, calls => by
    rw [ofPostfix, callCount]
    exact length_ofPostfix rest calls
  | .operator _ :: rest, calls => by
    rw [ofPostfix, callCount]
    exact length_ofPostfix rest calls
  | .negate _ :: rest, calls => by
    rw [ofPostfix, callCount]
    exact length_ofPostfix rest calls
  | .opening :: rest, calls => by
    rw [ofPostfix, callCount]
    exact length_ofPostfix rest calls
  | .closing :: rest, calls => by
    rw [ofPostfix, callCount]
    exact length_ofPostfix rest calls
  | .separator :: rest, calls => by
    rw [ofPostfix, callCount]
    exact length_ofPostfix rest calls

/-- Arguments add the calls that are in them. -/
theorem length_ofArguments : ∀ (es : List Expr.Postfix) (calls : List Call),
    (ofArguments context position es calls).2.length = calls.length + argsCallCount es
  | [], calls => by
    rw [ofArguments, argsCallCount]
    rfl
  | e :: es, calls => by
    rw [ofArguments_cons, argsCallCount, length_ofArguments es, length_ofPostfix e, Nat.add_assoc]

end

theorem length_ofModifiers (ms : List ModifierCall) (calls : List Call) :
    (ofModifiers context position ms calls).2.length = calls.length + modifiersCallCount ms := by
  induction ms generalizing calls with
  | nil => rfl
  | cons m ms ih =>
    show (ofModifiers context position ms _).2.length = calls.length + (m.callCount + _)
    rw [ih, length_ofArguments, Nat.add_assoc]
    rfl

end Formula

/-! ## Segments -/

/-- Whether directives of the kind hand control to others. -/
def Kind.handsOver : Kind → Bool
  | .iterator | .custom | .render | .inclusion => true
  | .text | .output | .conditional | .declare => false

namespace Segment

/-- How many calls there are in the expression of a segment and in its modifiers, at any depth. -/
def callCount (s : Segment) : Nat :=
  (s.expression.map Expr.Postfix.callCount).getD 0 + modifiersCallCount s.modifiers

/-- Whether the segment hands control to others or makes a call. -/
def awaits (s : Segment) : Bool := s.kind.handsOver || 0 < s.callCount

/-- Whether the segment starts a body that is only declared. -/
def opensDeclare (s : Segment) : Bool := s.kind = .declare && s.opensBlock

/-- Whether the segment ends a body that is only declared. -/
def closesDeclare (s : Segment) : Bool := s.kind = .declare && s.closesBlock

/-- The segments outside of the bodies that are only declared, when so many of these are open. -/
def outsideDeclares : Nat → List Segment → List Segment
  | _, [] => []
  | depth, s :: rest =>
    let behind :=
      if s.opensDeclare then depth + 1 else if s.closesDeclare then depth - 1 else depth
    if depth = 0 then s :: outsideDeclares behind rest else outsideDeclares behind rest

/-! ### Walking over the segments of nodes -/

/-- A segment, if no body that is only declared is open. -/
def visible (depth : Nat) (s : Segment) : List Segment := if depth = 0 then [s] else []

/-- A segment counts if it is in no declaration. -/
theorem outsideDeclares_cons (depth : Nat) (s : Segment) (rest : List Segment) :
    outsideDeclares depth (s :: rest) =
      visible depth s ++ outsideDeclares
        (if s.opensDeclare then depth + 1 else if s.closesDeclare then depth - 1 else depth)
        rest := by
  rw [outsideDeclares, visible]
  split <;> rfl

/-- A segment that delimits nothing leaves the depth as it is. -/
theorem outsideDeclares_leaf {s : Segment} (h : s.delimits = false) (depth : Nat)
    (rest : List Segment) :
    outsideDeclares depth (s :: rest) = visible depth s ++ outsideDeclares depth rest := by
  rw [outsideDeclares_cons]
  simp [opensDeclare, closesDeclare, opensBlock, closesBlock, h]

/-- Only declarations lead deeper. -/
theorem outsideDeclares_opens {s : Segment} (h : s.opensBlock = true) (depth : Nat)
    (rest : List Segment) :
    outsideDeclares depth (s :: rest) =
      visible depth s ++ outsideDeclares (if s.kind = .declare then depth + 1 else depth) rest := by
  obtain ⟨hd, hc, hn⟩ := opensBlock_iff.1 h
  rw [outsideDeclares_cons]
  simp [opensDeclare, closesDeclare, opensBlock, closesBlock, hd, hc, hn]

/-- A continuation leaves the depth as it is. -/
theorem outsideDeclares_continues {kind : Kind} {s : Segment} (h : s.Continues kind) (depth : Nat)
    (rest : List Segment) :
    outsideDeclares depth (s :: rest) = visible depth s ++ outsideDeclares depth rest := by
  obtain ⟨-, hd, hc, hn⟩ := h
  rw [outsideDeclares_cons]
  simp [opensDeclare, closesDeclare, opensBlock, closesBlock, hd, hc, hn]

/-- Only the end of a declaration leads out again. -/
theorem outsideDeclares_closes {kind : Kind} {s : Segment} (h : s.Closes kind) (depth : Nat)
    (rest : List Segment) :
    outsideDeclares depth (s :: rest) =
      visible depth s ++ outsideDeclares (if kind = .declare then depth - 1 else depth) rest := by
  obtain ⟨hk, hd, hc⟩ := h
  rw [outsideDeclares_cons]
  simp [opensDeclare, closesDeclare, opensBlock, closesBlock, hk, hd, hc]

mutual

/-- The segments of nodes are inside of a body that is only declared, or none of them is but for
those of its own. -/
theorem outsideDeclares_append {nodes : List Node} {xs : List Segment} (h : Flattens nodes xs)
    (depth : Nat) (rest : List Segment) :
    outsideDeclares depth (xs ++ rest) =
      outsideDeclares depth xs ++ outsideDeclares depth rest := by
  cases h with
  | nil => rfl
  | text hs h =>
    rw [List.cons_append, outsideDeclares_leaf (not_delimits_of_text hs),
      outsideDeclares_leaf (not_delimits_of_text hs), outsideDeclares_append h depth rest,
      List.append_assoc]
  | output hs h =>
    have hd := not_delimits_of_isSelfContained (isSelfContained_of_output hs)
    rw [List.cons_append, outsideDeclares_leaf hd, outsideDeclares_leaf hd,
      outsideDeclares_append h depth rest, List.append_assoc]
  | inline hk hs h =>
    have hd := not_delimits_of_isSelfContained hs
    rw [List.cons_append, outsideDeclares_leaf hd, outsideDeclares_leaf hd,
      outsideDeclares_append h depth rest, List.append_assoc]
  -- the block is closed where it was opened, so the depth behind it is the one before it
  | block hs hbody hmore hc h =>
    simp only [List.cons_append, List.append_assoc, outsideDeclares_opens hs,
      outsideDeclares_append hbody, outsideDeclares_append_more hmore, outsideDeclares_closes hc,
      outsideDeclares_append h _ rest]
    split <;> rfl
termination_by sizeOf nodes

/-- Branches leave the depth as it was. -/
theorem outsideDeclares_append_more {kind : Kind} {more : List Branch} {ys : List Segment}
    (h : FlattensMore kind more ys) (depth : Nat) (rest : List Segment) :
    outsideDeclares depth (ys ++ rest) =
      outsideDeclares depth ys ++ outsideDeclares depth rest := by
  cases h with
  | nil => rfl
  | cons hs hbody hmore =>
    simp only [List.cons_append, List.append_assoc, outsideDeclares_continues hs,
      outsideDeclares_append hbody, outsideDeclares_append_more hmore]
termination_by sizeOf more

end

mutual

/-- The segments of nodes in a body that is only declared are all inside of it. -/
theorem outsideDeclares_inside {nodes : List Node} {xs : List Segment} (h : Flattens nodes xs)
    (depth : Nat) : outsideDeclares (depth + 1) xs = [] := by
  cases h with
  | nil => rfl
  | text hs h =>
    rw [outsideDeclares_leaf (not_delimits_of_text hs), outsideDeclares_inside h]
    rfl
  | output hs h =>
    have hd := not_delimits_of_isSelfContained (isSelfContained_of_output hs)
    rw [outsideDeclares_leaf hd, outsideDeclares_inside h]
    rfl
  | inline hk hs h =>
    rw [outsideDeclares_leaf (not_delimits_of_isSelfContained hs), outsideDeclares_inside h]
    rfl
  | block hs hbody hmore hc h =>
    rw [outsideDeclares_opens hs, outsideDeclares_append hbody, outsideDeclares_append_more hmore,
      outsideDeclares_closes hc]
    -- a declaration leads still deeper, and any other block stays at the depth
    split
    · rw [outsideDeclares_inside hbody, outsideDeclares_inside_more hmore]
      exact outsideDeclares_inside h depth
    · rw [outsideDeclares_inside hbody, outsideDeclares_inside_more hmore,
        outsideDeclares_inside h]
      rfl
termination_by sizeOf nodes

/-- Within a declaration no segment of a branch counts. -/
theorem outsideDeclares_inside_more {kind : Kind} {more : List Branch} {ys : List Segment}
    (h : FlattensMore kind more ys) (depth : Nat) : outsideDeclares (depth + 1) ys = [] := by
  cases h with
  | nil => rfl
  | cons hs hbody hmore =>
    rw [outsideDeclares_continues hs, outsideDeclares_append hbody, outsideDeclares_inside hbody,
      outsideDeclares_inside_more hmore]
    rfl
termination_by sizeOf more

end

/-! ### Segments of a text -/

/-- Whether the segment makes no calls if it is a text or ends a block. -/
def Tidy (s : Segment) : Prop := s.kind = .text ∨ s.closesBlock = true → s.callCount = 0

/-- A segment without expression and modifiers makes no call. -/
theorem callCount_eq_zero {s : Segment} (he : s.expression = none) (hm : s.modifiers = []) :
    s.callCount = 0 := by
  unfold callCount
  rw [he, hm]
  rfl

theorem tidy_ofText (s : Span) : (ofText s).Tidy := fun _ => callCount_eq_zero rfl rfl

/-- A directive that passes the check is tidy, whatever its mark is. -/
theorem tidy_of_checkMark {s t : Segment} {mark : Option Mark} (hs : s.kind ≠ .text)
    (hclosing : s.closing = false) (h : checkMark s mark = .ok t) : t.Tidy := by
  rintro (hk | hc)
  · have hkind : t.kind = s.kind := by
      rcases cases_of_checkMark h with rfl | rfl | ⟨rfl, -⟩ <;> rfl
    exact absurd (hkind.symm.trans hk) hs
  · obtain ⟨-, hexpression, hmodifiers⟩ := empty_of_checkMark hclosing h hc
    exact callCount_eq_zero hexpression hmodifiers

/-- All segments of a text that is read are tidy. -/
theorem tidy_of_parse {source : String} {segments : List Segment}
    (h : parse source = .ok segments) : ∀ s ∈ segments, s.Tidy := by
  intro s hs
  obtain ⟨piece, hpiece, hread⟩ := Except.exists_of_mapM h hs
  cases piece with
  | text span =>
    cases hread
    exact tidy_ofText span
  | directive d =>
    have hkind := ne_text_of_mem_split hpiece
    obtain ⟨⟨context, body⟩, -, hread⟩ := Except.bind_eq_ok_iff.1 hread
    obtain ⟨expression, -, hread⟩ := Except.bind_eq_ok_iff.1 hread
    obtain ⟨modifiers, -, hread⟩ := Except.bind_eq_ok_iff.1 hread
    exact tidy_of_checkMark (s := ⟨d.kind, d.start, none, context, expression, modifiers, _, _⟩)
      hkind rfl (Except.mapError_eq_ok_iff.1 hread)

end Segment

/-! ## Steps -/

namespace Scope

variable {debug : Bool}

/-- Whether none of the segments hands control to others or makes a call. -/
def Quiet (segments : List Segment) : Prop := ∀ s ∈ segments, s.awaits = false

/-- Segments in a row wait for nothing if none of them does. -/
theorem quiet_append {xs ys : List Segment} : Quiet (xs ++ ys) ↔ Quiet xs ∧ Quiet ys :=
  List.forall_mem_append

/-- Nor does a segment with those behind it. -/
theorem quiet_cons {s : Segment} {xs : List Segment} :
    Quiet (s :: xs) ↔ s.awaits = false ∧ Quiet xs := List.forall_mem_cons

/-- A directive waits for nothing if it hands nothing over and makes no call. -/
theorem awaits_eq_false_iff {s : Segment} :
    s.awaits = false ↔ s.kind.handsOver = false ∧ s.callCount = 0 := by
  simp [Segment.awaits]

/-- Having no calls is having none of them to count. -/
theorem isEmpty_iff_length {cs : List Call} : cs.isEmpty = true ↔ cs.length = 0 := by
  rw [List.isEmpty_iff, List.length_eq_zero_iff]

/-- The head of a directive has the calls before it and those of its modifiers. -/
theorem isEmpty_head (s : Segment) (calls : List Call) :
    (head debug s calls).calls.isEmpty = true ↔
      calls.length + modifiersCallCount s.modifiers = 0 := by
  rw [head_eq, isEmpty_iff_length, Formula.length_ofModifiers]

/-- The calls of a directive are those of its expression and those of its modifiers. -/
theorem isEmpty_head_formula {s : Segment} {e : Expr.Postfix} (he : s.expression = some e) :
    (head debug s (formula debug s e []).2).calls.isEmpty = true ↔ s.callCount = 0 := by
  rw [isEmpty_head, Segment.callCount, he]
  unfold formula
  rw [Formula.length_ofPostfix, List.length_nil, Nat.zero_add]
  rfl

/-- Joining texts changes nothing in whether steps wait. -/
theorem stepsImmediate_consStep (step : Step) (steps : List Step) :
    stepsImmediate (consStep step steps) = true ↔
      step.isImmediate = true ∧ stepsImmediate steps = true := by
  have hcons : ∀ step : Step, stepsImmediate (step :: steps) = true ↔
      step.isImmediate = true ∧ stepsImmediate steps = true := by
    intro step
    rw [stepsImmediate, Bool.and_eq_true]
  unfold consStep
  split
  · exact ⟨fun h => ⟨rfl, h⟩, fun h => h.2⟩
  · split
    · exact ⟨fun h => ⟨rfl, h⟩, fun h => h.2⟩
    · exact hcons _
  · exact hcons _

/-- An expression that is required is there. -/
theorem requireExpression_eq_ok {s : Segment} {e : Expr.Postfix}
    (h : requireExpression debug s = .ok e) : s.expression = some e := by
  unfold requireExpression at h
  split at h
  · next hs =>
    cases h
    exact hs
  · cases h

/-- A name has no calls in it. -/
theorem callCount_of_requireName {s : Segment} {name : String}
    (h : requireName debug s = .ok name) : s.callCount = modifiersCallCount s.modifiers := by
  obtain ⟨e, he, h⟩ := Except.bind_eq_ok_iff.1 h
  have hzero : e.callCount = 0 := by
    split at h
    · next name' hname =>
      obtain hpath | ⟨-, htext⟩ := Option.or_eq_some_iff.1 hname
      · exact Expr.Postfix.callCount_path? hpath
      · exact Expr.Postfix.callCount_text? htext
    · cases h
  rw [Segment.callCount, requireExpression_eq_ok he]
  show e.callCount + _ = _
  rw [hzero, Nat.zero_add]

/-- A text waits for nothing. -/
theorem isImmediate_textStep {s : Segment} {step : Step} (h : textStep debug s = .ok step) :
    step.isImmediate = true := by
  unfold textStep at h
  dsimp only at h
  split at h
  · cases h
  · cases h
    rfl

/-- An output waits for its calls, if it has any. -/
theorem isImmediate_outputStep {s : Segment} {step : Step} (h : outputStep debug s = .ok step) :
    step.isImmediate = true ↔ s.callCount = 0 := by
  obtain ⟨e, he, h⟩ := Except.bind_eq_ok_iff.1 h
  cases h
  exact isEmpty_head_formula (requireExpression_eq_ok he)

/-- What hands something over in one line may have to wait for it. -/
theorem not_isImmediate_inlineStep {s : Segment} {step : Step}
    (h : inlineStep debug s = .ok step) : step.isImmediate = false := by
  unfold inlineStep at h
  split at h
  · obtain ⟨name, -, h⟩ := Except.bind_eq_ok_iff.1 h
    cases h
    rfl
  · obtain ⟨e, -, h⟩ := Except.bind_eq_ok_iff.1 h
    split at h
    · cases h
      rfl
    · cases h
      rfl
  · obtain ⟨path, -, h⟩ := Except.bind_eq_ok_iff.1 h
    cases h
    rfl

/-- An alternative is immediate without calls in its head and its test, if its body is. -/
theorem isImmediate_alternative (head : Head) (test : Option Test) (body : Scope) :
    (Alternative.mk head test body).isImmediate =
      (head.calls.isEmpty && ((test.map Test.calls).getD []).isEmpty && body.isImmediate) := by
  rw [Alternative.isImmediate.eq_def]
  cases test <;> rfl

/-- A branch makes the calls of its segment, in its test and in its modifiers. -/
theorem isImmediate_branch {first last : Bool} {s : Segment} {test : Option Test}
    (h : readTest debug first last s = .ok test) (body : List Step) :
    (Alternative.mk (head debug s []) test (.mk body)).isImmediate = true ↔
      s.callCount = 0 ∧ stepsImmediate body = true := by
  have hcalls : (head debug s []).calls.isEmpty = true ↔ modifiersCallCount s.modifiers = 0 := by
    rw [isEmpty_head, List.length_nil, Nat.zero_add]
  have htest : ((test.map Test.calls).getD []).isEmpty = true ↔
      (s.expression.map Expr.Postfix.callCount).getD 0 = 0 := by
    -- a branch without a test is the last one, and makes no call
    unfold readTest at h
    split at h
    · next e he =>
      cases h
      rw [he]
      show (formula debug s e []).2.isEmpty = true ↔ e.callCount = 0
      unfold formula
      rw [isEmpty_iff_length, Formula.length_ofPostfix, List.length_nil, Nat.zero_add]
    · next he =>
      rw [he]
      split at h
      · cases h
      split at h
      · cases h
        exact ⟨fun _ => rfl, fun _ => rfl⟩
      · cases h
  rw [isImmediate_alternative, Bool.and_eq_true, Bool.and_eq_true, hcalls, htest,
    Scope.isImmediate, Segment.callCount, Nat.add_eq_zero_iff, and_comm (b := _ = 0)]

/-- A segment that stands for itself and is not an output hands control to others. -/
theorem handsOver_of_inline {s : Segment} (hk : s.kind ≠ .output)
    (hs : s.isSelfContained = true) : s.kind.handsOver = true := by
  cases hkind : s.kind with
  | output => exact absurd hkind hk
  | text | conditional | iterator | declare => simp [Segment.isSelfContained, hkind] at hs
  | custom | render | inclusion => rfl

/-- What ends a block is quiet, if what starts it hands nothing over. -/
theorem awaits_closes {kind : Kind} {c : Segment} (hc : c.Closes kind) (htidy : c.Tidy)
    (hkind : kind.handsOver = false) : c.awaits = false := by
  refine awaits_eq_false_iff.2 ⟨hc.1.symm ▸ hkind, htidy (.inr ?_)⟩
  rw [Segment.closesBlock, hc.2.1, hc.2.2]
  rfl

/-- The segments of a block, but for those in bodies that are only declared. -/
theorem outsideDeclares_block {s c : Segment} {body : List Node} {more : List Branch}
    {xs ys rest : List Segment} (hs : s.opensBlock = true) (hbody : Flattens body xs)
    (hmore : FlattensMore s.kind more ys) (hc : c.Closes s.kind) :
    Segment.outsideDeclares 0 (s :: (xs ++ (ys ++ c :: rest))) =
      s :: (if s.kind = .declare then Segment.outsideDeclares 0 rest
        else Segment.outsideDeclares 0 xs ++ (Segment.outsideDeclares 0 ys ++
          c :: Segment.outsideDeclares 0 rest)) := by
  rw [Segment.outsideDeclares_opens hs, Segment.outsideDeclares_append hbody,
    Segment.outsideDeclares_append_more hmore, Segment.outsideDeclares_closes hc]
  split
  · rw [Segment.outsideDeclares_inside hbody, Segment.outsideDeclares_inside_more hmore]
    rfl
  · rfl

/-- A block is immediate just if the directive that starts it is quiet and so is what it runs, which
is nothing in a block that is only declared. -/
theorem isImmediate_block {s : Segment} {body : List Node} {more : List Branch}
    {xs ys : List Segment} {step : Step} (hstep : buildNode debug (.block s body more) = .ok step)
    (hbody : ∀ steps, buildNodes debug body = .ok steps →
      (stepsImmediate steps = true ↔ Quiet (Segment.outsideDeclares 0 xs)))
    (hmore : s.kind = .conditional → ∀ others, buildAlternatives debug more = .ok others →
      (allImmediate others = true ↔ Quiet (Segment.outsideDeclares 0 ys))) :
    step.isImmediate = true ↔ s.awaits = false ∧ (s.kind ≠ .declare →
      Quiet (Segment.outsideDeclares 0 xs) ∧ Quiet (Segment.outsideDeclares 0 ys)) := by
  rw [buildNode] at hstep
  rw [awaits_eq_false_iff]
  -- an iteration or a custom block is never immediate, and its directive is never quiet
  cases hk : s.kind with
  | text | output | render | inclusion =>
    rw [hk] at hstep
    cases hstep
  | conditional =>
    rw [hk] at hstep
    dsimp only at hstep
    split at hstep
    · cases hstep
    obtain ⟨test, htest, hstep⟩ := Except.bind_eq_ok_iff.1 hstep
    obtain ⟨bodySteps, hbodySteps, hstep⟩ := Except.bind_eq_ok_iff.1 hstep
    obtain ⟨others, hothers, hstep⟩ := Except.bind_eq_ok_iff.1 hstep
    cases hstep
    rw [Step.isImmediate, allImmediate, Bool.and_eq_true, isImmediate_branch htest bodySteps,
      hbody bodySteps hbodySteps, hmore hk others hothers]
    exact ⟨fun h => ⟨⟨rfl, h.1.1⟩, fun _ => ⟨h.1.2, h.2⟩⟩,
      fun h => ⟨⟨h.1.2, (h.2 Kind.noConfusion).1⟩, (h.2 Kind.noConfusion).2⟩⟩
  | iterator =>
    rw [hk] at hstep
    obtain ⟨-, -, hstep⟩ := Except.bind_eq_ok_iff.1 hstep
    obtain ⟨e, -, hstep⟩ := Except.bind_eq_ok_iff.1 hstep
    obtain ⟨bodySteps, -, hstep⟩ := Except.bind_eq_ok_iff.1 hstep
    cases hstep
    exact iff_of_false Bool.false_ne_true fun h => Bool.false_ne_true h.1.1.symm
  | custom =>
    rw [hk] at hstep
    obtain ⟨path, -, hstep⟩ := Except.bind_eq_ok_iff.1 hstep
    obtain ⟨bodySteps, -, hstep⟩ := Except.bind_eq_ok_iff.1 hstep
    obtain ⟨others, -, hstep⟩ := Except.bind_eq_ok_iff.1 hstep
    cases hstep
    exact iff_of_false Bool.false_ne_true fun h => Bool.false_ne_true h.1.1.symm
  | declare =>
    rw [hk] at hstep
    obtain ⟨-, -, hstep⟩ := Except.bind_eq_ok_iff.1 hstep
    obtain ⟨name, hname, hstep⟩ := Except.bind_eq_ok_iff.1 hstep
    obtain ⟨bodySteps, -, hstep⟩ := Except.bind_eq_ok_iff.1 hstep
    cases hstep
    rw [Step.isImmediate, isEmpty_head, List.length_nil, Nat.zero_add,
      callCount_of_requireName hname]
    exact ⟨fun h => ⟨⟨rfl, h⟩, fun hne => absurd rfl hne⟩, fun h => h.1.2⟩

mutual

/-- The steps of nodes are immediate just if the segments of the nodes, but for those in bodies that
are only declared, hand nothing over and make no calls. -/
theorem stepsImmediate_buildNodes {nodes : List Node} {xs : List Segment}
    (hflat : Flattens nodes xs) (htidy : ∀ s ∈ xs, s.Tidy) {steps : List Step}
    (hsteps : buildNodes debug nodes = .ok steps) :
    stepsImmediate steps = true ↔ Quiet (Segment.outsideDeclares 0 xs) := by
  cases hflat with
  | nil =>
    cases hsteps
    exact ⟨fun _ s hs => (nomatch hs), fun _ => rfl⟩
  | @text s nodes rest hs h =>
    obtain ⟨hsegment, hrest⟩ := List.forall_mem_cons.1 htidy
    obtain ⟨step, hstep, hsteps⟩ := Except.bind_eq_ok_iff.1 hsteps
    obtain ⟨steps', hsteps', hsteps⟩ := Except.bind_eq_ok_iff.1 hsteps
    cases hsteps
    have hawaits : s.awaits = false :=
      awaits_eq_false_iff.2 ⟨hs.symm ▸ rfl, hsegment (.inl hs)⟩
    rw [stepsImmediate_consStep, stepsImmediate_buildNodes h hrest hsteps',
      Segment.outsideDeclares_leaf (Segment.not_delimits_of_text hs)]
    exact (and_congr_left fun _ => iff_of_true (isImmediate_textStep hstep) hawaits).trans
      quiet_cons.symm
  | @output s nodes rest hs h =>
    obtain ⟨-, hrest⟩ := List.forall_mem_cons.1 htidy
    obtain ⟨step, hstep, hsteps⟩ := Except.bind_eq_ok_iff.1 hsteps
    obtain ⟨steps', hsteps', hsteps⟩ := Except.bind_eq_ok_iff.1 hsteps
    cases hsteps
    have hd := Segment.not_delimits_of_isSelfContained (Segment.isSelfContained_of_output hs)
    have hawaits : s.awaits = false ↔ s.callCount = 0 := by
      rw [awaits_eq_false_iff, hs]
      exact and_iff_right rfl
    rw [stepsImmediate_consStep, isImmediate_outputStep hstep,
      stepsImmediate_buildNodes h hrest hsteps', Segment.outsideDeclares_leaf hd, ← hawaits]
    exact quiet_cons.symm
  | @inline s nodes rest hk hs h =>
    obtain ⟨step, hstep, hsteps⟩ := Except.bind_eq_ok_iff.1 hsteps
    obtain ⟨steps', -, hsteps⟩ := Except.bind_eq_ok_iff.1 hsteps
    cases hsteps
    have hawaits : ¬ s.awaits = false := by
      rw [awaits_eq_false_iff, handsOver_of_inline hk hs]
      exact fun h => Bool.false_ne_true h.1.symm
    rw [stepsImmediate_consStep, not_isImmediate_inlineStep hstep,
      Segment.outsideDeclares_leaf (Segment.not_delimits_of_isSelfContained hs)]
    exact iff_of_false (fun h => Bool.false_ne_true h.1) fun h => hawaits (quiet_cons.1 h).1
  | @block s body more c nodes xs ys rest hs hbody hmore hc h =>
    obtain ⟨-, htidy⟩ := List.forall_mem_cons.1 htidy
    obtain ⟨hxs, htidy⟩ := List.forall_mem_append.1 htidy
    obtain ⟨hys, htidy⟩ := List.forall_mem_append.1 htidy
    obtain ⟨hclosing, hrest⟩ := List.forall_mem_cons.1 htidy
    obtain ⟨step, hstep, hsteps⟩ := Except.bind_eq_ok_iff.1 hsteps
    obtain ⟨steps', hsteps', hsteps⟩ := Except.bind_eq_ok_iff.1 hsteps
    cases hsteps
    have hblock : step.isImmediate = true ↔ s.awaits = false ∧ (s.kind ≠ .declare →
        Quiet (Segment.outsideDeclares 0 xs) ∧ Quiet (Segment.outsideDeclares 0 ys)) :=
      isImmediate_block hstep (fun _ => stepsImmediate_buildNodes hbody hxs)
      (fun hk others => allImmediate_buildAlternatives (hk ▸ hmore) hys)
    rw [stepsImmediate_consStep, hblock, stepsImmediate_buildNodes h hrest hsteps',
      outsideDeclares_block hs hbody hmore hc, quiet_cons, and_assoc]
    refine and_congr_right fun hawaits => ?_
    have hkind := (awaits_eq_false_iff.1 hawaits).1
    -- the end of the block is one segment more, which is quiet by itself
    split
    · next hdeclare => exact ⟨fun h => h.2, fun h => ⟨fun hne => absurd hdeclare hne, h⟩⟩
    · next hdeclare =>
      rw [quiet_append, quiet_append, quiet_cons]
      exact ⟨fun h => ⟨(h.1 hdeclare).1, (h.1 hdeclare).2, awaits_closes hc hclosing hkind, h.2⟩,
        fun h => ⟨fun _ => ⟨h.1, h.2.1⟩, h.2.2.2⟩⟩
termination_by sizeOf nodes

/-- So it is with the branches of a conditional behind its first. -/
theorem allImmediate_buildAlternatives {more : List Branch} {ys : List Segment}
    (hflat : FlattensMore .conditional more ys) (htidy : ∀ s ∈ ys, s.Tidy)
    {others : List Alternative} (hothers : buildAlternatives debug more = .ok others) :
    allImmediate others = true ↔ Quiet (Segment.outsideDeclares 0 ys) := by
  cases hflat with
  | nil =>
    cases hothers
    exact ⟨fun _ s hs => (nomatch hs), fun _ => rfl⟩
  | @cons _ s body more xs ys hs hbody hmore =>
    obtain ⟨-, htidy⟩ := List.forall_mem_cons.1 htidy
    obtain ⟨hxs, hys⟩ := List.forall_mem_append.1 htidy
    obtain ⟨test, htest, hothers⟩ := Except.bind_eq_ok_iff.1 hothers
    obtain ⟨bodySteps, hbodySteps, hothers⟩ := Except.bind_eq_ok_iff.1 hothers
    obtain ⟨others', hothers', hothers⟩ := Except.bind_eq_ok_iff.1 hothers
    cases hothers
    have hawaits : s.awaits = false ↔ s.callCount = 0 := by
      rw [awaits_eq_false_iff, hs.1]
      exact and_iff_right rfl
    -- the branch waits if its own segment does, or one in it, or one in a later branch
    rw [allImmediate, Bool.and_eq_true, isImmediate_branch htest bodySteps,
      stepsImmediate_buildNodes hbody hxs hbodySteps,
      allImmediate_buildAlternatives hmore hys hothers', Segment.outsideDeclares_continues hs,
      Segment.outsideDeclares_append hbody, and_assoc, ← hawaits, ← quiet_append]
    exact quiet_cons.symm
termination_by sizeOf more

end

/-- A template may have to wait just if one of its segments, outside of the bodies that are only
declared, hands control to others or makes a call. -/
theorem isAsync_iff {segments : List Segment} (htidy : ∀ s ∈ segments, s.Tidy) {scope : Scope}
    (h : compile debug segments = .ok scope) :
    scope.isAsync = true ↔ ∃ s ∈ Segment.outsideDeclares 0 segments, s.awaits = true := by
  obtain ⟨nodes, hnodes, h⟩ := Except.bind_eq_ok_iff.1 h
  obtain ⟨steps, hsteps, h⟩ := Except.bind_eq_ok_iff.1 h
  cases h
  have himmediate := stepsImmediate_buildNodes (Node.flattens_of_scan hnodes) htidy hsteps
  rw [isAsync_eq, Scope.isImmediate, Bool.not_eq_true', ← Bool.not_eq_true, himmediate, Quiet]
  simp

/-- Nothing is left for later of a scope that never waits. -/
theorem later_eq_nil {scope : Scope} (h : scope.isAsync = false) : scope.later = [] := by
  rw [isAsync_eq, Bool.not_eq_false'] at h
  rw [← List.isEmpty_iff, isEmpty_later, h]

/-- All steps of a synchronous scope run when it is started. -/
theorem now_eq_steps {scope : Scope} (h : scope.isAsync = false) : scope.now = scope.steps := by
  rw [← now_append_later, later_eq_nil h, List.append_nil]

end Scope

/-! ## Starting -/

namespace Task

open Scope

variable {H : Host} [Evaluator]

/-- A scope that never waits is run as a whole when it is started. -/
theorem watchStart_of_not_async {scope : Scope} (h : scope.isAsync = false) (channel : Channel)
    (frame : Frame) (site : Site) (w : World H) :
    watchStart scope channel frame site w =
      (w.watchNow (scope.run channel frame site)).bind fun r => .pure (finished r.1, r.2) := by
  have hstarted : ∀ o, started (H := H) scope channel frame site o = finished o := by
    intro o
    unfold started
    rw [later_eq_nil h]
    cases o <;> rfl
  obtain ⟨steps⟩ := scope
  rw [watchStart, now_eq_steps h, Scope.run_mk]
  simp only [hstarted]
  rfl

/-- It comes to its end in that, whatever that is. -/
theorem start_of_not_async {scope : Scope} (h : scope.isAsync = false) (channel : Channel)
    (frame : Frame) (site : Site) (w : World H) :
    ∃ o w', w.runNow (scope.run channel frame site) = some (o, w') ∧
      start scope channel frame site w = some (finished o, w') := by
  have himmediate : scope.isImmediate = true := by
    rw [isAsync_eq, Bool.not_eq_false'] at h
    exact h
  obtain ⟨o, w', hrun⟩ :=
    World.exists_runNow (scope.instant_run himmediate channel frame site) w
  refine ⟨o, w', hrun, ?_⟩
  rw [← watchStart_result, watchStart_of_not_async h, Watched.result_bind,
    World.watchNow_result, hrun]
  rfl

end Task

namespace Segment

/-- A template with a conditional in a conditional, and a declaration with a call between them. -/
def quietSource : String :=
  "\x7b?\x7ba\x7d\x7dy\x7b+\x7bn\x7d\x7d\x7b\x7bf()\x7d\x7d\x7b+\x7b/\x7d\x7d" ++
    "\x7b?\x7bb\x7d\x7d\x7b\x7bx\x7d\x7d\x7b?\x7b/\x7d\x7d\x7b?\x7b/\x7d\x7d"

/-- What `quietSource` is read as. -/
def quiet : List Segment :=
  [⟨.conditional, .start, none, none, some [.path "a"], [], false, false⟩,
    ⟨.text, ⟨6, 1, 7⟩, some "y", none, none, [], false, false⟩,
    ⟨.declare, ⟨7, 1, 8⟩, none, none, some [.path "n"], [], false, false⟩,
    ⟨.output, ⟨13, 1, 14⟩, none, none, some [.call "f" [] none], [], false, false⟩,
    ⟨.declare, ⟨20, 1, 21⟩, none, none, none, [], true, false⟩,
    ⟨.conditional, ⟨26, 1, 27⟩, none, none, some [.path "b"], [], false, false⟩,
    ⟨.output, ⟨32, 1, 33⟩, none, none, some [.path "x"], [], false, false⟩,
    ⟨.conditional, ⟨37, 1, 38⟩, none, none, none, [], true, false⟩,
    ⟨.conditional, ⟨43, 1, 44⟩, none, none, none, [], true, false⟩]

/-- What the text with a call in a declaration is read as. -/
theorem parse_quietSource : parse quietSource = .ok quiet := by
  have hlist : quietSource.toList =
      '\x7b' :: '?' :: '\x7b' :: 'a' :: '\x7d' :: '\x7d' :: 'y' ::
      '\x7b' :: '+' :: '\x7b' :: 'n' :: '\x7d' :: '\x7d' ::
      '\x7b' :: '\x7b' :: 'f' :: '(' :: ')' :: '\x7d' :: '\x7d' ::
      '\x7b' :: '+' :: '\x7b' :: '/' :: '\x7d' :: '\x7d' ::
      '\x7b' :: '?' :: '\x7b' :: 'b' :: '\x7d' :: '\x7d' ::
      '\x7b' :: '\x7b' :: 'x' :: '\x7d' :: '\x7d' ::
      '\x7b' :: '?' :: '\x7b' :: '/' :: '\x7d' :: '\x7d' ::
      '\x7b' :: '?' :: '\x7b' :: '/' :: '\x7d' :: '\x7d' :: [] := by cbv
  rw [parse, hlist, split, splitAt_directive (takeDirective?_marked rfl _ rfl),
    splitAt_text (by decide), splitAt_directive (takeDirective?_marked rfl _ rfl),
    splitAt_directive (takeDirective?_output rfl _),
    splitAt_directive (takeDirective?_marked rfl _ rfl),
    splitAt_directive (takeDirective?_marked rfl _ rfl),
    splitAt_directive (takeDirective?_output rfl _),
    splitAt_directive (takeDirective?_marked rfl _ rfl),
    splitAt_directive (takeDirective?_marked rfl _ rfl), splitAt]
  cbv

end Segment

namespace Scope

/-- A body with a call. -/
def calling : Scope := .mk [.output ⟨none, [⟨none, "f", [], none, none⟩], [], none⟩ [.slot 0]]

/-- What `Segment.quietSource` compiles to. -/
def quietNested : Scope :=
  .mk [.choice [.mk ⟨none, [], [], none⟩ (some ⟨[], [.lookup "a"]⟩) (.mk [.text "y",
    .declare ⟨none, [], [], none⟩ "n" calling,
    .choice [.mk ⟨none, [], [], none⟩ (some ⟨[], [.lookup "b"]⟩)
      (.mk [.output ⟨none, [], [], none⟩ [.lookup "x"]])]])]]

/-- Whether a template may have to wait is known exactly: it may when one of the segments of its
text, outside of all bodies that are only declared, is an iteration, a custom directive, a fragment
or a partial, or has a call in its expression or in the arguments of its modifiers, at any depth. If
it never waits then starting it does all it does: the same requests are made with the same answers,
up to the first error, as when its program is run from end to end. What is left has the outcome of
that when it is first polled, and polling it changes nothing. -/
theorem isAsync_exact [Evaluator] (debug : Bool) (source : String) {scope : Scope}
    (h : compileText debug source = .ok scope) :
    ∃ segments, Segment.parse source = .ok segments ∧
      (scope.isAsync = true ↔ ∃ s ∈ Segment.outsideDeclares 0 segments,
        s.kind = .iterator ∨ s.kind = .custom ∨ s.kind = .render ∨ s.kind = .inclusion ∨
          0 < s.callCount) ∧
      (scope.isAsync = false → ∀ (H : Host) channel frame site (w : World H), ∃ o w',
        w.runNow (scope.run channel frame site) = some (o, w') ∧
          Task.start scope channel frame site w = some (.finished o, w') ∧
          (Task.watchStart scope channel frame site w).events =
            (w.watchNow (scope.run channel frame site)).events ∧
          ∀ n, Task.poll (n + 1) (.finished o) w' = some ⟨.finished o, false, w'⟩) := by
  obtain ⟨segments, hsegments, hcompile⟩ := Except.bind_eq_ok_iff.1 h
  rw [Except.mapError_eq_ok_iff] at hsegments hcompile
  have hawaits : ∀ s : Segment, s.awaits = true ↔
      s.kind = .iterator ∨ s.kind = .custom ∨ s.kind = .render ∨ s.kind = .inclusion ∨
        0 < s.callCount := by
    intro s
    rw [Segment.awaits, Bool.or_eq_true, decide_eq_true_iff]
    cases s.kind <;> simp [Kind.handsOver]
  refine ⟨segments, hsegments, ?_, ?_⟩
  · rw [isAsync_iff (Segment.tidy_of_parse hsegments) hcompile]
    exact exists_congr fun s => and_congr_right fun _ => hawaits s
  · -- without anything to wait for, starting the scope is running all of it
    intro hasync H channel frame site w
    obtain ⟨o, w', hrun, hstart⟩ := Task.start_of_not_async hasync channel frame site w
    refine ⟨o, w', hrun, hstart, ?_, fun n => rfl⟩
    rw [Task.watchStart_of_not_async hasync,
      Watched.events_bind_some ((World.watchNow_result _ w).trans hrun)]
    exact List.append_nil _

/-- The call in a body that is only declared does not matter. When the template has been started
both of its texts have been written and the fragment is kept. -/
theorem isAsync_exact_nested :
    let data : Value := .object (.given 0)
      (.ofList [("a", .bool true), ("b", .bool true), ("x", .text "v")])
    let w : World Host.mute.recorded := .start ((), []) .empty .builtin false
    let w' := { w with
      host := ((), [.wrote "y", .wrote "v"]), fragments := [("n", ⟨.ofData data, calling, []⟩)] }
    compileText false Segment.quietSource = .ok quietNested ∧ quietNested.isAsync = false ∧
      Segment.quiet.map Segment.callCount = [0, 0, 0, 1, 0, 0, 0, 0, 0] ∧
      (Segment.outsideDeclares 0 Segment.quiet).map Segment.callCount = [0, 0, 0, 0, 0, 0, 0] ∧
      Task.start quietNested [] (.ofData data) (.start 0) w = some (.finished (.ok ()), w') ∧
      ∀ n, Task.poll (n + 1) (.finished (.ok ())) w' = some ⟨.finished (.ok ()), false, w'⟩ := by
  intro data w w'
  have hcompile : compileText false Segment.quietSource = .ok quietNested := by
    rw [compileText, Segment.parse_quietSource]
    cbv
  have hasync : quietNested.isAsync = false := rfl
  refine ⟨hcompile, hasync, by cbv, by cbv, ?_⟩
  obtain ⟨segments, -, -, hstart⟩ := isAsync_exact false _ hcompile
  obtain ⟨o, w'', hrun, hstarted, -, hpoll⟩ := hstart hasync _ [] (.ofData data) (.start 0) w
  have hwhole : w.runNow (quietNested.run [] (.ofData data) (.start 0)) = some (.ok (), w') := rfl
  cases hrun.symm.trans hwhole
  exact ⟨hstarted, hpoll⟩

end Scope

end Stencil
