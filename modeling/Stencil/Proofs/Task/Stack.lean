import Mathlib.Data.List.Induction
import Stencil.Proofs.Task.Inside
import Stencil.Proofs.Task.Session

/-!
# Stencil.Proofs.Task.Stack — stacks of wrappers

A stack of wrappers around the session hands the sink what the modifiers of all wrappers make of a
text, those of the last wrapper first. Iterations, helpers and templates that work with the stack
write by way of all of it (`Action.SendsThrough`), and the stack does nothing else that the session
would not do (`Engine.stack_sends_through`).
-/

namespace Stencil

/-- The world with its sink behind blocks. -/
def World.behind {H : Host} (w : World H) (way : Channel) : World (H.behind w.modifiers way) :=
  ⟨w.host, w.halted, w.fragments, w.catalog, w.modifiers, w.debug⟩

/-- The innermost chain is the one a text passes first. -/
theorem Channel.around_concat (chains : List (List AppliedModifier))
    (chain : List AppliedModifier) : around (chains ++ [chain]) = wrap chain (around chains) :=
  List.foldl_append

/-- A text may as well go through blocks that have no modifiers. -/
theorem Modifiers.passAll_around (modifiers : Modifiers) (chains : List (List AppliedModifier))
    {text : String} (htext : text ≠ "") :
    modifiers.passAll (Channel.around chains) text = modifiers.passAll chains.reverse text := by
  induction chains using List.reverseRecOn generalizing text with
  | nil => rfl
  | append_singleton chains chain ih =>
    rw [Channel.around_concat, List.reverse_append, List.reverse_singleton, List.singleton_append]
    cases chain with
    | nil =>
      rw [passAll, pass_nil]
      exact (ih htext).trans (if_neg htext).symm
    | cons m chain =>
      show modifiers.passAll ((m :: chain) :: Channel.around chains) text = _
      rw [passAll, passAll]
      refine bind_congr fun passed => ?_
      by_cases hpassed : passed = ""
      · rw [if_pos hpassed, if_pos hpassed]
      · rw [if_neg hpassed, if_neg hpassed, ih hpassed]

/-- A sink that accepts a text stores it. -/
theorem World.exists_write_of_accepts {H : Host} {texts : H.State → List String}
    (hsink : H.Stores texts) {text : String} (haccepts : ∀ s, (H.write text s).1 = .ok ())
    {w : World H} (hw : w.halted = false) (htext : text ≠ "") :
    ∃ host, w.write text = (.ok (), { w with host }) ∧ texts host = texts w.host ++ [text] := by
  have hstored := hsink.write text w.host
  have hsent : w.write text = (.ok (), { w with host := (H.write text w.host).2 }) := by
    unfold World.write
    rw [if_neg (ne_true_of_eq_false hw), if_neg htext, ← haccepts w.host]
  rw [haccepts] at hstored
  exact ⟨_, hsent, hstored⟩

section Stack

variable [Evaluator]

/-- Whether an action does what another one does, but for its texts, and those of the helpers and
scopes that it waits for: all of these are sent on this way. So it comes to what the other one comes
to when the sink itself stands behind the blocks on the way. -/
structure Action.SendsThrough (way : Channel) (outside inside : Action Unit) : Prop where
  eq_through : inside = outside.through way
  ends_iff {H : Host} (w : World H) (deadline : Option Deadline) (o : Outcome) (w' : World H) :
    Task.Ends deadline (.running inside []) w (o, w') ↔
      ∃ v', Task.Ends deadline (.running outside []) (w.behind way) (o, v') ∧ w' = v'.front

/-- An action that is another one behind a way sends its texts through it. -/
theorem Action.sendsThrough {way : Channel} {outside inside : Action Unit}
    (h : inside = outside.through way) : SendsThrough way outside inside where
  eq_through := h
  ends_iff {H} w deadline o w' := by
    have hinside : Task.Inside (.running outside [] : Task (H.behind w.modifiers way))
        (.running (outside.through way) []) := .running outside []
    rw [h]
    exact hinside.ends_iff (v := w.behind way) rfl w'

/-- A stack of wrappers sends a text through the modifiers of all of them, the last wrapper's first,
to the sink, has iterations, helpers and templates work with itself, and is the session otherwise;
the scopes that are run, the iterations, the helpers and the templates that work with it send all of
their texts through it. -/
theorem Engine.stack_sends_through (chains : List (List AppliedModifier)) :
    let stack := chains.foldl Engine.withModifiers .session
    let way := Channel.around chains
    (∀ {H : Host} {texts : H.State → List String}, H.Stores texts →
      (∀ text s, (H.write text s).1 = .ok ()) →
      ∀ (w : World H) (text : String), w.halted = false → text ≠ "" →
        match w.modifiers.passAll chains.reverse text with
        | .ok (some out) => ∃ host, w.runNow (stack.write text) = some (.ok (), { w with host }) ∧
            texts host = texts w.host ++ [out]
        | .ok none => w.runNow (stack.write text) = some (.ok (), w)
        | .error e => w.runNow (stack.write text) = some (.error e, w)) ∧
    stack = { Engine.session with
      way := way
      write := way.write
      iterate := fun collection base site body => runIteration collection base site (body way)
      invokeCustom := runCustom way
      renderPartial := runTemplate way } ∧
    (∀ (body : Scope) (frame : Frame) (site : Site),
      Action.SendsThrough way (body.run [] frame site) (body.run way frame site)) ∧
    (∀ (collection : Value) (base : Frame) (site : Site) (body : Frame → Site → Action Unit),
      Action.SendsThrough way (runIteration collection base site body)
        (runIteration collection base site fun frame site => (body frame site).through way)) ∧
    (∀ (path : String) (frame : Frame) (site : Site) (bodies : List Scope),
      Action.SendsThrough way (runCustom [] path frame site bodies)
        (runCustom way path frame site bodies)) ∧
    ∀ (name : String) (frame : Frame) (site : Site),
      Action.SendsThrough way (runTemplate [] name frame site)
        (runTemplate way name frame site) := by
  intro stack way
  have hstack : stack = .ofChannel way := Engine.foldl_withModifiers chains
  refine ⟨fun {H texts} hsink haccepts w text hw htext => ?_, hstack, fun body frame site => ?_,
    fun collection base site body => ?_, fun path frame site bodies => ?_,
    fun name frame site => ?_⟩
  · have hrun := World.runNow_write hw way htext
    have hwrite : stack.write = way.write := congrArg Engine.write hstack
    -- a wrapper without modifiers is no block on the way, and would pass the text on as it is
    rw [Modifiers.passAll_around _ _ htext] at hrun
    rw [hwrite, hrun]
    cases hpass : w.modifiers.passAll chains.reverse text with
    | error e => rfl
    | ok passed =>
      cases passed with
      | none => rfl
      | some out =>
        have hout : out ≠ "" := Modifiers.ne_empty_of_passAll htext hpass
        obtain ⟨host, hsent, hstored⟩ := World.exists_write_of_accepts hsink (haccepts out) hw hout
        exact ⟨host, congrArg some hsent, hstored⟩
  · exact Action.sendsThrough (body.run_append [] way frame site)
  · refine Action.sendsThrough ?_
    unfold runIteration
    rw [Action.through_bind]
    exact bind_congr fun es => (through_runEntries way body base site es).symm
  · exact Action.sendsThrough (runCustom_append way [] path frame site bodies)
  · exact Action.sendsThrough (runTemplate_append way [] name frame site)

/-- A text that is encoded, and then put into capitals. -/
theorem Engine.stack_sends_through_encoded :
    let chains : List (List AppliedModifier) := [[⟨"upper", []⟩], [⟨"encode", []⟩]]
    let w : World Functions.stalled.host := .start [] .empty .builtin false
    ∃ texts, w.runNow ((chains.foldl Engine.withModifiers .session).write "a<b") =
      some (.ok (), { w with host := texts }) ∧ texts = ["A&LT;B"] := by
  intro chains w
  have hpass : w.modifiers.passAll chains.reverse "a<b" = .ok (some "A&LT;B") := rfl
  have hwrite := (Engine.stack_sends_through chains).1 Functions.stalled.stores_host
    (fun text s => rfl) w "a<b" rfl (by decide)
  rw [hpass] at hwrite
  exact hwrite

end Stack

end Stencil
