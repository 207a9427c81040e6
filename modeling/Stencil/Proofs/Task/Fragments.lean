import Stencil.Proofs.Program.Directives
import Stencil.Proofs.Program.Merge
import Stencil.Proofs.Program.Through
import Stencil.Proofs.Task.Meanwhile
import Stencil.Proofs.Task.Passage
import Stencil.Proofs.Task.Session

/-!
# Stencil.Proofs.Task.Fragments — the declaration that was executed last

Declarations and named renders may be executed in any order, by whatever is at work in a session. A
fragment that is looked up is the one that was declared last (`Session.lookup_eq`): it does not
matter where that was, nor through how many blocks. So a named render renders the body of the last
declaration of its name, on a frame inside the one of the declaration, and what the body writes
goes through the modifiers of the declaration, those of the render, and those of the blocks around
the render (`Session.renders_latest_declaration`).
-/

namespace Stencil

/-! ## Declarations -/

/-- The fragment that is declared under this name, if one is. -/
def Happening.declared? (name : String) : Happening → Option Fragment
  | seen (.answered (.declare other fragment) _) => if other = name then some fragment else none
  | _ => none

/-- The fragment that was declared last under a name. -/
def latest (name : String) (hs : List Happening) : Option Fragment :=
  (hs.filterMap (Happening.declared? name)).getLast?

/-- What is declared later takes the place of what was declared before. -/
theorem latest_append (name : String) (xs ys : List Happening) :
    latest name (xs ++ ys) = (latest name ys).or (latest name xs) := by
  unfold latest
  rw [List.filterMap_append, List.getLast?_append]

/-- Where nothing is declared, there is no last declaration. -/
theorem latest_eq_none {name : String} {hs : List Happening}
    (h : ∀ x ∈ hs, x.declared? name = none) : latest name hs = none := by
  unfold latest
  rw [List.filterMap_eq_nil_iff.2 h]
  rfl

theorem Happening.declared?_of_not_isAnswer {ev : Event} (h : ev.isAnswer = false)
    (name : String) : (seen ev).declared? name = none := by
  cases ev with
  | answered q a => cases h
  | asked | returned | flushed => rfl

/-- What happens when a fragment is declared. -/
def declaring (name : String) (fragment : Fragment) : List Event :=
  [.asked (.declare name fragment), .answered (.declare name fragment) ()]

/-- A declaration is the latest of its own name, and of no other. -/
theorem latest_declaring (name other : String) (fragment : Fragment) :
    latest other (happenings (declaring name fragment)) =
      if other = name then some fragment else none := by
  by_cases hname : other = name
  · simp [latest, happenings, declaring, Happening.declared?, hname]
  · simp [latest, happenings, declaring, Happening.declared?, hname, Ne.symm hname]

/-! ## What is kept -/

section Kept

variable {H : Host} {w w' : World H} {hs : List Happening}

/-- A step keeps what it declares, and all else that was kept. -/
theorem World.Step.lookup_eq (h : Step hs w w') (name : String) :
    w'.fragments.lookup name = (latest name hs).or (w.fragments.lookup name) := by
  obtain ⟨q, a, ha, rfl⟩ | ⟨rfl, rfl⟩ | ⟨es, s, rfl, rfl, hes⟩ := h.cases
  · -- of all that is answered, only declarations change what is kept
    cases q with
    | call | custom | enter => cases ha
    | isHalted | halt | modify | resolve | template =>
      cases ha
      rfl
    | write text =>
      have hkept : w'.fragments = w.fragments := by
        have hwrite : w.write text = (a, w') := Option.some.inj ha
        obtain heq | ⟨-, heq⟩ | ⟨-, heq⟩ := w.write_eq text
        all_goals
          rw [heq] at hwrite
          cases hwrite
          rfl
      rw [hkept]
      rfl
    | declare other fragment =>
      cases ha
      refine Eq.trans ?_ (congrArg (Option.or · _) (latest_declaring other name fragment).symm)
      by_cases hname : name = other
      · subst hname
        rw [w.lookup_declare_self, if_pos rfl]
        rfl
      · rw [w.lookup_declare_of_ne other fragment hname, if_neg hname]
        rfl
  · rfl
  · have hnone : latest name (happenings es) = none := by
      refine latest_eq_none fun x hx => ?_
      obtain ⟨ev, hev, rfl⟩ := List.mem_map.1 hx
      exact Happening.declared?_of_not_isAnswer (hes ev hev) name
    rw [hnone]
    rfl

/-- A session keeps under each name what was declared last, whoever has declared it. -/
theorem Session.lookup_eq (h : Session hs w w') (name : String) :
    w'.fragments.lookup name = (latest name hs).or (w.fragments.lookup name) := by
  induction h with
  | begin w => rfl
  | step _ hstep ih => rw [hstep.lookup_eq, ih, latest_append, Option.or_assoc]

/-- In a session that starts without fragments, the one of a name is the one declared last. -/
theorem Session.lookup_eq_latest (h : Session hs w w') (hfresh : w.fragments = [])
    (name : String) : w'.fragments.lookup name = latest name hs := by
  rw [h.lookup_eq, hfresh, List.lookup_nil, Option.or_none]

end Kept

/-! ## Directives at a moment of a session -/

/-- Whether this is a frame inside that of a declaration, for a render that gives these data at
this place. -/
structure Frame.IsInside (declared : Frame) (site : Site) (given : Value) (inside : Frame) :
    Prop where
  parent : inside.parent = some declared
  name : inside.name = declared.name
  data : Value.Merged site given declared.data inside.data

/-- Whether a way leads through the modifiers of a declaration first, then through those of a
render, and then through the blocks around the render. -/
structure Channel.LeadsThrough (declared given : List AppliedModifier) (around way : Channel) :
    Prop where
  /-- What is run there has its texts sent on this way, and does what it does elsewhere. -/
  run [Evaluator] (body : Scope) (frame : Frame) (site : Site) :
    body.run way frame site = (body.run [] frame site).through way
  /-- A text becomes what the modifiers of the declaration make of it, then what those of the
  render make of that, and this goes the way of a text that is written where the render stands. -/
  write {H : Host} (w : World H) (hw : w.halted = false) (text : String) :
    w.runNow (way.write text) =
      match w.modifiers.pass declared text >>= w.modifiers.pass given with
      | .ok passed => w.runNow (around.write passed)
      | .error e => some (.error e, w)

section Moments

variable [Evaluator] {H : Host}

/-- What a declaration does at a moment of a session when its calls have been made. -/
structure Session.Declares (hs : List Happening) (w₀ w : World H) (frame : Frame) (site : Site)
    (head : Head) (name : String) (body : Scope) (slots : List Value) : Prop where
  /-- When its modifiers fail, nothing is declared. -/
  failed (e : RenderError) :
    head.evaluated (frame.reroot site head.context) slots = .error e →
      w.watchNow (head.declareNamed frame site name body slots) = ⟨[], some (.error e, w)⟩
  /-- Else its body, the frame that it sees and its modifiers are what was declared last. -/
  declared (modifiers : List AppliedModifier) :
    head.evaluated (frame.reroot site head.context) slots = .ok modifiers →
      ∃ es w', w.watchNow (head.declareNamed frame site name body slots) =
          ⟨es, some (.ok (), w')⟩ ∧
        Session (hs ++ happenings es) w₀ w' ∧
        ∀ other, latest other (hs ++ happenings es) =
          if other = name then some ⟨frame.reroot site head.context, body, modifiers⟩
          else latest other hs

/-- What a named render does at a moment of a session when its calls have been made, whatever is to
be done behind it. -/
structure Session.Renders (hs : List Happening) (w : World H) (channel : Channel) (frame : Frame)
    (site : Site) (head : Head) (name : String) (slots : List Value) : Prop where
  /-- Nothing, if nothing has been declared under the name. -/
  nothing (h : latest name hs = none) (n : Nat) (k : Outcome → Action Unit) (returns : Returns) :
    Task.poll (n + 1)
        (.running (Program.bind (head.renderNamed channel frame site name slots) k) returns) w =
      Task.poll n (.running (k (.ok ())) returns) w
  /-- It fails if its own modifiers do. -/
  failed {fragment : Fragment} (h : latest name hs = some fragment) {e : RenderError}
    (hgiven : head.evaluated (frame.reroot site head.context) slots = .error e) (n : Nat)
    (k : Outcome → Action Unit) (returns : Returns) :
    Task.poll (n + 1)
        (.running (Program.bind (head.renderNamed channel frame site name slots) k) returns) w =
      Task.poll n (.running (k (.error e)) returns) w
  /-- Else the body of the last declaration is run, and its outcome is that of the render. -/
  rendered {fragment : Fragment} (h : latest name hs = some fragment)
    {given : List AppliedModifier}
    (hgiven : head.evaluated (frame.reroot site head.context) slots = .ok given) :
    ∃ inside way,
      fragment.frame.IsInside (.part site 0) (frame.reroot site head.context).data inside ∧
      Channel.LeadsThrough fragment.modifiers given channel way ∧
      ∀ (n : Nat) (k : Outcome → Action Unit) (returns : Returns),
        Task.poll (n + 2)
            (.running (Program.bind (head.renderNamed channel frame site name slots) k) returns) w =
          Task.poll n (.running (fragment.body.run way inside (.part site 0))
            ((fun r => k (r.mapError (·.locate head.position))) :: returns)) w

end Moments

/-- A text passes the modifiers given where a fragment is rendered after those it was declared with.
-/
theorem Channel.leadsThrough_wrap (declared given : List AppliedModifier) (around : Channel) :
    LeadsThrough declared given around (wrap declared (wrap given around)) where
  -- a body whose channel is empty runs as it stands
  run body frame site := body.run_append [] _ frame site
  write w hw text := by
    rw [World.runNow_write_wrap hw]
    cases w.modifiers.pass declared text with
    | error e => rfl
    | ok passed => exact World.runNow_write_wrap hw given around passed

namespace Session

variable [Evaluator] {H : Host} {w₀ w : World H} {hs : List Happening}

/-- A declaration anywhere in a session keeps its frame, its body and its modifiers under its name,
or fails as its modifiers do. -/
theorem declares (h : Session hs w₀ w) (frame : Frame) (site : Site) (head : Head)
    (name : String) (body : Scope) (slots : List Value) :
    Session.Declares hs w₀ w frame site head name body slots where
  failed e he := by
    have hprogram : head.declareNamed frame site name body slots = Program.done (.error e) := by
      show (Action.ofExcept (head.evaluated _ slots) >>= _ : Action Unit) = _
      rw [he]
      rfl
    rw [hprogram]
    rfl
  declared modifiers hmodifiers := by
    have hprogram : head.declareNamed frame site name body slots =
        Action.declare name ⟨frame.reroot site head.context, body, modifiers⟩ := by
      show (Action.ofExcept (head.evaluated _ slots) >>= _ : Action Unit) = _
      rw [hmodifiers]
      rfl
    rw [hprogram]
    refine ⟨declaring name ⟨frame.reroot site head.context, body, modifiers⟩, _, rfl,
      h.step (.answered rfl), fun other => ?_⟩
    rw [latest_append, latest_declaring]
    split <;> rfl

/-- What a named render does next depends on what was declared last. -/
theorem poll_renderNamed (h : Session hs w₀ w) (hfresh : w₀.fragments = []) (channel : Channel)
    (frame : Frame) (site : Site) (head : Head) (name : String) (slots : List Value) (n : Nat)
    (k : Outcome → Action Unit) (returns : Returns) :
    Task.poll (n + 1)
        (.running (Program.bind (head.renderNamed channel frame site name slots) k) returns) w =
      Task.poll n (.running (match latest name hs with
        | none => k (.ok ())
        | some fragment =>
          Program.bind (do
            let given ← Action.ofExcept (head.evaluated (frame.reroot site head.context) slots)
            (runFragment fragment (Channel.wrap given channel)
              (frame.reroot site head.context).data site).locate head.position : Action Unit)
            k) returns) w := by
  -- the program asks for nothing before it asks for the fragment
  have hanswer : w.answer? (.resolve name) = some (latest name hs, w) := by
    rw [← h.lookup_eq_latest hfresh]
    rfl
  refine (Task.poll_ask hanswer n _ returns).trans ?_
  cases latest name hs with
  | none => rfl
  | some fragment =>
    dsimp only
    unfold Head.applied Head.evaluated
    cases head.modifiers.mapM fun m : PendingModifier =>
      m.apply (frame.reroot site head.context) slots with
    | error e => rfl
    | ok given => rfl

/-- A render anywhere in a session renders what was declared last, in a frame below the one that was
kept. -/
theorem renders (h : Session hs w₀ w) (hfresh : w₀.fragments = []) (channel : Channel)
    (frame : Frame) (site : Site) (head : Head) (name : String) (slots : List Value) :
    Session.Renders hs w channel frame site head name slots where
  nothing hnone n k returns := by
    rw [h.poll_renderNamed hfresh, hnone]
  failed hsome e he n k returns := by
    rw [h.poll_renderNamed hfresh, hsome, he]
    rfl
  rendered {fragment} hsome {given} hgiven := by
    let data := (frame.reroot site head.context).data
    -- the frame the fragment is rendered in: a child of the frame it was declared in, with the data
    -- merged
    let inside := (fragment.frame.push (mergeData data fragment.frame.data)).hold (.part site 0)
    have hinside : fragment.frame.IsInside (.part site 0) data inside :=
      ⟨rfl, rfl, Value.merged_mergeData (.part site 0) data fragment.frame.data⟩
    refine ⟨inside, _, hinside, Channel.leadsThrough_wrap fragment.modifiers given channel, ?_⟩
    intro n k returns
    rw [h.poll_renderNamed hfresh, hsome, hgiven]
    rfl

/-- What is started in a session belongs to it. -/
theorem after_start (h : Session hs w₀ w) {scope : Scope} {channel : Channel} {frame : Frame}
    {site : Site} {es : List Event} {t : Task H} {w' : World H}
    (hstart : Task.watchStart scope channel frame site w = ⟨es, some (t, w')⟩) :
    Session (hs ++ happenings es) w₀ w' := by
  have hleads := traces.watchStart (w := w) scope channel frame site
  rw [hstart] at hleads
  exact h.trans (hleads _ rfl)

/-- **The declaration that was executed last is the one that is rendered.** All that is started and
polled in a session belongs to it. Only the declarations that a scope executes have fragments kept,
and only its named renders look them up. At every moment of a session that has started without
fragments, whatever has happened in it: a declaration keeps its body with the frame that it sees
and with its modifiers, in place of what was declared under its name before, and a named render
renders nothing if nothing has been declared under its name, and else the body that was declared
last. It does so on a frame inside that of the declaration, which has the call site's data over the
declared ones, and all that the body writes goes through the modifiers of the declaration, then
through those of the render, and then the way of a text that is written where the render
stands. -/
theorem renders_latest_declaration (hfresh : w₀.fragments = []) (h : Session hs w₀ w) :
    ((∀ {scope : Scope} {channel : Channel} {frame : Frame} {site : Site} {es : List Event}
        {t : Task H} {w' : World H},
        Task.watchStart scope channel frame site w = ⟨es, some (t, w')⟩ →
          Session (hs ++ happenings es) w₀ w') ∧
      ∀ {n : Nat} {t : Task H} {es : List Event} {p : Polled H},
        Task.watch n t w = ⟨es, some p⟩ → Session (hs ++ happenings es) w₀ p.world) ∧
    (∀ (scope : Scope) (channel : Channel) (frame : Frame) (site : Site),
      Program.Asks (fun q => q.IsDirectiveIn frame site scope.steps) (fun _ _ => True)
        (scope.run channel frame site)) ∧
    (∀ (channel : Channel) (frame : Frame) (site : Site) (head : Head) (name : String)
        (body : Scope),
      Step.run channel frame site (.declare head name body) =
          (Call.runAll frame site head.calls [] >>= head.declareNamed frame site name body) ∧
        ∀ slots, Session.Declares hs w₀ w frame site head name body slots) ∧
    ∀ (channel : Channel) (frame : Frame) (site : Site) (head : Head) (name : String),
      Step.run channel frame site (.render head name) =
          (Call.runAll frame site head.calls [] >>= head.renderNamed channel frame site name) ∧
        ∀ slots, Session.Renders hs w channel frame site head name slots := by
  refine ⟨⟨h.after_start, fun hpoll => h.trans (of_watch hpoll)⟩, Scope.asks_directives, ?_, ?_⟩
  · intro channel frame site head name body
    exact ⟨Step.run_declare channel frame site head name body,
      fun slots => h.declares frame site head name body slots⟩
  · intro channel frame site head name
    exact ⟨Step.run_render channel frame site head name,
      fun slots => h.renders hfresh channel frame site head name slots⟩

end Session

/-- Data with members for a declaration and for a named render. -/
def Value.declaredAndGiven : Value :=
  .object (.given 0) (.ofList
    [("d", .object (.given 1) (.ofList [("a", .text "x"), ("b", .text "y")])),
      ("r", .object (.given 2) (.ofList [("c", .text "w"), ("b", .text "z")]))])

/-- A fragment is declared, then another one with `d` as its context, and then one is rendered with
`r` as its context. It is the second one, with what `r` has put over what `d` has. -/
theorem Session.renders_latest_declaration_twice :
    let w₀ : World Functions.stalled.host := .start [] .empty .builtin false
    let frame : Frame := .ofData .declaredAndGiven
    let old : Head := ⟨none, [], [], none⟩
    let new : Head := ⟨some "d", [], [⟨"nl", []⟩], none⟩
    let render : Head := ⟨some "r", [], [⟨"trim", []⟩], none⟩
    let body : Scope := .mk [.text "new"]
    ∃ es₁ w₁ es₂ w₂,
      w₀.watchNow (old.declareNamed frame (.step (.start 0) 0) "n" (.mk [.text "old"]) []) =
        ⟨es₁, some (.ok (), w₁)⟩ ∧
      w₁.watchNow (new.declareNamed frame (.step (.start 0) 1) "n" body []) =
        ⟨es₂, some (.ok (), w₂)⟩ ∧
      ∃ inside both way,
        inside.parent = some (frame.get "d") ∧
        inside.data = .object (.made (.part (.step (.start 0) 2) 0)) both ∧
        both.keys = ["a", "b", "c"] ∧ both.find? "a" = some (.text "x") ∧
        both.find? "b" = some (.text "z") ∧ both.find? "c" = some (.text "w") ∧
        Channel.LeadsThrough [⟨"nl", []⟩] [⟨"trim", []⟩] [] way ∧
        ∀ (n : Nat) (returns : Returns),
          Task.poll (n + 2) (.running (Program.bind
              (render.renderNamed [] frame (.step (.start 0) 2) "n" []) Program.done) returns) w₂ =
            Task.poll n (.running (body.run way inside (.part (.step (.start 0) 2) 0))
              ((fun r => Program.done (r.mapError (·.locate none))) :: returns)) w₂ := by
  intro w₀ frame old new render body
  have hfresh : w₀.fragments = [] := rfl
  obtain ⟨-, -, hdeclare, -⟩ := renders_latest_declaration hfresh (.begin w₀)
  obtain ⟨es₁, w₁, hrun₁, hsession₁, -⟩ :=
    ((hdeclare [] frame (.step (.start 0) 0) old "n" (.mk [.text "old"])).2 []).declared [] rfl
  obtain ⟨-, -, hdeclare, -⟩ := renders_latest_declaration hfresh hsession₁
  obtain ⟨es₂, w₂, hrun₂, hsession₂, hlatest⟩ :=
    ((hdeclare [] frame (.step (.start 0) 1) new "n" body).2 []).declared [⟨"nl", []⟩] rfl
  obtain ⟨-, -, -, hrender⟩ := renders_latest_declaration hfresh hsession₂
  obtain ⟨inside, way, hinside, hway, hpoll⟩ :=
    ((hrender [] frame (.step (.start 0) 2) render "n").2 []).rendered ((hlatest "n").trans rfl) rfl
  refine ⟨es₁, w₁, es₂, w₂, hrun₁, hrun₂, inside, ?_⟩
  have hmerged := hinside.data
  generalize inside.data = data at hmerged
  cases hmerged with
  | declared hnullish => cases hnullish
  | given _ hnot => exact absurd rfl (hnot _ _ _ _ rfl)
  | members hkeys hvalues =>
    refine ⟨_, way, hinside.parent, rfl, hkeys, ?_, ?_, ?_, hway, ?_⟩
    · exact (hvalues "a").trans (by rfl)
    · exact (hvalues "b").trans (by rfl)
    · exact (hvalues "c").trans (by rfl)
    · exact fun n returns => hpoll n _ returns

end Stencil
