import Stencil.Proofs.Program.Engine
import Stencil.Proofs.Task.Behind
import Stencil.Proofs.Task.Watch

/-!
# Stencil.Proofs.Task.Inside — tasks inside blocks

A task inside blocks with modifiers comes to what it comes to outside of them when the sink itself
stands behind the blocks, and so do the helpers that it waits for, the bodies that these have
started, and the templates that it includes (`Task.Inside.ends_iff`). One request outside, that of
a text, is many inside, so the two need not take the same number of steps (`Task.Next`); a poll that
is through in the one is through in the other (`Task.Inside.exists_poll`,
`Task.Inside.exists_poll_of`).
-/

namespace Stencil

/-! ## What is done inside blocks -/

/-- The block, inside other blocks. -/
def CustomBlock.inside (way : Channel) (block : CustomBlock) : CustomBlock :=
  { block with channel := block.channel ++ way }

/-- What is to be done with outcomes, done inside blocks. -/
def Returns.through (way : Channel) (returns : Returns) : Returns :=
  returns.map fun k o => Action.through way (k o)

section Inside

variable {H : Host} {modifiers : Modifiers} {way : Channel}

/-- Whether a task does inside blocks what another one does with the sink behind the blocks. -/
inductive Task.Inside : Task (H.behind modifiers way) → Task H → Prop
  | finished (o : Outcome) : Inside (.finished o) (.finished o)
  | running (action : Action Unit) (returns : Returns) :
      Inside (.running action returns) (.running (action.through way) (returns.through way))
  | calling (d : H.Pending) (k : Except RenderError Value → Action Unit) (returns : Returns) :
      Inside (.calling d k returns)
        (.calling d (fun r => (k r).through way) (returns.through way))
  | helping (h : H.Helper) (block : CustomBlock) {children : List (Task (H.behind modifiers way))}
      {children' : List (Task H)} (returns : Returns)
      (hc : List.Forall₂ Inside children children') :
      Inside (.helping h block children returns)
        (.helping h (block.inside way) children' (returns.through way))

/-- Whether a poll inside the blocks has led to what the other has. -/
inductive Polled.Inside : Polled (H.behind modifiers way) → Polled H → Prop
  | mk {t : Task (H.behind modifiers way)} {t' : Task H} (ht : t.Inside t') (woken : Bool)
      {v : World (H.behind modifiers way)} (hv : v.modifiers = modifiers) :
      Inside ⟨t, woken, v⟩ ⟨t', woken, v.front⟩

/-- Whether a turn inside the blocks has led to what the other has. -/
inductive Turned.Inside : Turned (H.behind modifiers way) → Turned H → Prop
  | mk (helper : H.Helper ⊕ Outcome) {children : List (Task (H.behind modifiers way))}
      {children' : List (Task H)} (hc : List.Forall₂ Task.Inside children children')
      (woken : Bool) {v : World (H.behind modifiers way)} (hv : v.modifiers = modifiers) :
      Inside ⟨helper, children, woken, v⟩ ⟨helper, children', woken, v.front⟩

/-- A task behind a way and the same task before it finish together. -/
theorem Task.Inside.outcome? {t : Task (H.behind modifiers way)} {t' : Task H} (h : t.Inside t') :
    t'.outcome? = t.outcome? := by
  cases h <;> rfl

/-- The result of a block is written through the way as well. -/
theorem Task.writeResult_inside (f : Nat) (block : CustomBlock) :
    writeResult f (block.inside way) = (writeResult f block).through way := by
  have hcall : (Action.call f block.frame []).through way = Action.call f block.frame [] := rfl
  unfold writeResult
  rw [Action.through_bind, hcall]
  exact bind_congr fun v => block.channel.write_append way v.display

/-- However a text goes on, a question is asked first. -/
theorem Channel.exists_write_eq_ask (way : Channel) (text : String) :
    ∃ (q : Request) (k : q.Answer → Action Unit), q.isInstant = true ∧
      way.write text = Program.ask q k := by
  cases way with
  | nil => exact ⟨.write text, _, rfl, rfl⟩
  | cons chain outer => exact ⟨.isHalted, _, rfl, write_cons chain outer text⟩

variable [Evaluator]

namespace Task

variable {v : World (H.behind modifiers way)} (hv : v.modifiers = modifiers)
include hv

/-- A scope that is started inside the blocks. -/
theorem inside_start (scope : Scope) (channel : Channel) (frame : Frame) (site : Site) :
    Option.Rel (fun x y => Inside x.1 y.1 ∧ y.2 = x.2.front ∧ x.2.modifiers = modifiers)
      (start scope channel frame site v) (start scope (channel ++ way) frame site v.front) := by
  have hnow := World.runNow_through (runSteps channel frame site 0 scope.now) hv
  rw [start_eq, start_eq, runSteps_through]
  refine hnow ▸ ?_
  cases hrun : v.runNow (runSteps channel frame site 0 scope.now) with
  | none => exact .none
  | some r =>
    refine .some ⟨?_, rfl, (World.runNow_modifiers hrun).trans hv⟩
    obtain ⟨_ | u, v'⟩ := r
    · exact .finished _
    · unfold started
      cases scope.later with
      | nil => exact .finished _
      | cons s ss =>
        dsimp only
        rw [runSteps_through]
        exact .running _ []

/-- A body started behind a way is started behind it. -/
theorem inside_startBody (block : CustomBlock) (i : Nat) (frame : Frame)
    {children : List (Task (H.behind modifiers way))} {children' : List (Task H)}
    (hc : List.Forall₂ Inside children children') :
    Option.Rel (fun x y => Inside x.1 y.1 ∧ y.2 = x.2.front ∧ x.2.modifiers = modifiers)
      (startBody block i frame children v)
      (startBody (block.inside way) i frame children' v.front) := by
  unfold startBody
  rw [← hc.length_eq]
  have hbodies : (block.inside way).bodies = block.bodies := rfl
  rw [hbodies]
  cases block.bodies[i]? with
  | none => exact .some ⟨.finished _, rfl, hv⟩
  | some body => exact inside_start hv body block.channel frame _

/-- What comes of a turn comes of it inside the blocks, if that is so of polls of bodies. -/
theorem exists_takeTurn_inside {n : Nat}
    (hchild : ∀ {t : Task (H.behind modifiers way)} {t' : Task H}
      {v : World (H.behind modifiers way)} {p : Polled (H.behind modifiers way)}, t.Inside t' →
      v.modifiers = modifiers → poll n t v = some p →
        ∃ m p', poll m t' v.front = some p' ∧ Polled.Inside p p')
    (block : CustomBlock) (turn : Turn H.Helper) {children : List (Task (H.behind modifiers way))}
    {children' : List (Task H)} (hc : List.Forall₂ Inside children children') (woken : Bool)
    {r : Turned (H.behind modifiers way)}
    (h : takeTurn (H := H.behind modifiers way) (poll n) block turn children woken v = some r) :
    ∃ m r', takeTurn (poll m) (block.inside way) turn children' woken v.front = some r' ∧
      Turned.Inside r r' := by
  induction turn generalizing children children' woken v with
  | finish o =>
    cases h
    exact ⟨0, _, rfl, .mk _ hc _ hv⟩
  | wait woken' helper =>
    cases h
    exact ⟨0, _, rfl, .mk _ hc _ hv⟩
  | write text k ih =>
    have hwrite := World.runNow_through (block.channel.write text) hv
    rw [takeTurn] at h
    cases hrun : v.runNow (block.channel.write text) with
    | none =>
      rw [hrun] at h
      cases h
    | some x =>
      rw [hrun] at h hwrite
      obtain ⟨m, r', hr', hinside⟩ := ih x.1 ((World.runNow_modifiers hrun).trans hv) hc woken h
      refine ⟨m, r', ?_, hinside⟩
      rw [takeTurn, CustomBlock.inside, Channel.write_append]
      refine hwrite ▸ ?_
      exact hr'
  | halt k ih => exact ih (v := v.halt) hv hc woken h
  | isHalted k ih => exact ih _ hv hc woken h
  | start i frame k ih =>
    have hstart := inside_startBody hv block i frame hc
    rw [takeTurn_start] at h
    generalize startBody block i frame children v = x at h hstart
    generalize hy : startBody (block.inside way) i frame children' v.front = y at hstart
    cases hstart with
    | none => cases h
    | @some x y hxy =>
      obtain ⟨htask, hworld, hmodifiers⟩ := hxy
      obtain ⟨m, r', hr', hinside⟩ :=
        ih children.length hmodifiers (List.rel_append hc (.cons htask .nil)) woken h
      refine ⟨m, r', ?_, hinside⟩
      rw [takeTurn_start, hy, ← hc.length_eq]
      show takeTurn _ _ _ _ _ y.2 = _
      rw [hworld]
      exact hr'
  | poll i k ih =>
    have hith := forall₂_getElem? hc i
    cases hi : children[i]? with
    | none =>
      rw [hi] at hith
      generalize hi' : children'[i]? = y at hith
      cases hith
      rw [takeTurn, hi] at h
      obtain ⟨m, r', hr', hinside⟩ := ih _ hv hc woken h
      refine ⟨m, r', ?_, hinside⟩
      rw [takeTurn, hi']
      exact hr'
    | some child =>
      rw [hi] at hith
      generalize hi' : children'[i]? = y at hith
      cases hith with
      | @some _ child' hith =>
        rw [takeTurn_poll hi] at h
        cases hp : poll n child v with
        | none =>
          rw [hp] at h
          cases h
        | some p =>
          rw [hp] at h
          obtain ⟨m, _, hp', ht, woken', hv'⟩ := hchild hith hv hp
          obtain ⟨m', r', hr', hrest⟩ := ih _ hv' (forall₂_set hc i ht) _ h
          -- the bound for the poll and the one for the rest of the turn are both enough
          refine ⟨max m m', r', ?_, hrest⟩
          rw [takeTurn_poll hi', poll_le (Nat.le_max_left m m') hp']
          refine takeTurn_mono (fun t w r => poll_le (Nat.le_max_right m m')) _ _ ?_
          rw [ht.outcome?]
          exact hr'

/-- What comes of a turn inside the blocks comes of it, if that is so of polls of bodies. -/
theorem exists_takeTurn_of_inside {n : Nat}
    (hchild : ∀ {t : Task (H.behind modifiers way)} {t' : Task H}
      {v : World (H.behind modifiers way)} {p' : Polled H}, t.Inside t' →
      v.modifiers = modifiers → poll n t' v.front = some p' →
        ∃ p, poll n t v = some p ∧ Polled.Inside p p')
    (block : CustomBlock) (turn : Turn H.Helper) {children : List (Task (H.behind modifiers way))}
    {children' : List (Task H)} (hc : List.Forall₂ Inside children children') (woken : Bool)
    {r' : Turned H}
    (h : takeTurn (poll n) (block.inside way) turn children' woken v.front = some r') :
    ∃ r, takeTurn (H := H.behind modifiers way) (poll n) block turn children woken v = some r ∧
      Turned.Inside r r' := by
  -- on the instructions of the turn
  induction turn generalizing children children' woken v with
  | finish o =>
    cases h
    exact ⟨_, rfl, .mk _ hc _ hv⟩
  | wait woken' helper =>
    cases h
    exact ⟨_, rfl, .mk _ hc _ hv⟩
  | write text k ih =>
    -- what the helper writes itself passes the way at once
    have hwrite := World.runNow_through (block.channel.write text) hv
    rw [takeTurn, CustomBlock.inside, Channel.write_append] at h
    rw [takeTurn]
    cases hrun : v.runNow (block.channel.write text) with
    | none =>
      rw [hrun] at hwrite
      have hnone : v.front.runNow ((block.channel.write text).through way) = none := hwrite
      rw [hnone] at h
      cases h
    | some x =>
      rw [hrun] at hwrite
      have hsome : v.front.runNow ((block.channel.write text).through way) =
          some (x.1, x.2.front) := hwrite
      rw [hsome] at h
      exact ih x.1 ((World.runNow_modifiers hrun).trans hv) hc woken h
  | halt k ih => exact ih (v := v.halt) hv hc woken h
  | isHalted k ih => exact ih _ hv hc woken h
  | start i frame k ih =>
    have hstart := inside_startBody hv block i frame hc
    rw [takeTurn_start] at h ⊢
    generalize startBody block i frame children v = x at hstart ⊢
    generalize startBody (block.inside way) i frame children' v.front = y at h hstart
    cases hstart with
    | none => cases h
    | @some x y hxy =>
      obtain ⟨htask, hworld, hmodifiers⟩ := hxy
      refine ih children.length hmodifiers (List.rel_append hc (.cons htask .nil)) woken ?_
      rw [← hworld, hc.length_eq]
      exact h
  | poll i k ih =>
    have hith := forall₂_getElem? hc i
    cases hi : children[i]? with
    | none =>
      rw [hi] at hith
      generalize hi' : children'[i]? = y at hith
      cases hith
      rw [takeTurn, hi'] at h
      rw [takeTurn, hi]
      exact ih _ hv hc woken h
    | some child =>
      rw [hi] at hith
      generalize hi' : children'[i]? = y at hith
      cases hith with
      | @some _ child' hith =>
        rw [takeTurn_poll hi'] at h
        cases hp' : poll n child' v.front with
        | none =>
          rw [hp'] at h
          cases h
        | some p' =>
          rw [hp'] at h
          obtain ⟨_, hp, ht, woken', hv'⟩ := hchild hith hv hp'
          rw [takeTurn_poll hi, hp]
          refine ih _ hv' (forall₂_set hc i ht) _ ?_
          rw [← ht.outcome?]
          exact h

/-! ## Polling -/

section Steps

omit hv

variable {w : World H} {s : H.State} (n : Nat)

/-- Polling a call that is ready at once. -/
theorem poll_call_of_ready {f : Nat} {frame : Frame} {args : List Value}
    {r : Except RenderError Value} (h : H.call f frame args w.host = (.ready r, s))
    (k : (Request.call f frame args).Answer → Program Outcome) (returns : Returns) :
    poll (n + 1) (running (.ask (.call f frame args) k) returns) w =
      poll n (running (k r) returns) { w with host := s } := by
  rw [poll, h]

/-- Polling a call that is not. -/
theorem poll_call_of_pending {f : Nat} {frame : Frame} {args : List Value} {woken : Bool}
    {d : H.Pending} (h : H.call f frame args w.host = (.pending woken d, s))
    (k : (Request.call f frame args).Answer → Program Outcome) (returns : Returns) :
    poll (n + 1) (running (.ask (.call f frame args) k) returns) w =
      poll n (calling d k returns) { w with host := s } := by
  rw [poll, h]

/-- Polling a call in flight that is ready. -/
theorem poll_calling_of_ready {d : H.Pending} {r : Except RenderError Value}
    (h : H.poll d w.host = (.ready r, s)) (k : Except RenderError Value → Action Unit)
    (returns : Returns) :
    poll (n + 1) (calling d k returns) w = poll n (running (k r) returns) { w with host := s } := by
  rw [poll, h]

/-- Polling one that is not. -/
theorem poll_calling_of_pending {d d' : H.Pending} {woken : Bool}
    (h : H.poll d w.host = (.pending woken d', s)) (k : Except RenderError Value → Action Unit)
    (returns : Returns) :
    poll (n + 1) (calling d k returns) w =
      some ⟨calling d' k returns, woken, { w with host := s }⟩ := by
  rw [poll, h]

/-- Polling a custom block that is handed to a helper. -/
theorem poll_custom_of_some {f : Nat} {block : CustomBlock} {helper : H.Helper}
    (h : H.help f block.frame block.bodies.length w.host = (some helper, s))
    (k : (Request.custom f block).Answer → Program Outcome) (returns : Returns) :
    poll (n + 1) (running (.ask (.custom f block) k) returns) w =
      poll n (helping helper block [] (k :: returns)) { w with host := s } := by
  rw [poll, h]

/-- Polling one that is not. -/
theorem poll_custom_of_none {f : Nat} {block : CustomBlock}
    (h : H.help f block.frame block.bodies.length w.host = (none, s))
    (k : (Request.custom f block).Answer → Program Outcome) (returns : Returns) :
    poll (n + 1) (running (.ask (.custom f block) k) returns) w =
      poll n (running (writeResult f block) (k :: returns)) { w with host := s } := by
  rw [poll, h]

/-- What is left of a task whose helper has had its turn. -/
def afterHelp (n : Nat) (block : CustomBlock) (returns : Returns) (t : Turned H) :
    Option (Polled H) :=
  match t.helper with
  | .inl h => some ⟨helping h block t.children returns, t.woken, t.world⟩
  | .inr r => poll n (running (Action.ofExcept r) returns) t.world

/-- Polling a helper at work. -/
theorem poll_helping_eq (helper : H.Helper) (block : CustomBlock) (children : List (Task H))
    (returns : Returns) :
    poll (n + 1) (helping helper block children returns) w =
      (takeTurn (poll n) block (w.nextTurn helper).1 children false (w.nextTurn helper).2).bind
        (afterHelp n block returns) := by
  rw [poll]
  dsimp only [World.nextTurn]
  generalize takeTurn (poll n) block _ children false _ = turned
  rcases turned with _ | ⟨_ | _, _, _, _⟩ <;> rfl

end Steps

omit hv in
/-- What two tasks do next, of which the one with the sink behind the blocks comes first: both are
through with the poll, or both go on, in one step of the first and in one or more of the other, or
both wait for the same helper. -/
inductive Next (v : World (H.behind modifiers way)) :
    Task (H.behind modifiers way) → Task H → Prop
  | ends {t : Task (H.behind modifiers way)} {t' : Task H} {p : Polled (H.behind modifiers way)}
      {p' : Polled H} (hp : p.Inside p') (h : ∀ n, poll (n + 1) t v = some p)
      (h' : ∀ n, poll (n + 1) t' v.front = some p') : Next v t t'
  | continues {t t₁ : Task (H.behind modifiers way)} {t' t₁' : Task H}
      {v₁ : World (H.behind modifiers way)} (steps : Nat) (ht : t₁.Inside t₁')
      (hv : v₁.modifiers = modifiers) (h : ∀ n, poll (n + 1) t v = poll n t₁ v₁)
      (h' : ∀ n, poll (n + steps + 1) t' v.front = poll n t₁' v₁.front) : Next v t t'
  | helps (h : H.Helper) (block : CustomBlock) {children : List (Task (H.behind modifiers way))}
      {children' : List (Task H)} (returns : Returns)
      (hc : List.Forall₂ Inside children children') :
      Next v (.helping h block children returns)
        (.helping h (block.inside way) children' (returns.through way))

/-- A request that is answered at once. -/
theorem next_of_isInstant {q : Request} (hinstant : q.isInstant = true)
    (k : q.Answer → Action Unit) (returns : Returns) :
    Next v (running (.ask q k) returns)
      (running (Action.through way (.ask q k)) (returns.through way)) := by
  obtain ⟨a, v', hq⟩ := World.exists_answer hinstant v
  have hv' : v'.modifiers = modifiers := (World.answer_modifiers hq).trans hv
  have hnext : ∀ n, poll (n + 1) (running (.ask q k) returns) v =
      poll n (running (k a) returns) v' := fun n => poll_ask hq n k returns
  by_cases hsilent : q.isSilent = true
  · refine .continues 0 (.running (k a) returns) hv' hnext fun n => ?_
    rw [Action.through, Program.through_ask hsilent]
    exact poll_ask (World.front_answer hsilent hq) n _ _
  · cases q with
    | isHalted | halt | modify | declare | resolve | template => exact absurd rfl hsilent
    | call | custom | enter => cases hinstant
    | write text =>
      -- one request behind the blocks is a program inside them
      have hwrite : v.write text = (a, v') := Option.some.inj hq
      have hrun := World.runNow_write_front hv text
      rw [hwrite] at hrun
      obtain ⟨p, k', hp, heq⟩ := way.exists_write_eq_ask text
      obtain ⟨b, w, hb⟩ := World.exists_answer hp v.front
      rw [heq, World.runNow_ask hb] at hrun
      obtain ⟨steps, hsteps⟩ := poll_bind hrun (fun r => (k r).through way) (returns.through way)
      refine .continues steps (.running (k a) returns) hv' hnext fun n => ?_
      refine Eq.trans ?_ (hsteps n)
      rw [Action.through, Program.through, heq]
      exact poll_ask hb (n + steps) _ _

/-- What one step of a poll does to the two tasks. -/
theorem Inside.next {t : Task (H.behind modifiers way)} {t' : Task H} (ht : t.Inside t') :
    Next v t t' := by
  cases ht with
  | finished o => exact .ends (.mk (.finished o) _ hv) (fun n => rfl) fun n => rfl
  | helping h block returns hc => exact .helps h block returns hc
  | calling d k returns =>
    -- the host is asked for the same on both sides, and its answer tells how the poll goes on
    rcases hd : H.poll d v.host with ⟨r | ⟨woken, d'⟩, s⟩
    · refine .continues 0 (.running (k r) returns) ?_
        (fun n => poll_calling_of_ready n hd k returns) fun n => poll_calling_of_ready n hd _ _
      exact hv
    · have hpolled : Polled.Inside
          (⟨.calling d' k returns, woken, { v with host := s }⟩ : Polled (H.behind modifiers way))
          ⟨.calling d' (fun r => (k r).through way) (returns.through way), woken,
            { v.front with host := s }⟩ := .mk (.calling d' k returns) woken hv
      exact .ends hpolled (fun n => poll_calling_of_pending n hd k returns)
        fun n => poll_calling_of_pending n hd _ _
  | running action returns =>
    cases action with
    | done o =>
      cases returns with
      | nil => exact .ends (.mk (.finished o) _ hv) (fun n => rfl) fun n => rfl
      | cons k returns => exact .continues 0 (.running (k o) returns) hv (fun n => rfl) fun n => rfl
    | ask q k =>
      by_cases hinstant : q.isInstant = true
      · exact next_of_isInstant hv hinstant k returns
      · cases q with
        | write | isHalted | halt | modify | declare | resolve | template =>
          exact absurd rfl hinstant
        | call f frame args =>
          rcases hcall : H.call f frame args v.host with ⟨r | ⟨woken, d⟩, s⟩
          · refine .continues 0 (.running (k r) returns) ?_
              (fun n => poll_call_of_ready n hcall k returns)
              fun n => poll_call_of_ready n hcall _ _
            exact hv
          · refine .continues 0 (.calling d k returns) ?_
              (fun n => poll_call_of_pending n hcall k returns)
              fun n => poll_call_of_pending n hcall _ _
            exact hv
        | custom f block =>
          rcases hhelp : H.help f block.frame block.bodies.length v.host with ⟨_ | h, s⟩
          · refine .continues 0 (.running (writeResult f block) (k :: returns)) ?_
              (fun n => poll_custom_of_none n hhelp k returns) fun n => ?_
            · exact hv
            · rw [← writeResult_inside]
              exact poll_custom_of_none n hhelp _ _
          · refine .continues 0 (.helping h block (k :: returns) .nil) ?_
              (fun n => poll_custom_of_some n hhelp k returns)
              fun n => poll_custom_of_some n hhelp _ _
            exact hv
        | enter body channel frame site =>
          refine .continues 0 (.running (body.run channel frame site) (k :: returns)) hv
            (fun n => rfl) fun n => ?_
          rw [Action.through, ← Scope.run_append]
          rfl

/-- What comes of a poll comes of it inside the blocks, with enough steps. -/
theorem Inside.exists_poll {n : Nat} {t : Task (H.behind modifiers way)} {t' : Task H}
    (ht : t.Inside t') {p : Polled (H.behind modifiers way)} (h : poll n t v = some p) :
    ∃ m p', poll m t' v.front = some p' ∧ p.Inside p' := by
  induction n generalizing t t' v p with
  | zero => cases h
  | succ n ih =>
    cases ht.next hv with
    | ends hp hn hn' =>
      rw [hn n] at h
      cases h
      exact ⟨1, _, hn' 0, hp⟩
    | continues steps ht hv hn hn' =>
      rw [hn n] at h
      obtain ⟨m, p', hp', hinside⟩ := ih hv ht h
      exact ⟨m + steps + 1, p', (hn' m).trans hp', hinside⟩
    | helps helper block returns hc =>
      rw [poll_helping_eq] at h
      obtain ⟨r, hr, h⟩ := Option.bind_eq_some_iff.1 h
      obtain ⟨m, r', hr', hinside⟩ := exists_takeTurn_inside (v := (v.nextTurn helper).2) hv
        (fun ht hv h => ih hv ht h) block _ hc false hr
      obtain ⟨helper' | o, hc₁, woken, hv₁⟩ := hinside
      · cases h
        refine ⟨m + 1, _, ?_, .mk (.helping helper' block returns hc₁) woken hv₁⟩
        rw [poll_helping_eq]
        exact Option.bind_eq_some_iff.2 ⟨_, hr', rfl⟩
      · obtain ⟨m', p', hp', hrest⟩ := ih hv₁ (.running (Action.ofExcept o) returns) h
        -- the bound for the turn and the one for what comes behind it are both enough
        refine ⟨max m m' + 1, p', ?_, hrest⟩
        rw [poll_helping_eq]
        refine Option.bind_eq_some_iff.2 ⟨_, takeTurn_mono
          (fun t w r => poll_le (Nat.le_max_left m m')) _ _ hr', ?_⟩
        exact poll_le (Nat.le_max_right m m') hp'

/-- What comes of a poll inside the blocks comes of it. -/
theorem Inside.exists_poll_of {n : Nat} {t : Task (H.behind modifiers way)} {t' : Task H}
    (ht : t.Inside t') {p' : Polled H} (h : poll n t' v.front = some p') :
    ∃ p, poll n t v = some p ∧ p.Inside p' := by
  induction n generalizing t t' v p' with
  | zero => cases h
  | succ n ih =>
    cases ht.next hv with
    | ends hp hn hn' =>
      rw [hn' n] at h
      cases h
      exact ⟨_, hn n, hp⟩
    | continues steps ht hv hn hn' =>
      rw [hn n]
      -- with more steps the same comes of it, and these are enough to go on
      have hmore : n + 1 ≤ n + steps + 1 := Nat.succ_le_succ (Nat.le_add_right n steps)
      exact ih hv ht ((hn' n).symm.trans (poll_le hmore h))
    | helps helper block returns hc =>
      rw [poll_helping_eq] at h ⊢
      obtain ⟨r', hr', h⟩ := Option.bind_eq_some_iff.1 h
      obtain ⟨r, hr, hinside⟩ := exists_takeTurn_of_inside (v := (v.nextTurn helper).2) hv
        (fun ht hv h => ih hv ht h) block _ hc false hr'
      have hnext : takeTurn (poll n) block (v.nextTurn helper).1 _ false (v.nextTurn helper).2 =
          some r := hr
      rw [hnext]
      obtain ⟨helper' | o, hc₁, woken, hv₁⟩ := hinside
      · cases h
        exact ⟨_, rfl, .mk (.helping helper' block returns hc₁) woken hv₁⟩
      · exact ih hv₁ (.running (Action.ofExcept o) returns) h

/-! ## Runs -/

variable {deadline : Option Deadline} {o : Outcome}

/-- What comes of a run comes of it inside the blocks, with enough steps. -/
theorem Inside.exists_run {n : Nat} {t : Task (H.behind modifiers way)} {t' : Task H}
    (ht : t.Inside t') {v' : World (H.behind modifiers way)}
    (h : run deadline n t v = some (o, v')) : Ends deadline t' v.front (o, v'.front) := by
  -- on the polls of the run behind the way: each of them is one poll before it
  induction n generalizing deadline t t' v with
  | zero => cases h
  | succ n ih =>
    obtain ⟨t₁, woken, w₁, hp, hend⟩ := run_cases h
    obtain ⟨m, p', hp', hinside⟩ := ht.exists_poll hv hp
    obtain @⟨t₁, t₁', ht₁, woken, v₁, hv₁⟩ := hinside
    obtain ⟨rfl, rfl⟩ | ⟨ho, hrest⟩ := hend
    · exact ⟨m + 1, run_of_outcome ht₁.outcome? hp'⟩
    have ho' : t₁'.outcome? = none := ht₁.outcome?.trans ho
    obtain ⟨hpermits, hrun⟩ | ⟨hpermits, hexpire⟩ := hrest
    · obtain ⟨m', hm'⟩ := ih hv₁ ht₁ hrun
      -- fuel enough for this poll and for those after it
      refine ⟨max m m' + 1, ?_⟩
      rw [run_of_unfinished ho' (poll_le (Nat.le_max_left m m') hp'), if_pos hpermits]
      exact run_le (Nat.le_max_right m m') hm'
    · refine ⟨m + 1, ?_⟩
      obtain ⟨milliseconds, hdeadline, hx⟩ := expire_eq_some_iff.1 hexpire
      cases hx
      rw [run_of_unfinished ho' hp', hpermits]
      exact expire_eq_some_iff.2 ⟨milliseconds, hdeadline, rfl⟩

/-- What comes of a run inside the blocks comes of it. -/
theorem Inside.exists_run_of {n : Nat} {t : Task (H.behind modifiers way)} {t' : Task H}
    (ht : t.Inside t') {w : World H} (h : run deadline n t' v.front = some (o, w)) :
    ∃ v', run deadline n t v = some (o, v') ∧ w = v'.front := by
  induction n generalizing deadline t t' v with
  | zero => cases h
  | succ n ih =>
    obtain ⟨t₁', woken, w₁, hp', hend⟩ := run_cases h
    obtain ⟨p, hp, hinside⟩ := ht.exists_poll_of hv hp'
    obtain @⟨t₁, t₁', ht₁, woken, v₁, hv₁⟩ := hinside
    obtain ⟨rfl, rfl⟩ | ⟨ho', hrest⟩ := hend
    · exact ⟨v₁, run_of_outcome ht₁.outcome?.symm hp, rfl⟩
    have ho : t₁.outcome? = none := ht₁.outcome?.symm.trans ho'
    rw [run_of_unfinished ho hp]
    obtain ⟨hpermits, hrun⟩ | ⟨hpermits, hexpire⟩ := hrest
    · obtain ⟨v', hv', rfl⟩ := ih hv₁ ht₁ hrun
      exact ⟨v', (if_pos hpermits).trans hv', rfl⟩
    · obtain ⟨milliseconds, hdeadline, hx⟩ := expire_eq_some_iff.1 hexpire
      cases hx
      rw [hpermits]
      exact ⟨v₁.halt, expire_eq_some_iff.2 ⟨milliseconds, hdeadline, rfl⟩, rfl⟩

/-- A task comes to the same inside the blocks and with the sink behind them. -/
theorem Inside.ends_iff {t : Task (H.behind modifiers way)} {t' : Task H} (ht : t.Inside t')
    (w : World H) :
    Ends deadline t' v.front (o, w) ↔ ∃ v', Ends deadline t v (o, v') ∧ w = v'.front := by
  constructor
  · rintro ⟨n, hn⟩
    obtain ⟨v', hv', rfl⟩ := ht.exists_run_of hv hn
    exact ⟨v', ⟨n, hv'⟩, rfl⟩
  · rintro ⟨v', ⟨n, hn⟩, rfl⟩
    exact ht.exists_run hv hn

end Task

end Inside

end Stencil
