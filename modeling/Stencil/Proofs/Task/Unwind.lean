import Stencil.Proofs.Task.FailStop

/-!
# Stencil.Proofs.Task.Unwind — a failure ends a render

When a request of a render is answered with an error, that is the last thing to be seen of the
render, which fails with this error. There is a number of steps in which it does, without anything
more being seen (`World.ceases_watch`). All that is left to do in a task propagates errors
(`Task.Propagates`), so each step of it does (`Task.ceases_watchStep`).
-/

namespace Stencil

open Action (Propagates Raises)

/-! ## Tasks that propagate errors -/

section Tasks

variable {H : Host}

/-- Whether an error ends what is done with a result, which fails with this error. -/
def PassesOn {α : Type} (k : Except RenderError α → Action Unit) : Prop :=
  (∀ r, Propagates (k r)) ∧ ∀ e, Raises e (k (.error e))

/-- Whether all that is still to be done with outcomes passes on errors. -/
def Returns.PassOn (returns : Returns) : Prop := ∀ k ∈ returns, PassesOn k

/-- Whether all that is left to do in a task propagates errors. -/
inductive Task.Propagates : Task H → Prop
  | finished (r : Outcome) : Propagates (.finished r)
  | running {action : Action Unit} {returns : Returns} : Action.Propagates action →
      returns.PassOn → Propagates (.running action returns)
  | calling {d : H.Pending} {k : Except RenderError Value → Action Unit} {returns : Returns} :
      PassesOn k → returns.PassOn → Propagates (.calling d k returns)
  | helping {h : H.Helper} {block : CustomBlock} {children : List (Task H)} {returns : Returns} :
      (∀ child ∈ children, Propagates child) → returns.PassOn →
      Propagates (.helping h block children returns)

/-- Returns pass failures on if the first of them does and the others do. -/
theorem Returns.PassOn.cons {returns : Returns} (h : returns.PassOn) {k : Outcome → Action Unit}
    (hk : PassesOn k) : Returns.PassOn (k :: returns) := by
  intro k' hmem
  cases hmem with
  | head => exact hk
  | tail _ hmem => exact h k' hmem

/-- Whether a task has come to this error, in some place. -/
def Task.HasFailed (e : RenderError) (t : Task H) : Prop :=
  ∃ e', t = .finished (.error e') ∧ e'.root = e.root

/-- Whether a result is this error, in some place. -/
def IsError {α : Type} (e : RenderError) (r : Except RenderError α) : Prop :=
  ∃ e', r = .error e' ∧ e'.root = e.root

/-- Whether a turn has ended with this error, in some place. -/
def Turned.HasFailed (e : RenderError) (t : Turned H) : Prop :=
  ∃ r, t.helper = .inr r ∧ IsError e r

/-- An answer that fails is the last thing seen of its request. -/
theorem World.failStop_watchAnswer (w : World H) (q : Request) :
    (w.watchAnswer q).FailStop (fun r => q.failure? r.1 = none)
      (fun e r => q.failure? r.1 = some e) := by
  unfold World.watchAnswer
  cases w.answer? q with
  | none => exact .stuck
  | some r =>
    cases hr : q.failure? r.1 with
    | none =>
      refine .inl ⟨fun ev hev => ?_, fun a ha => ?_⟩
      · rcases List.mem_cons.1 hev with rfl | hev
        · rfl
        · rw [List.mem_singleton.1 hev]
          exact hr
      · cases ha
        exact hr
    | some e =>
      -- the question is no failure, the answer is
      refine .inr ⟨[.asked q], .answered q r.1, e, rfl, fun b hb => ?_, hr, fun a ha => ?_⟩
      · rw [List.mem_singleton.1 hb]
        rfl
      · cases ha
        exact hr

/-- A call in flight that fails shows that last. -/
theorem World.failStop_watchPoll (w : World H) (d : H.Pending) :
    (w.watchPoll d).FailStop (fun _ => True) (fun e r => r.1 = .ready (.error e)) := by
  unfold World.watchPoll
  rcases H.poll d w.host with ⟨(e | v) | ⟨woken, d'⟩, host⟩
  · refine .inr ⟨[], _, e, rfl, fun _ h => (nomatch h), rfl, fun r hr => ?_⟩
    cases hr
    rfl
  · exact .inl ⟨List.forall_mem_singleton.2 rfl, fun _ _ => trivial⟩
  · exact .inl ⟨fun _ h => (nomatch h), fun _ _ => trivial⟩

theorem World.failStop_watchCall (w : World H) (f : Nat) (frame : Frame) (args : List Value) :
    (w.watchCall f frame args).FailStop (fun _ => True) (fun e r => r.1 = .ready (.error e)) := by
  unfold World.watchCall
  rcases H.call f frame args w.host with ⟨(e | v) | ⟨woken, d⟩, host⟩
  · refine .inr ⟨[_], _, e, rfl, List.forall_mem_singleton.2 rfl, rfl, fun r hr => ?_⟩
    cases hr
    rfl
  · exact .inl ⟨List.forall_mem_cons.2 ⟨rfl, List.forall_mem_singleton.2 rfl⟩, fun _ _ => trivial⟩
  · exact .inl ⟨List.forall_mem_singleton.2 rfl, fun _ _ => trivial⟩

theorem World.failStop_watchHelp (w : World H) (f : Nat) (block : CustomBlock) :
    (w.watchHelp f block).FailStop (fun _ => True) (fun _ _ => False) :=
  .inl ⟨List.forall_mem_singleton.2 rfl, fun _ _ => trivial⟩

/-- A program that propagates errors stops at the first. -/
theorem World.failStop_watchNow {α : Type} {p : Program (Except RenderError α)}
    (hp : Action.Propagates p) (w : World H) :
    (w.watchNow p).FailStop (fun _ => True) (fun e r => IsError e r.1) := by
  induction p generalizing w with
  | done r => exact .pure trivial
  | ask q k ih =>
    refine (w.failStop_watchAnswer q).bind (fun r _ => ih r.1 (hp.2 r.1) r.2) fun e r hr => ?_
    obtain ⟨e', hk, hroot⟩ := hp.1 r.1 e hr
    rw [hk]
    refine ⟨rfl, fun b hb => ?_⟩
    cases hb
    exact ⟨e', rfl, hroot⟩

/-- A program that never waits comes to something. -/
theorem World.exists_watchNow {α : Type} {p : Program α} (hp : p.Instant) (w : World H) :
    ∃ r, (w.watchNow p).result = some r := by
  rcases World.exists_runNow hp w with ⟨a, w', h⟩
  exact ⟨(a, w'), (w.watchNow_result p).trans h⟩

theorem Channel.instant_write (channel : Channel) (text : String) :
    Program.Instant (channel.write text) :=
  channel.asks_write (fun _ => Request.isInstant_of_isPlain) text

namespace Task

/-- Writing the result of a block passes failures on. -/
theorem propagates_writeResult (f : Nat) (block : CustomBlock) :
    Action.Propagates (writeResult f block) :=
  (Action.propagates_call f block.frame []).bind fun v =>
    block.channel.propagates_write v.display

variable [Evaluator]

/-- So does a body that has been started. -/
theorem propagates_started (scope : Scope) (channel : Channel) (frame : Frame) (site : Site)
    (o : Outcome) : (started (H := H) scope channel frame site o).Propagates := by
  cases o with
  | error e => exact .finished _
  | ok u =>
    dsimp only [started]
    cases scope.later with
    | nil => exact .finished _
    | cons s ss =>
      exact .running (propagates_runSteps _ channel frame site _) fun _ hk => (nomatch hk)

/-- A body whose start fails has failed, and that is the last thing seen of it. -/
theorem failStop_watchStart (scope : Scope) (channel : Channel) (frame : Frame) (site : Site)
    (w : World H) :
    (watchStart scope channel frame site w).FailStop (fun r => r.1.Propagates)
      (fun e r => r.1.HasFailed e) := by
  have hnow := propagates_runSteps scope.now channel frame site 0
  refine (World.failStop_watchNow hnow w).bind
    (fun r _ => .pure (propagates_started scope channel frame site r.1)) fun e r hr => ?_
  obtain ⟨e', hr, hroot⟩ := hr
  refine ⟨rfl, fun b hb => ?_⟩
  cases hb
  rw [hr]
  exact ⟨e', rfl, hroot⟩

theorem failStop_watchBody (block : CustomBlock) (i : Nat) (frame : Frame) (child : Nat)
    (w : World H) :
    (watchBody block i frame child w).FailStop (fun r => r.1.Propagates)
      (fun e r => r.1.HasFailed e) := by
  unfold watchBody
  cases block.bodies[i]? with
  | none => exact .pure (.finished _)
  | some body => exact failStop_watchStart body _ _ _ w

theorem exists_watchStart (scope : Scope) (channel : Channel) (frame : Frame) (site : Site)
    (w : World H) : ∃ r, (watchStart scope channel frame site w).result = some r := by
  rcases start_spec scope channel frame site w with ⟨t, w', h, -⟩
  exact ⟨(t, w'), (watchStart_result scope channel frame site w).trans h⟩

theorem exists_watchBody (block : CustomBlock) (i : Nat) (frame : Frame) (child : Nat)
    (w : World H) : ∃ r, (watchBody block i frame child w).result = some r := by
  unfold watchBody
  cases block.bodies[i]? with
  | none => exact ⟨_, rfl⟩
  | some body => exact exists_watchStart body block.channel frame _ w

/-- What raises an error comes to its end, which is that it has failed, and asks for nothing. -/
theorem quiet_raised {e : RenderError} {action : Action Unit} (ha : Raises e action)
    {returns : Returns} (hr : returns.PassOn) (w : World H) :
    Watched.Quiet (fun p => p.task.HasFailed e) fun n => watch n (running action returns) w := by
  induction returns generalizing action with
  | nil =>
    obtain ⟨e', rfl, hroot⟩ := ha
    refine ⟨fun n => ?_, fun {n p} hp => ?_, 1, _, rfl⟩
    · cases n <;> rfl
    · cases n with
      | zero => cases hp
      | succ n =>
        cases hp
        exact ⟨e', rfl, hroot⟩
  | cons k returns ih =>
    obtain ⟨e', rfl, hroot⟩ := ha
    obtain ⟨e'', hk, hroot'⟩ := (hr k List.mem_cons_self).2 e'
    have hrest : Returns.PassOn returns := fun k' hk' => hr k' (List.mem_cons_of_mem k hk')
    have hquiet := ih ⟨e'', hk, hroot'.trans hroot⟩ hrest
    -- one step more, in which what is done with the error is taken up
    have hsucc : ∀ n, watch (n + 1) (running (.done (.error e')) (k :: returns)) w =
        watch n (running (k (.error e')) returns) w := fun n => rfl
    refine ⟨fun n => ?_, fun {n p} hp => ?_, ?_⟩
    · cases n with
      | zero => rfl
      | succ n => exact (congrArg Watched.events (hsucc n)).trans (hquiet.events n)
    · cases n with
      | zero => cases hp
      | succ n => exact hquiet.result ((congrArg Watched.result (hsucc n)).symm.trans hp)
    · obtain ⟨n, p, hp⟩ := hquiet.ends
      exact ⟨n + 1, p, (congrArg Watched.result (hsucc n)).trans hp⟩

section Turns

variable {block : CustomBlock} {children : List (Task H)} {woken : Bool} {w : World H}

/-- A helper that gives up ceases. -/
theorem ceases_givesUp {e : RenderError} {turn : Turn H.Helper} (h : turn.GivesUp e)
    (hc : ∀ child ∈ children, child.Propagates) (n : Nat) :
    Watched.Ceases (fun t => ∀ child ∈ t.children, child.Propagates) Turned.HasFailed
      (fun m => watchTurn (watch m) block turn children woken w) n := by
  obtain ⟨e', rfl, -⟩ := h
  exact .pure hc n

/-- A helper that gives up with what failed shows nothing more. -/
theorem quiet_givesUp {e e' : RenderError} {turn : Turn H.Helper} (h : turn.GivesUp e')
    (hroot : e'.root = e.root) :
    Watched.Quiet (Turned.HasFailed e) fun n =>
      watchTurn (watch n) block turn children woken w := by
  obtain ⟨e'', rfl, hroot'⟩ := h
  exact .pure ⟨_, rfl, e'', rfl, hroot'.trans hroot⟩

/-- A helper that polls a body that has failed is through with its turn. -/
theorem quiet_poll_failed {i : Nat} {k : Option Outcome → Turn H.Helper} {e e' : RenderError}
    (hi : children[i]? = some (finished (.error e'))) (hk : (k (some (.error e'))).GivesUp e')
    (hroot : e'.root = e.root) :
    Watched.Quiet (Turned.HasFailed e) fun n =>
      watchTurn (watch n) block (.poll i k) children woken w := by
  obtain ⟨e'', hk, hroot'⟩ := hk
  have hsucc : ∀ n, watchTurn (watch (n + 1)) block (.poll i k) children woken w =
      .pure ⟨.inr (.error e''), children.set i (finished (.error e')), woken || false, w⟩ := by
    intro n
    rw [watchTurn, hi]
    show Watched.bind (.pure _) _ = _
    dsimp only [Watched.bind, Watched.pure, outcome?]
    rw [hk]
    rfl
  -- without fuel the body cannot be polled, and nothing is seen
  have hzero : watchTurn (watch 0) block (.poll i k) children woken w = .stuck := by
    rw [watchTurn, hi]
    rfl
  refine ⟨fun n => ?_, fun {n t} ht => ?_, 1, _, congrArg Watched.result (hsucc 0)⟩
  · cases n with
    | zero => exact congrArg Watched.events hzero
    | succ n => exact congrArg Watched.events (hsucc n)
  · cases n with
    | zero => cases (congrArg Watched.result hzero).symm.trans ht
    | succ n =>
      cases (congrArg Watched.result (hsucc n)).symm.trans ht
      exact ⟨_, rfl, e'', rfl, hroot'.trans hroot⟩

/-- A careful helper is through with its turn as soon as it has met an error. -/
theorem ceases_watchTurn {n : Nat}
    (hpolls : ∀ (t : Task H) w, t.Propagates → Watched.Ceases (fun p => p.task.Propagates)
      (fun e p => p.task.HasFailed e) (fun m => watch m t w) n)
    {turn : Turn H.Helper} (ht : turn.Careful) (hc : ∀ child ∈ children, child.Propagates) :
    Watched.Ceases (fun t => ∀ child ∈ t.children, child.Propagates) Turned.HasFailed
      (fun m => watchTurn (watch m) block turn children woken w) n := by
  induction turn generalizing children woken w with
  | finish r => exact .pure hc n
  | wait woken' h => exact .pure hc n
  | write text k ih =>
    obtain ⟨r, hr⟩ := World.exists_watchNow (block.channel.instant_write text) w
    have hwrite := World.failStop_watchNow (block.channel.propagates_write text) w
    refine (Watched.Ceases.const hwrite hr n).bind (.const _)
      (fun r => settles_watchTurn block (k r.1) children woken r.2) ?_ ?_
    · rintro ⟨e | u, w'⟩ -
      · exact ceases_givesUp (ht.1 e) hc n
      · exact ih _ ht.2 hc
    · rintro e ⟨r, w'⟩ ⟨e', rfl, hroot⟩
      exact quiet_givesUp (ht.1 e') hroot
  | halt k ih =>
    exact (Watched.Ceases.const (w.failStop_watchAnswer .halt) rfl n).bind (.const _)
      (fun r => settles_watchTurn block k children woken r.2) (fun r _ => ih ht hc)
      fun e r hr => (nomatch hr)
  | isHalted k ih =>
    exact (Watched.Ceases.const (w.failStop_watchAnswer .isHalted) rfl n).bind (.const _)
      (fun r => settles_watchTurn block (k r.1) children woken r.2) (fun r _ => ih r.1 (ht r.1) hc)
      fun e r hr => (nomatch hr)
  | start i frame k ih =>
    obtain ⟨⟨k', hk⟩, hcareful⟩ := ht children.length
    obtain ⟨r, hr⟩ := exists_watchBody block i frame children.length w
    refine (Watched.Ceases.const (failStop_watchBody block i frame children.length w) hr n).bind
      (.const _) (fun r => settles_watchTurn block (k children.length) (children ++ [r.1]) woken
        r.2) ?_ ?_
    · rintro ⟨t, w'⟩ ht'
      have hc' := List.forall_mem_append.2 ⟨hc, List.forall_mem_singleton.2 ht'⟩
      exact ih _ hcareful hc'
    · -- the error of a body that has failed at its start is met when the body is polled
      rintro e ⟨_, w'⟩ ⟨e', rfl, hroot⟩
      rw [hk] at hcareful ⊢
      exact quiet_poll_failed List.getElem?_concat_length (hcareful.1 e') hroot
  | poll i k ih =>
    unfold watchTurn
    cases hi : children[i]? with
    | none => exact ih _ ht.2.1 hc
    | some child =>
      refine (hpolls child w (hc child (List.mem_of_getElem? hi))).bind (settles_watch child w)
        (fun p => settles_watchTurn block (k p.task.outcome?) (children.set i p.task)
          (woken || p.woken) p.world) ?_ ?_
      · intro p hp
        have hc' : ∀ t ∈ children.set i p.task, t.Propagates := fun t hmem =>
          (List.mem_or_eq_of_mem_set hmem).elim (hc t) fun h => h ▸ hp
        rcases p.task.outcome? with _ | e | u
        · exact ih _ ht.2.2 hc'
        · exact ceases_givesUp (ht.1 e) hc' n
        · exact ih _ ht.2.1 hc'
      · rintro e ⟨_, woken', w'⟩ ⟨e', rfl, hroot⟩
        exact quiet_givesUp (ht.1 e') hroot

end Turns

/-! ## Steps -/

/-- Whether all that is left to do after a step is to fail with this error, in some place. -/
def IsRaised (e : RenderError) (next : (Task H × World H) ⊕ Polled H) : Prop :=
  ∃ action returns w, next = .inl (running action returns, w) ∧ Raises e action ∧ returns.PassOn

/-- Whether all that is left to do after a step propagates errors. -/
def GoesOn : (Task H × World H) ⊕ Polled H → Prop :=
  Sum.elim (fun r => r.1.Propagates) (fun p => p.task.Propagates)

omit [Evaluator] in
/-- A task that is answered with an error has nothing left to do but to fail. -/
theorem quiet_step {e : RenderError} {action : Action Unit} (ha : Raises e action)
    {returns : Returns} (hr : returns.PassOn) (w : World H) :
    Watched.Quiet (IsRaised e) fun _ => .pure (.inl (running action returns, w)) :=
  .pure ⟨action, returns, w, rfl, ha, hr⟩

/-- A step of a task stops at a failure, if polls of bodies do. -/
theorem ceases_watchStep (hH : H.Careful) {n : Nat}
    (hpolls : ∀ (t : Task H) w, t.Propagates → Watched.Ceases (fun p => p.task.Propagates)
      (fun e p => p.task.HasFailed e) (fun m => watch m t w) n)
    {t : Task H} (ht : t.Propagates) (w : World H) :
    Watched.Ceases GoesOn IsRaised (fun m => watchStep (watch m) t w) n := by
  -- by the state of the task: what it does next either fails, or leaves it such that failures pass
  -- on
  cases ht with
  | finished r => exact .pure (.finished r) n
  | @running action returns ha hr =>
    cases action with
    | done r =>
      cases returns with
      | nil => exact .pure (.finished r) n
      | cons k returns =>
        have hrest : Returns.PassOn returns := fun k' hk' => hr k' (List.mem_cons_of_mem k hk')
        exact .pure (.running ((hr k List.mem_cons_self).1 r) hrest) n
    | ask q k =>
      by_cases hinstant : q.isInstant = true
      · obtain ⟨a, w', hq⟩ := World.exists_answer hinstant w
        simp only [watchStep_ask hinstant]
        exact .step (w.failStop_watchAnswer q) ((w.watchAnswer_result q).trans hq)
          (fun r _ => .pure (.running (ha.2 r.1) hr) n)
          fun e r he => quiet_step (ha.1 r.1 e he) hr r.2
      · cases q with
        | write | isHalted | halt | modify | declare | resolve | template =>
          exact absurd rfl hinstant
        | call f frame args =>
          have hk : PassesOn k := ⟨ha.2, fun e => ha.1 (.error e) e rfl⟩
          simp only [watchStep]
          refine .step (w.failStop_watchCall f frame args) rfl ?_ ?_
          · rintro ⟨r | ⟨woken, d⟩, w'⟩ -
            · exact .pure (.running (hk.1 r) hr) n
            · exact .pure (.calling hk hr) n
          · rintro e ⟨_, w'⟩ rfl
            exact quiet_step (hk.2 e) hr w'
        | custom f block =>
          have hk : PassesOn k := ⟨ha.2, fun e => ha.1 (.error e) e rfl⟩
          simp only [watchStep]
          refine .step (w.failStop_watchHelp f block) rfl ?_ fun _ _ h => h.elim
          rintro ⟨_ | h, w'⟩ -
          · exact .pure (.running (propagates_writeResult f block) (hr.cons hk)) n
          · exact .pure (.helping (List.forall_mem_nil _) (hr.cons hk)) n
        | enter body channel frame site =>
          have hk : PassesOn k := ⟨ha.2, fun e => ha.1 (.error e) e rfl⟩
          have hasked : ∀ ev ∈ [Event.asked (.enter body channel frame site)],
              ev.failure? = none := List.forall_mem_singleton.2 rfl
          simp only [watchStep]
          refine .step (Q := fun _ _ => False) (.see hasked) rfl (fun _ _ => ?_) fun _ _ h => h.elim
          exact .pure (.running (body.propagates_run channel frame site) (hr.cons hk)) n
  | @calling d k returns hk hr =>
    simp only [watchStep]
    refine .step (w.failStop_watchPoll d) rfl ?_ ?_
    · rintro ⟨r | ⟨woken, d'⟩, w'⟩ -
      · exact .pure (.running (hk.1 r) hr) n
      · exact .pure (.calling hk hr) n
    · rintro e ⟨_, w'⟩ rfl
      exact quiet_step (hk.2 e) hr w'
  | @helping h block children returns hc hr =>
    have hturn : Watched.Ceases (fun t => ∀ child ∈ t.children, child.Propagates) Turned.HasFailed
        (fun m => watchTurn (watch m) block (w.nextTurn h).1 children false (w.nextTurn h).2) n :=
      ceases_watchTurn hpolls (hH h w.host) hc
    refine hturn.bind (settles_watchTurn block _ children false _) (fun _ => .const _) ?_ ?_
    · rintro ⟨h' | r, children', woken, w'⟩ hc'
      · exact .pure (.helping hc' hr) n
      · exact .pure (.running (Action.propagates_ofExcept r) hr) n
    · rintro e ⟨_, children', woken, w'⟩ ⟨_, rfl, e', rfl, hroot⟩
      exact quiet_step ⟨e', rfl, hroot⟩ hr w'

/-! ## Polls and runs -/

/-- When something fails in a poll, the task comes to its end. -/
theorem ceases_watch (hH : H.Careful) (n : Nat) {t : Task H} (ht : t.Propagates) (w : World H) :
    Watched.Ceases (fun p => p.task.Propagates) (fun e p => p.task.HasFailed e)
      (fun m => watch m t w) n := by
  induction n generalizing t w with
  | zero => exact .stuck rfl
  | succ n ih =>
    refine .succ ?_
    refine (ceases_watchStep hH (fun t w ht => ih ht w) ht w).bind (settles_watchStep t w) ?_ ?_ ?_
    · rintro (⟨t', w'⟩ | p)
      · exact settles_watch t' w'
      · exact .const _
    · rintro (⟨t', w'⟩ | p) hnext
      · exact ih hnext w'
      · refine Watched.Ceases.pure (a := p) ?_ n
        exact hnext
    · rintro e _ ⟨action, returns, w', rfl, ha, hr⟩
      exact quiet_raised ha hr w'

/-- When something fails in a run, the run comes to its end. -/
theorem ceases_watchRun (hH : H.Careful) (deadline : Option Deadline) (n : Nat) {t : Task H}
    (ht : t.Propagates) (w : World H) :
    Watched.Ceases (fun _ => True) (fun e r => IsError e r.1)
      (fun m => watchRun deadline m t w) n := by
  induction n generalizing deadline t w with
  | zero => exact .stuck rfl
  | succ n ih =>
    refine .succ ?_
    refine (ceases_watch hH n ht w).bind (settles_watch t w) ?_ ?_ ?_
    · rintro ⟨t', woken, w'⟩
      dsimp only
      split
      · exact .const _
      split
      · exact settles_watchRun _ t' w'
      · exact .const _
    · rintro ⟨t', woken, w'⟩ ht'
      dsimp only
      split
      · exact .pure trivial n
      split
      · exact ih _ ht' w'
      · -- nothing is seen of a render that is given up
        exact .silent rfl fun _ _ => trivial
    · rintro e ⟨_, woken, w'⟩ ⟨e', rfl, hroot⟩
      exact .pure ⟨e', rfl, hroot⟩

end Task

/-- A sink that fails when it is flushed shows that last. -/
theorem World.failStop_watchFlush (w : World H) :
    w.watchFlush.FailStop (fun _ => True) (fun e r => IsError e r.1) := by
  unfold World.watchFlush
  rcases w.flush with ⟨e | u, w'⟩
  · refine .inr ⟨[], _, e, rfl, List.forall_mem_nil _, rfl, fun r hr => ?_⟩
    cases hr
    exact ⟨e, rfl, rfl⟩
  · exact .inl ⟨List.forall_mem_singleton.2 rfl, fun _ _ => trivial⟩

/-- When something fails in a render, that is the last thing to be seen, and the render comes to its
end, which is that it has failed with this error. -/
theorem World.ceases_watch [Evaluator] (hH : H.Careful) (n : Nat) (deadline : Option Deadline)
    (scope : Scope) (frame : Frame) (w : World H) :
    Watched.Ceases (fun _ => True) (fun e r => IsError e r.1)
      (fun m => w.watch m deadline scope frame) n := by
  obtain ⟨started, hstarted⟩ := Task.exists_watchStart scope [] frame (.start 0) w
  have hstart := Task.failStop_watchStart scope [] frame (.start 0) w
  refine (Watched.Ceases.const hstart hstarted n).bind (.const _) ?_ ?_ ?_
  · rintro ⟨t, w₁⟩
    exact (Task.settles_watchRun deadline t w₁).bind fun r => .const _
  · rintro ⟨t, w₁⟩ ht
    refine (Task.ceases_watchRun hH deadline n ht w₁).bind (Task.settles_watchRun deadline t w₁)
      (fun r => .const _) ?_ ?_
    · rintro ⟨e | u, w₂⟩ -
      · exact .pure trivial n
      · exact .const w₂.failStop_watchFlush rfl n
    · rintro e ⟨_, w₂⟩ ⟨e', rfl, hroot⟩
      exact .pure ⟨e', rfl, hroot⟩
  · -- what has failed at its start is not run
    rintro e ⟨_, w₁⟩ ⟨e', rfl, hroot⟩
    refine ⟨fun m => ?_, fun {m r} hr => ?_, 2, _, rfl⟩
    · rcases m with _ | _ | m <;> rfl
    · rcases m with _ | _ | m
      · cases hr
      · cases hr
      · cases hr
        exact ⟨e', rfl, hroot⟩

end Tasks

end Stencil
