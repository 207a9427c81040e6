import Stencil.Proofs.Task.Start

/-!
# Stencil.Proofs.Task.Watch — renders that are watched

A render that is watched does what it does unwatched (`Task.watch_result`, `World.watch_result`),
and leaves a list of what could be seen: the requests that were made, and what they were answered
with. A poll is made of steps, and all that a task can do in one is said in `Task.watchStep`.
-/

namespace Stencil

/-- What can be seen of a render. -/
inductive Event where
  /-- A request is made. -/
  | asked (q : Request)
  /-- A request that need not wait is answered. -/
  | answered (q : Request) (a : q.Answer)
  /-- A call comes to this. -/
  | returned (r : Except RenderError Value)
  /-- What was written has arrived, or not. -/
  | flushed (r : Outcome)

/-- What has been seen, and what has come of it, if anything has. -/
structure Watched (α : Type) where
  events : List Event
  result : Option α

namespace Watched

variable {α β : Type}

/-- Nothing is seen. -/
def pure (a : α) : Watched α := ⟨[], some a⟩

/-- Nothing comes of it. -/
def stuck : Watched α := ⟨[], none⟩

/-- This is seen. -/
def see (events : List Event) : Watched Unit := ⟨events, some ()⟩

/-- Goes on with the result. -/
def bind (x : Watched α) (f : α → Watched β) : Watched β :=
  match x.result with
  | some a => ⟨x.events ++ (f a).events, (f a).result⟩
  | none => ⟨x.events, none⟩

theorem result_bind (x : Watched α) (f : α → Watched β) :
    (x.bind f).result = x.result.bind fun a => (f a).result := by
  unfold bind
  cases x.result <;> rfl

/-- What comes after something stuck is not seen. -/
theorem events_bind_none {x : Watched α} (h : x.result = none) (f : α → Watched β) :
    (x.bind f).events = x.events := by
  unfold bind
  rw [h]

theorem events_bind_some {x : Watched α} {a : α} (h : x.result = some a) (f : α → Watched β) :
    (x.bind f).events = x.events ++ (f a).events := by
  unfold bind
  rw [h]

/-- Sequencing is associative. -/
theorem bind_assoc {γ : Type} (x : Watched α) (f : α → Watched β) (g : β → Watched γ) :
    (x.bind f).bind g = x.bind fun a => (f a).bind g := by
  rcases x with ⟨events, _ | a⟩
  · rfl
  · unfold bind
    dsimp only
    cases (f a).result with
    | none => rfl
    | some b => exact congrArg (Watched.mk · _) (List.append_assoc ..)

/-- What two parts come to together. -/
theorem bind_of_eq {x : Watched α} {f : α → Watched β} {es es' : List Event} {a : α}
    {b : Option β} (hx : x = ⟨es, some a⟩) (hf : f a = ⟨es', b⟩) :
    x.bind f = ⟨es ++ es', b⟩ := by
  rw [hx, bind]
  dsimp only
  rw [hf]

/-- What comes of two parts comes of each. -/
theorem exists_of_bind {x : Watched α} {f : α → Watched β} {es : List Event} {b : β}
    (h : x.bind f = ⟨es, some b⟩) :
    ∃ first a next, x = ⟨first, some a⟩ ∧ f a = ⟨next, some b⟩ ∧ es = first ++ next := by
  rcases x with ⟨first, _ | a⟩
  · have hnone := congrArg Watched.result h
    cases hnone
  · have hevents := congrArg Watched.events h
    have hresult := congrArg Watched.result h
    exact ⟨first, a, (f a).events, rfl, congrArg (Watched.mk _) hresult, hevents.symm⟩

end Watched

/-! ## Watching -/

namespace World

variable {H : Host}

/-- What the world answers. -/
def watchAnswer (w : World H) (q : Request) : Watched (q.Answer × World H) :=
  match w.answer? q with
  | some r => ⟨[.asked q, .answered q r.1], some r⟩
  | none => .stuck

/-- A program that does not wait. -/
def watchNow {α : Type} : Program α → World H → Watched (α × World H)
  | .done a, w => .pure (a, w)
  | .ask q k, w => (w.watchAnswer q).bind fun r => watchNow (k r.1) r.2

/-- What is seen of a result: nothing, as long as it is not there. -/
def resultEvents {Pending : Type} : Progressed Pending → List Event
  | .ready r => [.returned r]
  | .pending _ _ => []

/-- The call of a function. -/
def watchCall (w : World H) (f : Nat) (frame : Frame) (args : List Value) :
    Watched (Progressed H.Pending × World H) :=
  let (r, host) := H.call f frame args w.host
  ⟨.asked (.call f frame args) :: resultEvents r, some (r, { w with host })⟩

/-- A poll of the result of a call. -/
def watchPoll (w : World H) (d : H.Pending) : Watched (Progressed H.Pending × World H) :=
  let (r, host) := H.poll d w.host
  ⟨resultEvents r, some (r, { w with host })⟩

/-- A block handed to a function. -/
def watchHelp (w : World H) (f : Nat) (block : CustomBlock) :
    Watched (Option H.Helper × World H) :=
  let (h, host) := H.help f block.frame block.bodies.length w.host
  ⟨[.asked (.custom f block)], some (h, { w with host })⟩

/-- Making sure that what was written has arrived. -/
def watchFlush (w : World H) : Watched (Outcome × World H) :=
  ⟨[.flushed w.flush.1], some w.flush⟩

/-- What a helper is going to do in its turn. -/
def nextTurn (w : World H) (h : H.Helper) : Turn H.Helper × World H :=
  let (turn, host) := H.turn h w.host
  (turn, { w with host })

theorem watchAnswer_result (w : World H) (q : Request) :
    (w.watchAnswer q).result = w.answer? q := by
  unfold watchAnswer
  cases w.answer? q <;> rfl

/-- Watching a program does not change what it comes to. -/
theorem watchNow_result {α : Type} (p : Program α) (w : World H) :
    (w.watchNow p).result = w.runNow p := by
  induction p generalizing w with
  | done a => rfl
  | ask q k ih =>
    rw [watchNow, Watched.result_bind, watchAnswer_result, runNow]
    cases w.answer? q with
    | none => rfl
    | some r => exact ih r.1 r.2

end World

namespace Task

variable {H : Host} [Evaluator]

/-- The start of a scope. -/
def watchStart (scope : Scope) (channel : Channel) (frame : Frame) (site : Site) (w : World H) :
    Watched (Task H × World H) :=
  (w.watchNow (runSteps channel frame site 0 scope.now)).bind fun r =>
    .pure (started scope channel frame site r.1, r.2)

/-- The start of a body of a block, which becomes the child with this number. -/
def watchBody (block : CustomBlock) (i : Nat) (frame : Frame) (child : Nat) (w : World H) :
    Watched (Task H × World H) :=
  match block.bodies[i]? with
  | some body => watchStart body block.channel frame (.part block.site child) w
  | none => .pure (finished (.ok ()), w)

/-- A turn of a helper. -/
def watchTurn (watchChild : Task H → World H → Watched (Polled H)) (block : CustomBlock) :
    Turn H.Helper → List (Task H) → Bool → World H → Watched (Turned H)
  | .finish r, children, woken, w => .pure ⟨.inr r, children, woken, w⟩
  | .wait woken' h, children, woken, w => .pure ⟨.inl h, children, woken || woken', w⟩
  | .write text k, children, woken, w =>
    (w.watchNow (block.channel.write text)).bind fun r =>
      watchTurn watchChild block (k r.1) children woken r.2
  | .halt k, children, woken, w =>
    (w.watchAnswer .halt).bind fun r => watchTurn watchChild block k children woken r.2
  | .isHalted k, children, woken, w =>
    (w.watchAnswer .isHalted).bind fun r =>
      watchTurn watchChild block (k r.1) children woken r.2
  | .start i frame k, children, woken, w =>
    (watchBody block i frame children.length w).bind fun r =>
      watchTurn watchChild block (k children.length) (children ++ [r.1]) woken r.2
  | .poll i k, children, woken, w =>
    match children[i]? with
    | none => watchTurn watchChild block (k (some (.ok ()))) children woken w
    | some child =>
      (watchChild child w).bind fun p =>
        watchTurn watchChild block (k p.task.outcome?) (children.set i p.task)
          (woken || p.woken) p.world

/-- A step of a task: the task it goes on with, or what the poll has led to. -/
def watchStep (watchChild : Task H → World H → Watched (Polled H)) :
    Task H → World H → Watched ((Task H × World H) ⊕ Polled H)
  | finished r, w => .pure (.inr ⟨finished r, false, w⟩)
  | running (.done r) [], w => .pure (.inr ⟨finished r, false, w⟩)
  | running (.done r) (k :: returns), w => .pure (.inl (running (k r) returns, w))
  | running (.ask q k) returns, w =>
    match q, k with
    | .call f frame args, k =>
      (w.watchCall f frame args).bind fun
        | (.ready r, w) => .pure (.inl (running (k r) returns, w))
        | (.pending _ d, w) => .pure (.inl (calling d k returns, w))
    | .custom f block, k =>
      (w.watchHelp f block).bind fun
        | (some h, w) => .pure (.inl (helping h block [] (k :: returns), w))
        | (none, w) => .pure (.inl (running (writeResult f block) (k :: returns), w))
    | .enter body channel frame site, k =>
      (Watched.see [.asked (.enter body channel frame site)]).bind fun _ =>
        .pure (.inl (running (body.run channel frame site) (k :: returns), w))
    | q, k => (w.watchAnswer q).bind fun r => .pure (.inl (running (k r.1) returns, r.2))
  | calling d k returns, w =>
    (w.watchPoll d).bind fun
      | (.ready r, w) => .pure (.inl (running (k r) returns, w))
      | (.pending woken d, w) => .pure (.inr ⟨calling d k returns, woken, w⟩)
  | helping h block children returns, w =>
    let (turn, w) := w.nextTurn h
    (watchTurn watchChild block turn children false w).bind fun
      | ⟨.inl h, children, woken, w⟩ =>
        .pure (.inr ⟨helping h block children returns, woken, w⟩)
      | ⟨.inr r, _, _, w⟩ => .pure (.inl (running (Action.ofExcept r) returns, w))

/-- A poll of a task. The bodies of a helper are polled with one step less. -/
def watch : Nat → Task H → World H → Watched (Polled H)
  | 0, _, _ => .stuck
  | n + 1, t, w => (watchStep (watch n) t w).bind (Sum.elim (fun r => watch n r.1 r.2) .pure)

/-- A run of a task. -/
def watchRun : Option Deadline → Nat → Task H → World H → Watched (Outcome × World H)
  | _, 0, _, _ => .stuck
  | deadline, n + 1, task, w =>
    (watch n task w).bind fun p =>
      match p.task.outcome? with
      | some r => .pure (r, p.world)
      | none =>
        if Deadline.permits deadline p.woken then
          watchRun (deadline.map .next) n p.task p.world
        else ⟨[], expire deadline p.world⟩

/-- Watching the start of a program does not change it. -/
theorem watchStart_result (scope : Scope) (channel : Channel) (frame : Frame) (site : Site)
    (w : World H) :
    (watchStart scope channel frame site w).result = start scope channel frame site w := by
  rw [watchStart, Watched.result_bind, World.watchNow_result, start_eq]
  cases w.runNow (runSteps channel frame site 0 scope.now) <;> rfl

theorem watchBody_result (block : CustomBlock) (i : Nat) (frame : Frame)
    (children : List (Task H)) (w : World H) :
    (watchBody block i frame children.length w).result = startBody block i frame children w := by
  unfold watchBody startBody
  cases block.bodies[i]? with
  | none => rfl
  | some body => exact watchStart_result body _ _ _ w

/-- Watching a turn of a helper changes nothing if watching its bodies does not. -/
theorem watchTurn_result {watchChild : Task H → World H → Watched (Polled H)}
    {pollChild : Task H → World H → Option (Polled H)}
    (hchild : ∀ t w, (watchChild t w).result = pollChild t w) (block : CustomBlock)
    (turn : Turn H.Helper) (children : List (Task H)) (woken : Bool) (w : World H) :
    (watchTurn watchChild block turn children woken w).result =
      takeTurn pollChild block turn children woken w := by
  -- on the instructions of the turn
  induction turn generalizing children woken w with
  | finish r => rfl
  | wait woken' h => rfl
  | write text k ih =>
    rw [watchTurn, Watched.result_bind, World.watchNow_result, takeTurn]
    cases w.runNow (block.channel.write text) with
    | none => rfl
    | some r => exact ih r.1 children woken r.2
  | halt k ih => exact ih children woken w.halt
  | isHalted k ih => exact ih w.halted children woken w
  | start i frame k ih =>
    rw [watchTurn, Watched.result_bind, watchBody_result, takeTurn_start]
    cases startBody block i frame children w with
    | none => rfl
    | some r => exact ih _ _ woken r.2
  | poll i k ih =>
    cases hi : children[i]? with
    | none =>
      rw [watchTurn, takeTurn, hi]
      exact ih _ children woken w
    | some child =>
      rw [takeTurn_poll hi, watchTurn, hi]
      dsimp only
      rw [Watched.result_bind, hchild]
      cases pollChild child w with
      | none => rfl
      | some p => exact ih _ _ _ p.world

/-- A request that is answered at once. -/
theorem watchStep_ask {q : Request} (h : q.isInstant = true)
    (watchChild : Task H → World H → Watched (Polled H)) (k : q.Answer → Action Unit)
    (returns : Returns) (w : World H) :
    watchStep watchChild (running (.ask q k) returns) w =
      (w.watchAnswer q).bind fun r => .pure (.inl (running (k r.1) returns, r.2)) := by
  cases q with
  | call | custom | enter => cases h
  | write | isHalted | halt | modify | declare | resolve | template => rfl

/-- What is seen of a poll is what is seen of a step, and then of the rest of the poll. -/
theorem watch_of_step {α : Type} {n : Nat} {t : Task H} {w : World H} {x : Watched α}
    {next : α → (Task H × World H) ⊕ Polled H}
    (h : watchStep (watch n) t w = x.bind fun a => .pure (next a)) :
    watch (n + 1) t w = x.bind fun a =>
      Sum.elim (fun r => watch n r.1 r.2) .pure (next a) := by
  rw [watch, h, Watched.bind_assoc]
  rfl

/-- What comes of a step, and what comes of the rest of the poll. -/
theorem watch_succ_result (n : Nat) (t : Task H) (w : World H) :
    (watch (n + 1) t w).result = (watchStep (watch n) t w).result.bind
      (Sum.elim (fun r => (watch n r.1 r.2).result) some) := by
  rw [watch, Watched.result_bind]
  cases (watchStep (watch n) t w).result with
  | none => rfl
  | some next => cases next <;> rfl

/-- A task that is watched does what it does when it is not. -/
theorem watch_result (n : Nat) (t : Task H) (w : World H) :
    (watch n t w).result = poll n t w := by
  -- on the steps of the poll
  induction n generalizing t w with
  | zero => rfl
  | succ n ih =>
    rw [watch_succ_result]
    cases t with
    | finished r => rfl
    | running action returns =>
      cases action with
      | done r =>
        cases returns with
        | nil => rfl
        | cons k returns => exact ih _ w
      | ask q k =>
        by_cases hinstant : q.isInstant = true
        · obtain ⟨a, w', hq⟩ := World.exists_answer hinstant w
          rw [watchStep_ask hinstant, Watched.result_bind, World.watchAnswer_result, hq, poll_ask hq]
          exact ih _ w'
        · cases q with
          | write | isHalted | halt | modify | declare | resolve | template =>
            exact absurd rfl hinstant
          | call f frame args =>
            rw [watchStep, Watched.result_bind, poll, World.watchCall]
            rcases H.call f frame args w.host with ⟨r | ⟨woken, d⟩, host⟩
            · exact ih _ _
            · exact ih _ _
          | custom f block =>
            rw [watchStep, Watched.result_bind, poll, World.watchHelp]
            rcases H.help f block.frame block.bodies.length w.host with ⟨_ | h, host⟩
            · exact ih _ _
            · exact ih _ _
          | enter body channel frame site => exact ih _ w
    | calling d k returns =>
      rw [watchStep, Watched.result_bind, poll, World.watchPoll]
      rcases H.poll d w.host with ⟨r | ⟨woken, d'⟩, host⟩
      · exact ih _ _
      · rfl
    | helping h block children returns =>
      rw [watchStep, poll]
      dsimp only [World.nextTurn]
      rw [Watched.result_bind, watchTurn_result ih]
      generalize takeTurn (poll n) block _ children false _ = turned
      rcases turned with _ | ⟨h' | r, children', woken, w'⟩
      · rfl
      · rfl
      · exact ih _ w'

/-- Watching a whole run does not change it. -/
theorem watchRun_result (deadline : Option Deadline) (n : Nat) (t : Task H) (w : World H) :
    (watchRun deadline n t w).result = run deadline n t w := by
  induction n generalizing deadline t w with
  | zero => rfl
  | succ n ih =>
    rw [watchRun, Watched.result_bind, watch_result, run]
    rcases poll n t w with _ | ⟨t', woken, w'⟩
    · rfl
    dsimp only [Option.bind_some]
    cases t'.outcome? with
    | some r => rfl
    | none =>
      dsimp only
      split
      · exact ih _ t' w'
      · rfl

end Task

/-- A render. -/
def World.watch {H : Host} [Evaluator] (fuel : Nat) (deadline : Option Deadline) (scope : Scope)
    (frame : Frame) (w : World H) : Watched (Outcome × World H) :=
  (Task.watchStart scope [] frame (.start 0) w).bind fun started =>
    (Task.watchRun deadline fuel started.1 started.2).bind fun
      | (.ok (), w) => w.watchFlush
      | (.error e, w) => .pure (.error e, w)

/-- **Watching a render does not change it.** -/
theorem World.watch_result {H : Host} [Evaluator] (fuel : Nat) (deadline : Option Deadline)
    (scope : Scope) (frame : Frame) (w : World H) :
    (w.watch fuel deadline scope frame).result = w.render fuel deadline scope frame := by
  rw [watch, Watched.result_bind, Task.watchStart_result, render_eq]
  cases Task.start scope [] frame (.start 0) w with
  | none => rfl
  | some started =>
    dsimp only [Option.bind_some]
    rw [Watched.result_bind, Task.watchRun_result]
    rcases Task.run deadline fuel started.1 started.2 with _ | ⟨_ | _, w'⟩ <;> rfl

end Stencil
