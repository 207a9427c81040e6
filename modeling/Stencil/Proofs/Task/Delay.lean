import Stencil.Proofs.Task.Services
import Stencil.Proofs.Task.Start

/-!
# Stencil.Proofs.Task.Delay — slow functions change nothing but the time

`Task.Comes` says what a task comes to when nobody counts polls: a call that has been made has
its result, and a body that is awaited is run to its end. A task that is polled until it is
through comes to this at every pace (`Task.comes_of_run`), and at every pace it gets there
(`Task.Comes.endsAnyway`). So what a render comes to does not depend on how long anything takes
(`World.render_at_any_pace`).
-/

namespace Stencil

namespace Task

variable {S : Services} [Evaluator]

/-! ## What a task comes to -/

/-- Starting a body asks the host for nothing, so the delays have no part in it. -/
theorem startBody_paced (block : CustomBlock) (i : Nat) (frame : Frame)
    (children : List (Task S.host)) (w : World S.host) (d : Delays) :
    startBody block i frame children (w.paced d) =
      (startBody block i frame children w).map fun r => (r.1, r.2.paced d) := by
  unfold startBody
  cases block.bodies[i]? with
  | none => rfl
  | some body => exact start_paced body block.channel frame _ w d

mutual

/-- What a task comes to, however long it waits. -/
inductive Comes : Task S.host → World S.host → Outcome × World S.host → Prop
  | finished {r w} : Comes (.finished r) w (r, w)
  | done {r w} : Comes (.running (.done r) []) w (r, w)
  | returned {r k returns w x} :
      Comes (.running (k r) returns) w x → Comes (.running (.done r) (k :: returns)) w x
  | answered {q a w w' x returns} {k : q.Answer → Action Unit} : w.answer? q = some (a, w') →
      Comes (.running (k a) returns) w' x → Comes (.running (.ask q k) returns) w x
  | called {f frame args k returns w x} :
      Comes (.calling (S.called f frame args w.host).1 k returns)
        { w with host := (S.called f frame args w.host).2 } x →
      Comes (.running (.ask (.call f frame args) k) returns) w x
  | completed {d k returns w x} :
      Comes (.running (k (S.completed d w.host).1) returns)
        { w with host := (S.completed d w.host).2 } x →
      Comes (.calling d k returns) w x
  | handed {f block h k returns w x} :
      (S.handed f block.frame block.bodies.length w.host).1 = some h →
      Comes (.helping h block [] (k :: returns))
        { w with host := (S.handed f block.frame block.bodies.length w.host).2 } x →
      Comes (.running (.ask (.custom f block) k) returns) w x
  | unhandled {f block k returns w x} :
      (S.handed f block.frame block.bodies.length w.host).1 = none →
      Comes (.running (writeResult f block) (k :: returns))
        { w with host := (S.handed f block.frame block.bodies.length w.host).2 } x →
      Comes (.running (.ask (.custom f block) k) returns) w x
  | entered {body channel frame site k returns w x} :
      Comes (.running (body.run channel frame site) (k :: returns)) w x →
      Comes (.running (.ask (.enter body channel frame site) k) returns) w x
  | helped {h block children returns r w w' x} :
      Follows block (S.resume h w.host).1 children { w with host := (S.resume h w.host).2 }
        (r, w') →
      Comes (.running (Action.ofExcept r) returns) w' x →
      Comes (.helping h block children returns) w x

/-- What a helper comes to that has started these bodies and goes on like this. -/
inductive Follows : CustomBlock → Script S.Helper → List (Task S.host) → World S.host →
    Outcome × World S.host → Prop
  | finish {block r children w} : Follows block (.finish r) children w (r, w)
  | rest {block h children w x} :
      Follows block (S.resume (.resting h) w.host).1 children
        { w with host := (S.resume (.resting h) w.host).2 } x →
      Follows block (.rest h) children w x
  | write {block text k r children w w' x} :
      w.runNow (block.channel.write text) = some (r, w') → Follows block (k r) children w' x →
      Follows block (.write text k) children w x
  | halt {block k children w x} : Follows block k children w.halt x →
      Follows block (.halt k) children w x
  | isHalted {block k children w x} : Follows block (k w.halted) children w x →
      Follows block (.isHalted k) children w x
  | start {block i frame k child children w w' x} :
      startBody block i frame children w = some (child, w') →
      Follows block (k children.length) (children ++ [child]) w' x →
      Follows block (.start i frame k) children w x
  | absent {block child k children w x} : children[child]? = none →
      Follows block (k (.ok ())) children w x → Follows block (.await child k) children w x
  | await {block i k child r children w w' x} : children[i]? = some child →
      Comes child w (r, w') → Follows block (k r) (children.set i (.finished r)) w' x →
      Follows block (.await i k) children w x

end

/-! ## Waiting -/

section Waiting

variable {n : Nat} {returns : Returns} {w : World S.host}

/-- A call whose delay is over gives its value in the poll that makes it. -/
theorem poll_call_ready {f : Nat} {frame : Frame} {args : List Value}
    {k : (Request.call f frame args).Answer → Program Outcome}
    (h : w.host.delays.tick.1 = true) :
    let called := S.called f frame args w.host
    poll (n + 1) (running (.ask (.call f frame args) k) returns) w =
      poll n (running (k (S.completed called.1 called.2).1) returns)
        ({ w with host := (S.completed called.1 called.2).2 }.paced w.host.delays.tick.2) := by
  rw [poll]
  dsimp only
  rw [Services.poll_ready (s := (S.called f frame args w.host).2) h]
  rfl

/-- A call whose delay is not over leaves the task waiting for it. -/
theorem poll_call_pending {f : Nat} {frame : Frame} {args : List Value}
    {k : (Request.call f frame args).Answer → Program Outcome}
    (h : w.host.delays.tick.1 = false) :
    let called := S.called f frame args w.host
    poll (n + 1) (running (.ask (.call f frame args) k) returns) w =
      poll n (calling called.1 k returns)
        ({ w with host := called.2 }.paced w.host.delays.tick.2) := by
  rw [poll]
  dsimp only
  rw [Services.poll_pending (s := (S.called f frame args w.host).2) h]
  rfl

/-- A call in flight gives its value in the poll in which its delay is over. -/
theorem poll_calling_ready {d : S.Future} {k : Except RenderError Value → Action Unit}
    (h : w.host.delays.tick.1 = true) :
    poll (n + 1) (calling d k returns) w =
      poll n (running (k (S.completed d w.host).1) returns)
        ({ w with host := (S.completed d w.host).2 }.paced w.host.delays.tick.2) := by
  rw [poll]
  dsimp only
  rw [Services.poll_ready h]
  rfl

/-- Until then it waits, with one poll less to wait for. -/
theorem poll_calling_pending {d : S.Future} {k : Except RenderError Value → Action Unit}
    (h : w.host.delays.tick.1 = false) :
    poll (n + 1) (calling d k returns) w =
      some ⟨calling d k returns, true, w.paced w.host.delays.tick.2⟩ := by
  rw [poll]
  dsimp only
  rw [Services.poll_pending h]
  rfl

/-- A custom block that the host takes is handed to a helper. -/
theorem poll_custom_some {f : Nat} {block : CustomBlock} {h : Suspended S.Helper}
    {k : (Request.custom f block).Answer → Program Outcome}
    (hhanded : (S.handed f block.frame block.bodies.length w.host).1 = some h) :
    poll (n + 1) (running (.ask (.custom f block) k) returns) w =
      poll n (helping h block [] (k :: returns))
        { w with host := (S.handed f block.frame block.bodies.length w.host).2 } := by
  rw [poll]
  dsimp only
  generalize S.handed f block.frame block.bodies.length w.host = handed at hhanded ⊢
  obtain ⟨h', s⟩ := handed
  cases hhanded
  rfl

/-- One that no function of the host takes writes its result as a value. -/
theorem poll_custom_none {f : Nat} {block : CustomBlock}
    {k : (Request.custom f block).Answer → Program Outcome}
    (hhanded : (S.handed f block.frame block.bodies.length w.host).1 = none) :
    poll (n + 1) (running (.ask (.custom f block) k) returns) w =
      poll n (running (writeResult f block) (k :: returns))
        { w with host := (S.handed f block.frame block.bodies.length w.host).2 } := by
  rw [poll]
  dsimp only
  generalize S.handed f block.frame block.bodies.length w.host = handed at hhanded ⊢
  obtain ⟨h', s⟩ := handed
  cases hhanded
  rfl

/-- What is left of a render after a turn of a helper. -/
def afterTurn (n : Nat) (block : CustomBlock) (returns : Returns) :
    Option (Turned S.host) → Option (Polled S.host)
  | none => none
  | some ⟨.inl h, children, woken, w⟩ => some ⟨helping h block children returns, woken, w⟩
  | some ⟨.inr r, _, _, w⟩ => poll n (running (Action.ofExcept r) returns) w

variable {h : Suspended S.Helper} {block : CustomBlock} {children : List (Task S.host)}

/-- A helper at work takes its turn. -/
theorem poll_helping :
    poll (n + 1) (helping h block children returns) w =
      afterTurn n block returns (takeTurn (poll n) block (S.turn h w.host).1 children false
        { w with host := (S.turn h w.host).2 }) := by
  rw [poll]
  dsimp only
  generalize takeTurn (poll n) block _ children false _ = turned
  rcases turned with _ | ⟨helper | r, children', woken, w'⟩ <;> rfl

/-- A helper whose delay is over goes on with its script. -/
theorem poll_helping_ready (hready : (h.tick w.host.delays).1 = true) :
    let resumed := S.resume h w.host
    poll (n + 1) (helping h block children returns) w =
      afterTurn n block returns (takeTurn (poll n) block resumed.1.turn children false
        ({ w with host := resumed.2 }.paced (h.tick w.host.delays).2)) := by
  rw [poll_helping, Services.turn_ready hready]
  rfl

theorem poll_helping_pending (hpending : (h.tick w.host.delays).1 = false) :
    poll (n + 1) (helping h block children returns) w =
      some ⟨helping h block children returns, true, w.paced (h.tick w.host.delays).2⟩ := by
  rw [poll_helping, Services.turn_pending hpending]
  rfl

end Waiting

/-! ## Every pace leads there -/

/-- What a helper comes to after a turn. -/
def Leads (block : CustomBlock) (children : List (Task S.host)) (w : World S.host)
    (x : Outcome × World S.host) : Suspended S.Helper ⊕ Outcome → Prop
  | .inl h => Follows block (S.resume h w.host).1 children
      { w with host := (S.resume h w.host).2 } x
  | .inr r => x = (r, w)

/-- A body that is awaited may have been polled. -/
theorem follows_await_set {block : CustomBlock} {i : Nat} {k : Outcome → Script S.Helper}
    {children : List (Task S.host)} {child child' : Task S.host} {w w' : World S.host}
    {x : Outcome × World S.host} (hchild : children[i]? = some child)
    (hcomes : ∀ x, Comes child' w' x → Comes child w x)
    (h : Follows block (.await i k) (children.set i child') w' x) :
    Follows block (.await i k) children w x := by
  have hlt : i < children.length := (List.getElem?_eq_some_iff.1 hchild).1
  cases h with
  | absent hnone _ =>
    rw [List.getElem?_set_self hlt] at hnone
    cases hnone
  | await hsome hchild' hk =>
    rw [List.getElem?_set_self hlt] at hsome
    cases hsome
    rw [List.set_set] at hk
    exact .await hchild (hcomes _ hchild') hk

section Polls

variable {d : Delays}

/-- Whether whatever comes of what polling leaves comes of the task as well. -/
def KeepsComing (d : Delays) (pollChild : Task S.host → World S.host → Option (Polled S.host)) :
    Prop :=
  ∀ t w p x, pollChild t w = some p → Comes p.task (p.world.paced d) x → Comes t (w.paced d) x

/-- What a turn of a helper leads to is what its script leads to when it is followed to its end. -/
theorem follows_of_takeTurn {pollChild : Task S.host → World S.host → Option (Polled S.host)}
    (hpoll : KeepsComing d pollChild) {block : CustomBlock} (script : Script S.Helper)
    {children : List (Task S.host)} {woken : Bool} {w : World S.host} {turned : Turned S.host}
    (h : takeTurn pollChild block script.turn children woken w = some turned)
    {x : Outcome × World S.host}
    (hx : Leads block turned.children (turned.world.paced d) x turned.helper) :
    Follows block script children (w.paced d) x := by
  -- on the script: each instruction of it is one step of the turn, and the poll of a body is taken
  -- over by `hpoll`
  induction script generalizing children woken w with
  | finish r =>
    cases h
    cases hx
    exact .finish
  | rest h' =>
    cases h
    exact .rest hx
  | write text k ih =>
    rw [Script.turn, takeTurn] at h
    split at h
    · cases h
    · next r w' hrun =>
      have hrun' : (w.paced d).runNow (block.channel.write text) = some (r, w'.paced d) := by
        rw [World.runNow_paced, hrun]
        rfl
      exact .write hrun' (ih r h)
  | halt k ih => exact .halt (ih h)
  | isHalted k ih => exact .isHalted (ih _ h)
  | start i frame k ih =>
    rw [Script.turn, takeTurn_start] at h
    obtain ⟨r, hstart, h⟩ := Option.bind_eq_some_iff.1 h
    have hstart' : startBody block i frame children (w.paced d) = some (r.1, r.2.paced d) := by
      rw [startBody_paced, hstart]
      rfl
    exact .start hstart' (ih _ h)
  | await i k ih =>
    rw [Script.turn] at h
    cases hchild : children[i]? with
    | none =>
      rw [takeTurn, hchild] at h
      exact .absent hchild (ih _ h)
    | some child =>
      rw [takeTurn_poll hchild] at h
      obtain ⟨p, hp, h⟩ := Option.bind_eq_some_iff.1 h
      obtain ⟨child', woken', w'⟩ := p
      cases child' with
      | finished r =>
        exact .await hchild (hpoll _ _ _ _ hp .finished) (ih r h)
      | running | calling | helping =>
        -- the body is not through, and is awaited again in the next turn
        cases h
        exact follows_await_set hchild (fun x => hpoll _ _ _ x hp) hx

/-- What a task comes to after some poll, it comes to when it is polled once more before. -/
theorem keepsComing_poll (d : Delays) (n : Nat) : KeepsComing (S := S) d (poll n) := by
  -- on the depth of the poll, along the steps of a task
  induction n with
  | zero => exact fun t w p x h => nomatch h
  | succ n ih =>
    intro t w p x h hx
    cases t with
    | finished r =>
      cases h
      exact hx
    | running action returns =>
      cases action with
      | done r =>
        cases returns with
        | nil =>
          cases h
          cases hx
          exact .done
        | cons k returns => exact .returned (ih _ _ _ _ h hx)
      | ask q k =>
        by_cases hinstant : q.isInstant = true
        · obtain ⟨a, w', hq⟩ := World.exists_answer hinstant w
          rw [poll_ask hq] at h
          have hq' : (w.paced d).answer? q = some (a, w'.paced d) := by
            rw [World.answer_paced, hq]
            rfl
          exact .answered hq' (ih _ _ _ _ h hx)
        · cases q with
          | write | isHalted | halt | modify | declare | resolve | template =>
            exact absurd rfl hinstant
          | call f frame args =>
            refine .called ?_
            cases hready : w.host.delays.tick.1 with
            | true =>
              rw [poll_call_ready hready] at h
              exact .completed (ih _ _ _ _ h hx)
            | false =>
              rw [poll_call_pending hready] at h
              exact ih _ _ _ _ h hx
          | custom f block =>
            cases hhanded : (S.handed f block.frame block.bodies.length w.host).1 with
            | some helper =>
              rw [poll_custom_some hhanded] at h
              exact .handed hhanded (ih _ _ _ _ h hx)
            | none =>
              rw [poll_custom_none hhanded] at h
              exact .unhandled hhanded (ih _ _ _ _ h hx)
          | enter body channel frame site => exact .entered (ih _ _ _ _ h hx)
    | calling d' k returns =>
      cases hready : w.host.delays.tick.1 with
      | true =>
        rw [poll_calling_ready hready] at h
        exact .completed (ih _ _ _ _ h hx)
      | false =>
        rw [poll_calling_pending hready] at h
        cases h
        exact hx
    | helping helper block children returns =>
      cases hready : (helper.tick w.host.delays).1 with
      | true =>
        rw [poll_helping_ready hready] at h
        cases hturn : takeTurn (poll n) block (S.resume helper w.host).1.turn children false
            ({ w with host := (S.resume helper w.host).2 }.paced
              (helper.tick w.host.delays).2) with
        | none =>
          rw [hturn] at h
          cases h
        | some turned =>
          rw [hturn] at h
          obtain ⟨helper' | r, children', woken', w'⟩ := turned
          · cases h
            -- the helper goes on in a later turn from where this one has left it
            cases hx with
            | helped hfollows hrest =>
              exact .helped (follows_of_takeTurn ih _ hturn hfollows) hrest
          · exact .helped (follows_of_takeTurn ih _ hturn rfl) (ih _ _ _ _ h hx)
      | false =>
        rw [poll_helping_pending hready] at h
        cases h
        exact hx

/-- What a task has come to when it is polled at some pace, it comes to. -/
theorem comes_of_run {n : Nat} {t : Task S.host} {w : World S.host} {x : Outcome × World S.host}
    (h : run none n t w = some x) : Comes t (w.paced d) (x.1, x.2.paced d) := by
  induction n generalizing t w with
  | zero => cases h
  | succ n ih =>
    obtain ⟨woken, hp⟩ | ⟨t', w', -, hp, hrun⟩ := run_none_cases h
    · exact keepsComing_poll d n _ _ _ _ hp .finished
    · exact keepsComing_poll d n _ _ _ _ hp (ih hrun)

end Polls

/-! ## There is a way at every pace -/

section Ends

variable {deadline : Option Deadline}

/-- If whatever comes of polling one task comes of polling another, the other comes to what the one
comes to. -/
theorem Ends.of_poll {t t' : Task S.host} {w w' : World S.host} {r : Outcome × World S.host}
    (h : Ends deadline t' w' r)
    (hpoll : ∀ n p, poll n t' w' = some p → ∃ m, poll m t w = some p) :
    Ends deadline t w r := by
  obtain ⟨n, hn⟩ := h
  cases n with
  | zero => cases hn
  | succ n =>
    obtain ⟨t₁, woken, w₁, hp, hend⟩ := run_cases hn
    obtain ⟨m, hm⟩ := hpoll n _ hp
    refine ⟨max m n + 1, ?_⟩
    have hm' := poll_le (Nat.le_max_left m n) hm
    obtain ⟨rfl, rfl⟩ | ⟨ho, ⟨hpermits, hrun⟩ | ⟨hpermits, hexpire⟩⟩ := hend
    · exact run_of_outcome rfl hm'
    · rw [run_of_unfinished ho hm', if_pos hpermits]
      exact run_le (Nat.le_max_right m n) hrun
    · rw [run_of_unfinished ho hm', hpermits]
      exact hexpire

/-- A task ends as the one it becomes in a step. -/
theorem Ends.of_poll_succ {t t' : Task S.host} {w w' : World S.host} {r : Outcome × World S.host}
    (h : Ends deadline t' w' r) (hpoll : ∀ n, poll (n + 1) t w = poll n t' w') :
    Ends deadline t w r :=
  h.of_poll fun n _ hp => ⟨n + 1, (hpoll n).trans hp⟩

/-- A task that has arranged for its next poll comes to what is left of it comes to. -/
theorem Ends.of_woken {t t' : Task S.host} {w w' : World S.host} {r : Outcome × World S.host}
    (h : Ends none t' w' r) {n : Nat} (hpoll : poll n t w = some ⟨t', true, w'⟩) :
    Ends none t w r := by
  obtain ⟨m, hm⟩ := h
  refine ⟨max n m + 1, ?_⟩
  have hpoll' := poll_le (Nat.le_max_left n m) hpoll
  cases ho : t'.outcome? with
  | none =>
    rw [run_of_unfinished ho hpoll']
    exact run_le (Nat.le_max_right n m) hm
  | some o =>
    cases eq_finished ho
    rw [run_of_outcome rfl hpoll']
    rcases m with _ | _ | m
    · cases hm
    · cases hm
    · exact hm

end Ends

/-- Whether a task comes to this at every pace. -/
def EndsAnyway (t : Task S.host) (w : World S.host) (x : Outcome × World S.host) : Prop :=
  ∀ d, ∃ d', Ends none t (w.paced d) (x.1, x.2.paced d')

/-- Whether a render comes to this after a turn of a helper. -/
def Concludes (block : CustomBlock) (returns : Returns) (r : Outcome × World S.host) :
    Turned S.host → Prop
  | ⟨.inl h, children, woken, w⟩ =>
    woken = true ∧ Ends none (helping h block children returns) w r
  | ⟨.inr o, _, _, w⟩ => Ends none (running (Action.ofExcept o) returns) w r

/-- Whether a render comes to this in which a helper goes on with its turn like this. -/
def EndsTurn (block : CustomBlock) (returns : Returns) (turn : Turn (Suspended S.Helper))
    (children : List (Task S.host)) (w : World S.host) (r : Outcome × World S.host) : Prop :=
  ∀ woken, ∃ n turned, takeTurn (poll n) block turn children woken w = some turned ∧
    Concludes block returns r turned

section Turns

variable {block : CustomBlock} {returns : Returns} {children : List (Task S.host)}
  {w : World S.host} {r : Outcome × World S.host}

/-- A turn that ends the render ends the poll of the helper whose delay is over. -/
theorem EndsTurn.ends {h : Suspended S.Helper} (hready : (h.tick w.host.delays).1 = true)
    (hturn : EndsTurn block returns (S.resume h w.host).1.turn children
      ({ w with host := (S.resume h w.host).2 }.paced (h.tick w.host.delays).2) r) :
    Ends none (helping h block children returns) w r := by
  obtain ⟨n, turned, hn, hr⟩ := hturn false
  obtain ⟨h' | o, children', woken', w'⟩ := turned
  · obtain ⟨rfl, hends⟩ := hr
    refine hends.of_woken (n := n + 1) ?_
    rw [poll_helping_ready hready, hn]
    rfl
  · refine Ends.of_poll hr fun m p hp => ⟨max n m + 1, ?_⟩
    rw [poll_helping_ready hready]
    rw [takeTurn_mono (fun t w r => poll_le (Nat.le_max_left n m)) block _ hn]
    exact poll_le (Nat.le_max_right n m) hp

/-- A helper comes to what its turn comes to, if it does at every pace. -/
theorem endsAnyway_helping {h : Suspended S.Helper} {x : Outcome × World S.host}
    (hturn : ∀ d, ∃ d', EndsTurn block returns (S.resume h w.host).1.turn children
      ({ w with host := (S.resume h w.host).2 }.paced d) (x.1, x.2.paced d')) :
    EndsAnyway (helping h block children returns) w x := by
  intro d
  cases h with
  | awaiting i k =>
    obtain ⟨d', hd'⟩ := hturn d
    exact ⟨d', EndsTurn.ends rfl hd'⟩
  | resting h =>
    induction d using Delays.wait with
    | hready d hready =>
      obtain ⟨d', hd'⟩ := hturn d.tick.2
      exact ⟨d', EndsTurn.ends hready hd'⟩
    | hpending d hpending ih =>
      obtain ⟨d', hd'⟩ := ih
      exact ⟨d', hd'.of_woken (n := 1) (poll_helping_pending hpending)⟩

/-- A body that is awaited is polled, turn by turn, until it is through. -/
theorem endsTurn_await {i : Nat} {k : Outcome → Script S.Helper} {o : Outcome}
    {child : Task S.host} {w' : World S.host} {n : Nat} (hchild : children[i]? = some child)
    (hrun : run none n child w = some (o, w'))
    (hk : EndsTurn block returns (k o).turn (children.set i (finished o)) w' r) :
    EndsTurn block returns (Script.await i k).turn children w r := by
  -- on the number of polls the awaited body takes
  induction n generalizing child children w with
  | zero => cases hrun
  | succ n ih =>
    intro woken
    rw [Script.turn]
    obtain ⟨woken', hp⟩ | ⟨child', w₁, hunfinished, hp, hrun⟩ := run_none_cases hrun
    · obtain ⟨m, turned, hm, hr⟩ := hk (woken || woken')
      refine ⟨max n m, turned, ?_, hr⟩
      rw [takeTurn_poll hchild, poll_le (Nat.le_max_left n m) hp]
      exact takeTurn_mono (fun t w r => poll_le (Nat.le_max_right n m)) block _ hm
    · refine ⟨n, ⟨.inl (.awaiting i k), children.set i child', true, w₁⟩, ?_, rfl, ?_⟩
      · rw [takeTurn_poll hchild, hp]
        dsimp only [Option.bind_some]
        rw [hunfinished]
        dsimp only [takeTurn]
        rw [Bool.or_true]
      · -- the body still waits, so the helper rests on it and is woken again
        refine EndsTurn.ends rfl (ih ?_ hrun ?_)
        · exact List.getElem?_set_self (List.getElem?_eq_some_iff.1 hchild).1
        · rwa [List.set_set]

end Turns

mutual

/-- What a task comes to, it comes to at every pace. -/
theorem Comes.endsAnyway : ∀ {t : Task S.host} {w : World S.host} {x : Outcome × World S.host},
    Comes t w x → EndsAnyway t w x
  | _, _, _, .finished => fun d => ⟨d, 2, rfl⟩
  | _, _, _, .done => fun d => ⟨d, 2, rfl⟩
  | _, _, _, .returned h => by
    intro d
    obtain ⟨d', hends⟩ := h.endsAnyway d
    exact ⟨d', hends.of_poll_succ fun n => rfl⟩
  | _, _, _, .answered hq h => by
    intro d
    obtain ⟨d', hends⟩ := h.endsAnyway d
    refine ⟨d', hends.of_poll_succ fun n => poll_ask ?_ n _ _⟩
    rw [World.answer_paced, hq]
    rfl
  | _, _, _, .called h => by
    intro d
    cases hready : d.tick.1 with
    | true =>
      -- what is there at once would be there if it were polled
      obtain ⟨d', hends⟩ := h.endsAnyway d
      refine ⟨d', hends.of_poll fun n p hp => ⟨n, ?_⟩⟩
      cases n with
      | zero => cases hp
      | succ n =>
        rw [poll_calling_ready hready] at hp
        exact (poll_call_ready hready).trans hp
    | false =>
      obtain ⟨d', hends⟩ := h.endsAnyway d.tick.2
      exact ⟨d', hends.of_poll_succ fun n => poll_call_pending hready⟩
  | _, _, _, .completed h => by
    intro d
    induction d using Delays.wait with
    | hready d hready =>
      obtain ⟨d', hends⟩ := h.endsAnyway d.tick.2
      exact ⟨d', hends.of_poll_succ fun n => poll_calling_ready hready⟩
    | hpending d hpending ih =>
      obtain ⟨d', hends⟩ := ih
      exact ⟨d', hends.of_woken (n := 1) (poll_calling_pending hpending)⟩
  | _, _, _, .handed hhanded h => by
    intro d
    obtain ⟨d', hends⟩ := h.endsAnyway d
    exact ⟨d', hends.of_poll_succ fun n => poll_custom_some hhanded⟩
  | _, _, _, .unhandled hhanded h => by
    intro d
    obtain ⟨d', hends⟩ := h.endsAnyway d
    exact ⟨d', hends.of_poll_succ fun n => poll_custom_none hhanded⟩
  | _, _, _, .entered h => by
    intro d
    obtain ⟨d', hends⟩ := h.endsAnyway d
    exact ⟨d', hends.of_poll_succ fun n => rfl⟩
  | _, _, _, .helped hfollows h => by
    exact endsAnyway_helping (hfollows.endsTurn h.endsAnyway)

/-- A script that is followed to its end ends the turn it begins in, or a later one, whatever the
delays. -/
theorem Follows.endsTurn : ∀ {block : CustomBlock} {script : Script S.Helper}
    {children : List (Task S.host)} {w : World S.host} {x : Outcome × World S.host},
    Follows block script children w x → ∀ {returns : Returns} {y : Outcome × World S.host},
      EndsAnyway (running (Action.ofExcept x.1) returns) x.2 y → ∀ d, ∃ d',
        EndsTurn block returns script.turn children (w.paced d) (y.1, y.2.paced d')
  | _, _, _, _, _, .finish, _, _, hy, d => by
    obtain ⟨d', hends⟩ := hy d
    exact ⟨d', fun woken => ⟨0, _, rfl, hends⟩⟩
  | _, _, _, _, _, .rest h, _, _, hy, d => by
    obtain ⟨d', hends⟩ := endsAnyway_helping (h.endsTurn hy) d
    exact ⟨d', fun woken => ⟨0, _, rfl, Bool.or_true _, hends⟩⟩
  | _, _, _, _, _, .write hrun h, _, _, hy, d => by
    obtain ⟨d', hends⟩ := h.endsTurn hy d
    refine ⟨d', fun woken => ?_⟩
    obtain ⟨n, turned, hn, hr⟩ := hends woken
    refine ⟨n, turned, ?_, hr⟩
    rw [Script.turn, takeTurn, World.runNow_paced, hrun]
    exact hn
  | _, _, _, _, _, .halt h, _, _, hy, d => by
    obtain ⟨d', hends⟩ := h.endsTurn hy d
    exact ⟨d', hends⟩
  | _, _, _, _, _, .isHalted h, _, _, hy, d => by
    obtain ⟨d', hends⟩ := h.endsTurn hy d
    exact ⟨d', hends⟩
  | _, _, _, _, _, .start hstart h, _, _, hy, d => by
    obtain ⟨d', hends⟩ := h.endsTurn hy d
    refine ⟨d', fun woken => ?_⟩
    obtain ⟨n, turned, hn, hr⟩ := hends woken
    refine ⟨n, turned, ?_, hr⟩
    rw [Script.turn, takeTurn_start, startBody_paced, hstart]
    exact hn
  | _, _, _, _, _, .absent hnone h, _, _, hy, d => by
    obtain ⟨d', hends⟩ := h.endsTurn hy d
    refine ⟨d', fun woken => ?_⟩
    obtain ⟨n, turned, hn, hr⟩ := hends woken
    refine ⟨n, turned, ?_, hr⟩
    rw [Script.turn, takeTurn, hnone]
    exact hn
  | _, _, _, _, _, .await hchild hcomes h, _, _, hy, d => by
    obtain ⟨d₁, n, hn⟩ := hcomes.endsAnyway d
    obtain ⟨d', hd'⟩ := h.endsTurn hy d₁
    exact ⟨d', endsTurn_await hchild hn hd'⟩

end

end Task

/-! ## Rendering -/

namespace World

variable {S : Services}

/-- The delays have no part in flushing the sink. -/
theorem conclude_paced (o : Outcome) (w : World S.host) (d : Delays) :
    conclude (o, w.paced d) = ((conclude (o, w)).1, (conclude (o, w)).2.paced d) := by
  cases o <;> rfl

/-- What a render comes to at one pace, it comes to at another. -/
theorem render_of_pace {w w' : World S.host} {delays rest : Delays} {fuel : Nat} {scope : Scope}
    {frame : Frame} {o : Outcome}
    (h : (w.paced delays).render fuel none scope frame = some (o, w'.paced rest))
    (delays' : Delays) :
    ∃ fuel rest, (w.paced delays').render fuel none scope frame = some (o, w'.paced rest) := by
  simp only [render_eq, Task.start_paced] at h ⊢
  cases hstart : Task.start scope [] frame (.start 0) w with
  | none =>
    rw [hstart] at h
    cases h
  | some started =>
    obtain ⟨t, w₁⟩ := started
    rw [hstart] at h
    obtain ⟨⟨r, w₂⟩, hrun, hend⟩ := Option.map_eq_some_iff.1 h
    obtain ⟨rest', n, hn⟩ := (Task.comes_of_run (d := rest) hrun).endsAnyway delays'
    have hend' : conclude (r, w₂.paced rest') = (o, w'.paced rest') := by
      rw [conclude_paced, hend]
      rfl
    exact ⟨n, rest', Option.map_eq_some_iff.2 ⟨_, hn, hend'⟩⟩

/-- What a render comes to does not depend on how long it waits for the results of calls and for
what helpers await: neither its outcome, nor what the sink and the functions have been asked for
and in which order, nor the state they are in, nor the fragments that are declared, nor whether it
comes to an end at all. -/
theorem render_at_any_pace (S : Services) (w : World S.host) (delays delays' : Delays)
    (scope : Scope) (frame : Frame) (o : Outcome) (w' : World S.host) :
    (∃ fuel rest, (w.paced delays).render fuel none scope frame = some (o, w'.paced rest)) ↔
      ∃ fuel rest, (w.paced delays').render fuel none scope frame = some (o, w'.paced rest) :=
  ⟨fun ⟨_, _, h⟩ => render_of_pace h delays', fun ⟨_, _, h⟩ => render_of_pace h delays⟩

end World

/-! ## A slow helper -/

/-- A sink that keeps texts, functions that give a text, and helpers that start a body, wait, and
await the body between two texts of their own. -/
def Services.bracketing : Services where
  State := List String
  Future := Unit
  Helper := Option Frame
  write text written := (.ok (), written ++ [text])
  flush written := (.ok (), written)
  call _ _ _ written := ((), written)
  result _ written := (.ok (.text "b"), written)
  help _ frame _ written := (some (some frame), written)
  script h written := match h with
    | some frame => (.start 0 frame fun _ => .rest none, written)
    | none => (.write "(" fun _ => .await 0 fun r => .write ")" fun _ => .finish r, written)

/-- A block whose body writes a text and the result of a call. -/
def Scope.bracketed : Scope :=
  .mk [.custom ⟨none, [], [], none⟩ "h"
    [.mk [.text "a", .output ⟨none, [⟨none, "f", [], none, none⟩], [], none⟩ [.slot 0]]]]

/-- The start of the body does not wait; the rest of it does, and so does the helper. -/
example : ((World.start (H := Services.bracketing.host) ⟨[], [], fun i => 2 * i + 1⟩ .empty
    .builtin false).render 40 none .bracketed
      (.ofData (.object (.given 0) (.ofList [("h", .function 1), ("f", .function 2)])))).map
        (·.2.host.own) = some ["a", "(", "b", ")"] := by
  cbv

end Stencil
