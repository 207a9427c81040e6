import Stencil.Proofs.Task.Correspond
import Stencil.Proofs.Task.Linked

/-!
# Stencil.Proofs.Task.Similar — renders that do the same

Tasks that go on in the same way (`Task.Similar`) come to the same when they are polled, perhaps in
another number of steps, since either of them may take steps that the other one does not
(`Task.poll_similar`). So do renders of scopes that stand for one another, in worlds that correspond
(`World.render_similar`).

A link of two renders takes them through a poll step by step (`Link`), and the one may not get ahead
of the other. Here it may: an inclusion looks a template up where the scope that stands in its place
asks for nothing. So a poll is followed on one side, and what it comes to is to be found on the other
after some number of steps (`Reaches`).
-/

namespace Stencil

/-! ## Tasks that correspond -/

namespace Returns

/-- The action with what is to be done with its outcome. -/
def resume : Returns → Action Unit → Action Unit
  | [], action => action
  | k :: returns, action => resume returns (Program.bind action k)

/-- What follows a request is resumed after its answer. -/
theorem resume_ask (returns : Returns) (q : Request) (k : q.Answer → Action Unit) :
    returns.resume (Program.ask q k) = Program.ask q fun a => returns.resume (k a) := by
  induction returns generalizing k with
  | nil => rfl
  | cons f returns ih => exact ih _

/-- What asks for something, with nothing that is done to be dealt with before, is an action that
asks for it. -/
theorem exists_of_resume_eq_ask {returns : Returns} {action : Action Unit} {q : Request}
    {k : q.Answer → Action Unit} (h : returns.resume action = Program.ask q k)
    (hsettled : (∃ q k, action = Program.ask q k) ∨ returns = []) :
    ∃ k' : q.Answer → Action Unit, action = Program.ask q k' ∧
      ∀ a, returns.resume (k' a) = k a := by
  obtain ⟨q', k', rfl⟩ | rfl := hsettled
  · rw [resume_ask] at h
    cases h
    exact ⟨k', rfl, fun _ => rfl⟩
  · exact ⟨k, h, fun _ => rfl⟩

/-- What follows a sequence is resumed after its second part. -/
theorem resume_bind (returns : Returns) (action : Program Outcome) (k : Outcome → Action Unit) :
    returns.resume (Program.bind action k) =
      Program.bind action fun o => returns.resume (k o) := by
  induction returns generalizing k with
  | nil => rfl
  | cons f returns ih =>
    show resume returns (Program.bind (Program.bind action k) f) = _
    rw [Program.bind_assoc]
    exact ih _

/-- What is done next with two outcomes that are the same. -/
theorem similar_cons [Evaluator] {K : Kinship} {returns returns' : Returns}
    {x x' : Program Outcome} {k k' : Outcome → Action Unit}
    (hx : Program.Similar K (Matches Eq) x x')
    (hk : ∀ o o', Matches Eq o o' → Program.Similar K (Matches Eq) (returns.resume (k o))
      (returns'.resume (k' o'))) :
    Program.Similar K (Matches Eq) (Returns.resume (k :: returns) x)
      (Returns.resume (k' :: returns') x') := by
  show Program.Similar K (Matches Eq) (returns.resume (Program.bind x k))
    (returns'.resume (Program.bind x' k'))
  rw [resume_bind, resume_bind]
  exact hx.bind hk

end Returns

section Tasks

variable {H : Host} [Evaluator] (M : Correspondence H)

/-- Whether two tasks go on in the same way. -/
inductive Task.Similar : Task H → Task H → Prop
  | finished {o o' : Outcome} (h : Matches Eq o o') : Similar (.finished o) (.finished o')
  | running {action action' : Action Unit} {returns returns' : Returns}
      (h : Program.Similar M.toKinship (Matches Eq) (returns.resume action)
        (returns'.resume action')) :
      Similar (.running action returns) (.running action' returns')
  | calling {d d' : H.Pending} {k k' : Except RenderError Value → Action Unit}
      {returns returns' : Returns} (hd : M.pending d d')
      (hk : ∀ r r', Matches Eq r r' → Program.Similar M.toKinship (Matches Eq)
        (returns.resume (k r)) (returns'.resume (k' r'))) :
      Similar (.calling d k returns) (.calling d' k' returns')
  | helping {r : Reach} {h h' : H.Helper} {block block' : CustomBlock}
      {children children' : List (Task H)} {returns returns' : Returns} (hh : M.helper r h h')
      (hblock : M.Blocks r block block') (hchildren : List.Forall₂ Similar children children')
      (hk : ∀ o o', Matches Eq o o' → Program.Similar M.toKinship (Matches Eq)
        (returns.resume (Action.ofExcept o)) (returns'.resume (Action.ofExcept o'))) :
      Similar (.helping h block children returns) (.helping h' block' children' returns')

/-- Whether two polls have led to the same. -/
structure Polled.Similar (p p' : Polled H) : Prop where
  task : p.task.Similar M p'.task
  woken : p.woken = p'.woken
  world : M.Worlds p.world p'.world

/-- Whether two turns have led to the same. -/
structure Turned.Similar (r : Reach) (t t' : Turned H) : Prop where
  helper : Sum.LiftRel (M.helper r) (Matches Eq) t.helper t'.helper
  children : List.Forall₂ (Task.Similar M) t.children t'.children
  woken : t.woken = t'.woken
  world : M.Worlds t.world t'.world

variable {M}

/-- Similar tasks finish together, with outcomes that match. -/
theorem Task.Similar.outcome? {t t' : Task H} (h : t.Similar M t') :
    Option.Rel (Matches Eq) t.outcome? t'.outcome? := by
  cases h with
  | finished h => exact .some h
  | running | calling | helping => exact .none

/-! ## One render takes steps that the other one does not -/

/-- What two programs that are similar do next, when the right one is not ahead. -/
inductive Program.Meets (K : Kinship) {α β : Type} (R : α → β → Prop) :
    Program α → Program β → Prop
  | done {a : α} {b : β} (h : R a b) : Meets K R (.done a) (.done b)
  | ask {q q' : Request} {A : q.Answer → q'.Answer → Prop} {k : q.Answer → Program α}
      {k' : q'.Answer → Program β} (h : K.Asks q q' A)
      (hk : ∀ a a', A a a' → Similar K R (k a) (k' a')) : Meets K R (.ask q k) (.ask q' k')
  | templateLeft {name : String} {k : Except RenderError Scope → Program α} {p : Program β}
      (h : ∃ s, K.left name s) (hk : ∀ s, K.left name s → Similar K R (k (.ok s)) p) :
      Meets K R (.ask (.template name) k) p
  | enterLeft {s : Scope} {channel : Channel} {f : Frame} {site : Site}
      {k : Except RenderError Unit → Program α} {p : Program β}
      (h : Similar K R (Program.bind (s.run channel f site) k) p) :
      Meets K R (.ask (.enter s channel f site) k) p

namespace Task

/-- A task that is polled first leaves behind what is done. -/
theorem settle (action : Action Unit) (returns : Returns) (w : World H) :
    ∃ (action' : Action Unit) (returns' : Returns) (j : Nat),
      (∀ m, poll (m + j) (running action returns) w = poll m (running action' returns') w) ∧
        returns'.resume action' = returns.resume action ∧
        ((∃ q k, action' = Program.ask q k) ∨ returns' = []) := by
  induction returns generalizing action with
  | nil => exact ⟨action, [], 0, fun m => rfl, rfl, .inr rfl⟩
  | cons k returns ih =>
    cases action with
    | ask q k' => exact ⟨_, _, 0, fun m => rfl, rfl, .inl ⟨q, k', rfl⟩⟩
    | done o =>
      obtain ⟨action', returns', j, hpoll, hresume, hsettled⟩ := ih (k o)
      exact ⟨action', returns', j + 1, hpoll, hresume, hsettled⟩

/-- Whether a task that goes on in this world comes to where it is not ahead of a program any more,
while nothing happens in the world of that program. -/
def CatchesUp (M : Correspondence H) (p : Action Unit) (w : World H) (t : Task H) (w' : World H) :
    Prop :=
  ∃ (action : Action Unit) (returns : Returns) (w'' : World H) (j : Nat),
    (∀ m, poll (m + j) t w' = poll m (running action returns) w'') ∧ M.Worlds w w'' ∧
      Program.Meets M.toKinship (Matches Eq) p (returns.resume action) ∧
      ((∃ q k, action = Program.ask q k) ∨ returns = [])

/-- A task that catches up after a step catches up. -/
theorem CatchesUp.after {p : Action Unit} {t t' : Task H} {w w' w'' : World H} {j : Nat}
    (hpoll : ∀ m, poll (m + j) t w' = poll m t' w'') (h : CatchesUp M p w t' w'') :
    CatchesUp M p w t w' := by
  obtain ⟨action, returns, w₁, i, hthen, hrest⟩ := h
  refine ⟨action, returns, w₁, i + j, fun m => ?_, hrest⟩
  rw [← Nat.add_assoc, hpoll, hthen]

/-- A program that meets another catches up with a task that runs it. -/
theorem CatchesUp.of_meets {p : Action Unit} {action : Action Unit} {returns : Returns}
    {w w' : World H} (hw : M.Worlds w w')
    (h : Program.Meets M.toKinship (Matches Eq) p (returns.resume action)) :
    CatchesUp M p w (running action returns) w' := by
  obtain ⟨action', returns', j, hpoll, hresume, hsettled⟩ := settle action returns w'
  rw [← hresume] at h
  exact ⟨action', returns', w', j, hpoll, hw, h, hsettled⟩

/-- The right one of two tasks can go on until it is not ahead any more. -/
theorem catchesUp (hM : M.Lawful) {p p' : Action Unit}
    (h : Program.Similar M.toKinship (Matches Eq) p p') {action : Action Unit} {returns : Returns}
    (hp' : returns.resume action = p') {w w' : World H} (hw : M.Worlds w w') :
    CatchesUp M p w (running action returns) w' := by
  -- each step that only the right program takes is one of the task; then it has caught up
  induction h generalizing action returns w' with
  | done h => exact .of_meets hw (hp' ▸ .done h)
  | ask h hk => exact .of_meets hw (hp' ▸ .ask h hk)
  | templateLeft h hk => exact .of_meets hw (hp' ▸ .templateLeft h hk)
  | enterLeft h => exact .of_meets hw (hp' ▸ .enterLeft h)
  | @templateRight name p k h hk ih =>
    obtain ⟨action', returns', j, hpoll, hresume, hsettled⟩ := settle action returns w'
    obtain ⟨k', rfl, hk'⟩ := Returns.exists_of_resume_eq_ask (hresume.trans hp') hsettled
    obtain ⟨s, w₁', hs, hanswer, hw₁⟩ := hM.right_answer hw h
    have hstep : ∀ m, poll (m + 1) (running (.ask (.template name) k') returns') w' =
        poll m (running (k' (.ok s)) returns') w₁' := fun m => poll_ask hanswer m k' returns'
    exact .after hpoll (.after hstep (ih s hs (hk' (.ok s)) hw₁))
  | @enterRight s channel f site p k h ih =>
    obtain ⟨action', returns', j, hpoll, hresume, hsettled⟩ := settle action returns w'
    obtain ⟨k', rfl, hk'⟩ := Returns.exists_of_resume_eq_ask (hresume.trans hp') hsettled
    have hstep : ∀ m, poll (m + 1) (running (.ask (.enter s channel f site) k') returns') w' =
        poll m (running (s.run channel f site) (k' :: returns')) w' := fun m => rfl
    have hafter : Returns.resume (k' :: returns') (s.run channel f site) =
        Program.bind (s.run channel f site) k :=
      (Returns.resume_bind returns' _ _).trans (congrArg (Program.bind _) (funext hk'))
    exact .after hpoll (.after hstep (ih hafter hw))

end Task

/-! ## Starting -/

omit [Evaluator] in
/-- Running a request that is answered at once. -/
theorem World.runNow_ask {α : Type} {q : Request} {w w' : World H} {a : q.Answer}
    (h : w.answer? q = some (a, w')) (k : q.Answer → Program α) :
    w.runNow (.ask q k) = w'.runNow (k a) := by
  rw [runNow, h]

/-- Programs that do not wait come to the same. -/
theorem World.runNow_similar (hM : M.Lawful) {α β : Type} {R : α → β → Prop} {p : Program α}
    {p' : Program β} (h : Program.Similar M.toKinship R p p') (hp' : p'.Instant) {w w' : World H}
    (hw : M.Worlds w w') {a : α} {w₁ : World H} (hrun : w.runNow p = some (a, w₁)) :
    ∃ b w₁', w'.runNow p' = some (b, w₁') ∧ R a b ∧ M.Worlds w₁ w₁' := by
  -- on the similarity of the two programs
  induction h generalizing w w' with
  | done h =>
    cases hrun
    exact ⟨_, w', rfl, h, hw⟩
  | @ask q q' A k k' hq _ ih =>
    rw [runNow] at hrun
    cases ha : w.answer? q with
    | none =>
      rw [ha] at hrun
      cases hrun
    | some x =>
      obtain ⟨x, w₂⟩ := x
      rw [ha] at hrun
      obtain ⟨x', w₂', ha', hx, hw₂⟩ := hw.answer hM hq ha
      rw [runNow_ask ha']
      exact ih x x' hx (hp'.2 x' trivial) hw₂ hrun
  -- only this side looks the template up, and the other catches up with what it holds
  | @templateLeft name k p' h _ ih =>
    obtain ⟨s, w₂, hs, hanswer, hw₂⟩ := hM.left_answer hw h
    exact ih s hs hp' hw₂ ((runNow_ask hanswer k).symm.trans hrun)
  | @templateRight name p k h _ ih =>
    obtain ⟨s, w₂', hs, hanswer, hw₂⟩ := hM.right_answer hw h
    obtain ⟨b, w₁', hrun', hrest⟩ := ih s hs (hp'.2 (.ok s) trivial) hw₂ hrun
    exact ⟨b, w₁', (runNow_ask hanswer k).trans hrun', hrest⟩
  | enterLeft => cases hrun
  | enterRight => cases hp'.1

namespace Task

variable {r : Reach}

/-- What is left of scopes that stand for one another is nothing for both, or a rest of both. -/
theorem started_similar (hM : M.Lawful) {s s' : Scope} {f f' : Frame} (channel : Channel)
    (site : Site) (hs : M.scopes r s s') (hf : M.frames r f f') {o o' : Outcome}
    (ho : Matches Eq o o') :
    (started (H := H) s channel f site o).Similar M (started s' channel f' site o') := by
  obtain ⟨hempty, hlater⟩ := hM.later channel site hs hf
  cases ho with
  | error he => exact .finished (.error he)
  | ok =>
    unfold started
    cases hs' : s.later with
    | nil =>
      rw [hempty.1 hs']
      exact .finished (.ok rfl)
    | cons step steps =>
      cases hs'' : s'.later with
      | nil =>
        rw [hempty.2 hs''] at hs'
        cases hs'
      | cons step' steps' =>
        rw [hs', hs''] at hlater
        exact .running hlater

/-- Scopes that stand for one another are started alike. -/
theorem start_similar (hM : M.Lawful) {s s' : Scope} {f f' : Frame} (channel : Channel)
    (site : Site) (hs : M.scopes r s s') (hf : M.frames r f f') {w w' : World H}
    (hw : M.Worlds w w') {t : Task H} {w₁ : World H}
    (hstart : start s channel f site w = some (t, w₁)) :
    ∃ t' w₁', start s' channel f' site w' = some (t', w₁') ∧ t.Similar M t' ∧
      M.Worlds w₁ w₁' := by
  have hinstant : Program.Instant (runSteps channel f' site 0 s'.now) := by
    refine instant_runSteps _ ?_ channel f' site 0
    rw [Scope.stepsImmediate_eq_all]
    exact List.all_takeWhile
  -- what is run at once cannot wait, so the second start comes to something too
  rw [start_eq] at hstart
  obtain ⟨⟨o, w₂⟩, hnow, hx⟩ := Option.map_eq_some_iff.1 hstart
  obtain ⟨o', w₂', hnow', ho, hw₂⟩ :=
    World.runNow_similar hM (hM.now channel site hs hf) hinstant hw hnow
  cases hx
  refine ⟨started s' channel f' site o', w₂', ?_, started_similar hM channel site hs hf ho, hw₂⟩
  rw [start_eq, hnow']
  rfl

/-! ## Polling -/

/-- The result of a block is written alike on both sides. -/
theorem similar_writeResult {f : Nat} {x y : CustomBlock} (h : M.Blocks r x y) :
    Program.Similar M.toKinship (Matches Eq) (writeResult f x) (writeResult f y) := by
  refine Action.similar_bind (.ask (.call f [] h.frame) fun _ _ h => .done h) ?_
  rintro v _ rfl
  rw [h.channel]
  exact Channel.similar_write _ _ _

/-- Bodies that stand for one another are started alike. -/
theorem startBody_similar (hM : M.Lawful) {block block' : CustomBlock}
    (hblock : M.Blocks r block block') (i : Nat) {f f' : Frame} (hf : M.frames r f f')
    {children children' : List (Task H)}
    (hchildren : List.Forall₂ (Task.Similar M) children children')
    {w w' : World H} (hw : M.Worlds w w') {t : Task H} {w₁ : World H}
    (hstart : startBody block i f children w = some (t, w₁)) :
    ∃ t' w₁', startBody block' i f' children' w' = some (t', w₁') ∧ t.Similar M t' ∧
      M.Worlds w₁ w₁' := by
  have hbody := forall₂_getElem? hblock.bodies i
  unfold startBody at hstart ⊢
  generalize block.bodies[i]? = body at hbody hstart
  generalize block'.bodies[i]? = body' at hbody
  cases hbody with
  | none =>
    cases hstart
    exact ⟨_, _, rfl, .finished (.ok rfl), hw⟩
  | some hbody =>
    rw [← hblock.channel, ← hblock.site, ← hchildren.length_eq]
    exact start_similar hM _ _ hbody hf hw hstart

/-- Whether polling the task comes to the same as this, with some number of steps. -/
def Reaches (M : Correspondence H) (p : Polled H) (t : Task H) (w : World H) : Prop :=
  ∃ m p', poll m t w = some p' ∧ p.Similar M p'

/-- What is reached after a step is reached. -/
theorem Reaches.after {p : Polled H} {t t' : Task H} {w w' : World H} {j : Nat}
    (hpoll : ∀ m, poll (m + j) t w = poll m t' w') (h : Reaches M p t' w') : Reaches M p t w := by
  obtain ⟨m, p', hp', hsame⟩ := h
  exact ⟨m + j, p', (hpoll m).trans hp', hsame⟩

/-- Whether every task that goes on in the same way comes to the same as this. -/
def Matched (M : Correspondence H) (t : Task H) (w : World H) (p : Polled H) : Prop :=
  ∀ (t' : Task H) (w' : World H), t.Similar M t' → M.Worlds w w' → Reaches M p t' w'

/-- A helper does the same in its turn, with enough steps for the bodies that it polls. -/
theorem takeTurn_similar (hM : M.Lawful) {n : Nat}
    (hpoll : ∀ (t : Task H) (w : World H) (p : Polled H), poll n t w = some p → Matched M t w p)
    {block block' : CustomBlock} (hblock : M.Blocks r block block') {turn turn' : Turn H.Helper}
    (hturn : turn.Similar M.toLikeness M.frames r turn') {children children' : List (Task H)}
    (hchildren : List.Forall₂ (Task.Similar M) children children') (woken : Bool)
    {w w' : World H} (hw : M.Worlds w w') {x : Turned H}
    (hx : takeTurn (poll n) block turn children woken w = some x) :
    ∃ m x', takeTurn (poll m) block' turn' children' woken w' = some x' ∧ x.Similar M r x' := by
  induction hturn generalizing children children' woken w w' with
  | finish h =>
    cases hx
    exact ⟨0, _, rfl, .inr h, hchildren, rfl, hw⟩
  | wait woken' h =>
    cases hx
    exact ⟨0, _, rfl, .inl h, hchildren, rfl, hw⟩
  | write text _ ih =>
    have hinstant : Program.Instant (block'.channel.write text) :=
      Channel.asks_write (fun _ => Request.isInstant_of_isPlain) _ text
    unfold takeTurn at hx
    cases hrun : w.runNow (block.channel.write text) with
    | none =>
      rw [hrun] at hx
      cases hx
    | some y =>
      obtain ⟨o, w₂⟩ := y
      have hsimilar : Program.Similar M.toKinship (Matches Eq) (block.channel.write text)
          (block'.channel.write text) := by
        rw [hblock.channel]
        exact Channel.similar_write _ _ text
      obtain ⟨o', w₂', hrun', ho, hw₂⟩ := World.runNow_similar hM hsimilar hinstant hw hrun
      rw [hrun] at hx
      obtain ⟨m, x', hx', hsame⟩ := ih o o' ho hchildren woken hw₂ hx
      refine ⟨m, x', ?_, hsame⟩
      unfold takeTurn
      rw [hrun']
      exact hx'
  | halt _ ih => exact ih hchildren woken hw.halt hx
  | isHalted _ ih =>
    obtain ⟨m, x', hx', hsame⟩ := ih w.halted hchildren woken hw hx
    refine ⟨m, x', ?_, hsame⟩
    unfold takeTurn
    rw [← hw.halted]
    exact hx'
  | @start f f' k k' i hf _ ih =>
    rw [takeTurn_start] at hx
    obtain ⟨⟨t, w₂⟩, hstart, hx⟩ := Option.bind_eq_some_iff.1 hx
    obtain ⟨t', w₂', hstart', ht, hw₂⟩ := startBody_similar hM hblock i hf hchildren hw hstart
    have happend := List.rel_append hchildren (.cons ht .nil)
    obtain ⟨m, x', hx', hsame⟩ := ih children.length happend woken hw₂ hx
    refine ⟨m, x', ?_, hsame⟩
    rw [takeTurn_start, hstart', ← hchildren.length_eq]
    exact hx'
  | @poll k k' i _ ih =>
    have hchild := forall₂_getElem? hchildren i
    cases hi : children[i]? with
    | none =>
      rw [hi] at hchild
      cases hi' : children'[i]? with
      | some child' =>
        rw [hi'] at hchild
        cases hchild
      | none =>
        unfold takeTurn at hx ⊢
        rw [hi] at hx
        rw [hi']
        exact ih _ _ (.some (.ok rfl)) hchildren woken hw hx
    | some child =>
      rw [hi] at hchild
      cases hi' : children'[i]? with
      | none =>
        rw [hi'] at hchild
        cases hchild
      | some child' =>
        rw [hi'] at hchild
        obtain ⟨hchild⟩ := hchild
        rw [takeTurn_poll hi] at hx
        obtain ⟨p, hp, hx⟩ := Option.bind_eq_some_iff.1 hx
        obtain ⟨m₁, p', hp', hsame⟩ := hpoll child w p hp child' w' hchild hw
        have hset := forall₂_set hchildren i hsame.task
        obtain ⟨m₂, x', hx', hx''⟩ :=
          ih _ _ hsame.task.outcome? hset (woken || p.woken) hsame.world hx
        -- both parts with as many steps as are enough for either
        refine ⟨max m₁ m₂, x', ?_, hx''⟩
        rw [takeTurn_poll hi', poll_le (Nat.le_max_left m₁ m₂) hp']
        rw [hsame.woken] at hx'
        exact takeTurn_mono (fun _ _ _ => poll_le (Nat.le_max_right m₁ m₂)) block' _ hx'

/-- Requests that are the same lead to the same, if everything does with a step less. -/
theorem ask_similar (hM : M.Lawful) {n : Nat}
    (ih : ∀ {t : Task H} {w : World H} {p : Polled H}, poll n t w = some p → Matched M t w p)
    {q q' : Request} {A : q.Answer → q'.Answer → Prop} (hq : M.Asks q q' A)
    {k : q.Answer → Action Unit} {k' : q'.Answer → Action Unit} {returns returns' : Returns}
    (hk : ∀ a a', A a a' → Program.Similar M.toKinship (Matches Eq) (returns.resume (k a))
      (returns'.resume (k' a'))) {w w' : World H} (hw : M.Worlds w w') {p : Polled H}
    (hp : poll (n + 1) (running (.ask q k) returns) w = some p) :
    Reaches M p (running (.ask q' k') returns') w' := by
  -- a request that is answered at once takes a step of the task; any other is one for the host
  by_cases hinstant : q.isInstant = true
  · obtain ⟨a, w₁, ha⟩ := World.exists_answer hinstant w
    obtain ⟨a', w₁', ha', haa, hw₁⟩ := hw.answer hM hq ha
    rw [poll_ask ha] at hp
    exact .after (fun m => poll_ask ha' m k' returns') (ih hp _ _ (.running (hk a a' haa)) hw₁)
  cases hq with
  | write | isHalted | halt | modify | declare | resolve | template => exact absurd rfl hinstant
  | @call r f f' i args hf =>
    obtain ⟨hresult, hstate⟩ := hM.host.call i args hf hw.host
    rw [poll] at hp
    generalize hleft : H.call i f args w.host = x at hp hresult hstate
    generalize hright : H.call i f' args w'.host = x' at hresult hstate
    obtain ⟨x, s⟩ := x
    obtain ⟨x', s'⟩ := x'
    cases hresult with
    | @ready y y' hy =>
      have hstep : ∀ m, poll (m + 1) (running (.ask (.call i f' args) k') returns') w' =
          poll m (running (k' y') returns') { w' with host := s' } := by
        intro m
        rw [poll, hright]
      exact .after hstep (ih hp _ _ (.running (hk _ _ hy)) (hw.with_host hstate))
    | @pending e e' woken he =>
      have hstep : ∀ m, poll (m + 1) (running (.ask (.call i f' args) k') returns') w' =
          poll m (calling e' k' returns') { w' with host := s' } := by
        intro m
        rw [poll, hright]
      exact .after hstep (ih hp _ _ (.calling he hk) (hw.with_host hstate))
  | @custom r x y i hblock =>
    have hbodies := hblock.bodies.length_eq
    obtain ⟨hhelper, hstate⟩ := hM.host.help i y.bodies.length hblock.frame hw.host
    rw [poll, hbodies] at hp
    generalize hleft : H.help i x.frame y.bodies.length w.host = z at hp hhelper hstate
    generalize hright : H.help i y.frame y.bodies.length w'.host = z' at hhelper hstate
    obtain ⟨z, s⟩ := z
    obtain ⟨z', s'⟩ := z'
    cases hhelper with
    | @some h h' hh =>
      have hstep : ∀ m, poll (m + 1) (running (.ask (.custom i y) k') returns') w' =
          poll m (helping h' y [] (k' :: returns')) { w' with host := s' } := by
        intro m
        rw [poll, hright]
      exact .after hstep (ih hp _ _ (.helping hh hblock .nil hk) (hw.with_host hstate))
    | none =>
      have hstep : ∀ m, poll (m + 1) (running (.ask (.custom i y) k') returns') w' =
          poll m (running (writeResult i y) (k' :: returns')) { w' with host := s' } := by
        intro m
        rw [poll, hright]
      have hthen : Program.Similar M.toKinship (Matches Eq)
          (Returns.resume (k :: returns) (writeResult i x))
          (Returns.resume (k' :: returns') (writeResult i y)) :=
        Returns.similar_cons (similar_writeResult hblock) hk
      exact .after hstep (ih hp _ _ (.running hthen) (hw.with_host hstate))
  | @enter r s s' f f' channel site hs hf =>
    have hstep : ∀ m, poll (m + 1) (running (.ask (.enter s' channel f' site) k') returns') w' =
        poll m (running (s'.run channel f' site) (k' :: returns')) w' := fun m => rfl
    have hthen : Program.Similar M.toKinship (Matches Eq)
        (Returns.resume (k :: returns) (s.run channel f site))
        (Returns.resume (k' :: returns') (s'.run channel f' site)) :=
      Returns.similar_cons (hM.run channel site hs hf) hk
    exact .after hstep (ih hp _ _ (.running hthen) hw)

/-- So it is with a result that is still to come. -/
theorem calling_similar (hM : M.Lawful) {n : Nat}
    (ih : ∀ {t : Task H} {w : World H} {p : Polled H}, poll n t w = some p → Matched M t w p)
    {d d' : H.Pending} (hd : M.pending d d') {k k' : Except RenderError Value → Action Unit}
    {returns returns' : Returns}
    (hk : ∀ r r', Matches Eq r r' → Program.Similar M.toKinship (Matches Eq)
      (returns.resume (k r)) (returns'.resume (k' r'))) {w w' : World H} (hw : M.Worlds w w')
    {p : Polled H} (hp : poll (n + 1) (calling d k returns) w = some p) :
    Reaches M p (calling d' k' returns') w' := by
  obtain ⟨hresult, hstate⟩ := hM.host.poll hd hw.host
  rw [poll] at hp
  generalize hleft : H.poll d w.host = x at hp hresult hstate
  generalize hright : H.poll d' w'.host = x' at hresult hstate
  obtain ⟨x, s⟩ := x
  obtain ⟨x', s'⟩ := x'
  -- the two calls are ready together
  cases hresult with
  | @ready y y' hy =>
    have hstep : ∀ m, poll (m + 1) (calling d' k' returns') w' =
        poll m (running (k' y') returns') { w' with host := s' } := by
      intro m
      rw [poll, hright]
    exact .after hstep (ih hp _ _ (.running (hk _ _ hy)) (hw.with_host hstate))
  | @pending e e' woken he =>
    cases hp
    refine ⟨1, ⟨calling e' k' returns', woken, { w' with host := s' }⟩, ?_, .calling he hk, rfl,
      hw.with_host hstate⟩
    rw [poll, hright]

/-- So it is with a helper that takes its turn. -/
theorem helping_similar (hM : M.Lawful) {n : Nat}
    (ih : ∀ {t : Task H} {w : World H} {p : Polled H}, poll n t w = some p → Matched M t w p)
    {h h' : H.Helper} (hh : M.helper r h h') {block block' : CustomBlock}
    (hblock : M.Blocks r block block') {children children' : List (Task H)}
    (hchildren : List.Forall₂ (Task.Similar M) children children') {returns returns' : Returns}
    (hk : ∀ o o', Matches Eq o o' → Program.Similar M.toKinship (Matches Eq)
      (returns.resume (Action.ofExcept o)) (returns'.resume (Action.ofExcept o')))
    {w w' : World H} (hw : M.Worlds w w') {p : Polled H}
    (hp : poll (n + 1) (helping h block children returns) w = some p) :
    Reaches M p (helping h' block' children' returns') w' := by
  obtain ⟨hturn, hstate⟩ := hM.host.turn hh hw.host
  rw [poll] at hp
  generalize hleft : H.turn h w.host = x at hp hturn hstate
  generalize hright : H.turn h' w'.host = x' at hturn hstate
  obtain ⟨turn, s⟩ := x
  obtain ⟨turn', s'⟩ := x'
  dsimp only at hp hturn hstate
  cases hx : takeTurn (poll n) block turn children false { w with host := s } with
  | none =>
    rw [hx] at hp
    cases hp
  | some x =>
    obtain ⟨m, x', hx', hsame⟩ := takeTurn_similar hM (fun _ _ _ => ih) hblock hturn hchildren
      false (hw.with_host hstate) hx
    rw [hx] at hp
    obtain ⟨helper, children₁, woken, w₁⟩ := x
    obtain ⟨helper', children₁', woken', w₁'⟩ := x'
    obtain ⟨hhelper, hchildren₁, rfl, hw₁⟩ := hsame
    cases hhelper with
    | inl hhelper =>
      cases hp
      refine ⟨m + 1, ⟨helping _ block' children₁' returns', woken, w₁'⟩, ?_,
        .helping hhelper hblock hchildren₁ hk, rfl, hw₁⟩
      rw [poll, hright]
      dsimp only
      rw [hx']
    | @inr o o' ho =>
      obtain ⟨i, p', hp', hsame⟩ := ih hp _ _ (.running (hk o o' ho)) hw₁
      -- as many steps as are enough for the turn and for what comes behind it
      refine ⟨max m i + 1, p', ?_, hsame⟩
      have hturn' := takeTurn_mono
        (fun (t : Task H) w r => poll_le (t := t) (w := w) (r := r) (Nat.le_max_left m i))
        block' turn' hx'
      rw [poll, hright]
      dsimp only
      rw [hturn']
      exact poll_le (Nat.le_max_right m i) hp'

/-- So it is with an action that has come to its end. -/
theorem done_similar {n : Nat}
    (ih : ∀ {t : Task H} {w : World H} {p : Polled H}, poll n t w = some p → Matched M t w p)
    {o : Outcome} {returns : Returns} {t' : Task H} {w w' : World H} (hw : M.Worlds w w')
    (ht : (running (.done o) returns).Similar M t')
    (hcatch : CatchesUp M (returns.resume (.done o)) w t' w') {p : Polled H}
    (hp : poll (n + 1) (running (.done o) returns) w = some p) : Reaches M p t' w' := by
  cases returns with
  | cons k returns =>
    cases ht with
    | running h => exact ih hp _ _ (.running h) hw
  | nil =>
    cases hp
    obtain ⟨action₁, returns₁, w₁, j, hpoll, hw₁, hmeets, hsettled⟩ := hcatch
    obtain ⟨q, k, rfl⟩ | rfl := hsettled
    · rw [Returns.resume_ask] at hmeets
      cases hmeets
    · cases hmeets with
      | done ho => exact .after hpoll ⟨1, _, rfl, .finished ho, rfl, hw₁⟩

/-- A poll of a task comes to the same as a poll of one that goes on in the same way. -/
theorem poll_similar (hM : M.Lawful) (n : Nat) {t : Task H} {w : World H} {p : Polled H}
    (hp : poll n t w = some p) : Matched M t w p := by
  induction n generalizing t w p with
  | zero => cases hp
  | succ n ih =>
    intro t' w' ht hw
    have hsame := ht
    cases ht with
    | finished h =>
      cases hp
      exact ⟨1, _, rfl, .finished h, rfl, hw⟩
    | calling hd hk => exact calling_similar hM ih hd hk hw hp
    | helping hh hblock hchildren hk => exact helping_similar hM ih hh hblock hchildren hk hw hp
    | @running action action' returns returns' h =>
      have hcatch := catchesUp hM h rfl hw
      cases action with
      | done o => exact done_similar ih hw hsame hcatch hp
      | ask q k =>
        obtain ⟨action₁, returns₁, w₁, j, hpoll, hw₁, hmeets, hsettled⟩ := hcatch
        refine .after hpoll ?_
        rw [Returns.resume_ask] at hmeets
        generalize hright : returns₁.resume action₁ = right at hmeets
        cases hmeets with
        | @ask _ q' A _ k' hq hk =>
          obtain ⟨k₁, rfl, hk₁⟩ := Returns.exists_of_resume_eq_ask hright hsettled
          refine ask_similar hM ih hq (fun a a' haa => ?_) hw₁ hp
          rw [hk₁ a']
          exact hk a a' haa
        | @templateLeft name _ _ hleft hk =>
          -- only the left one asks for the template
          obtain ⟨s, w₂, hs, hanswer, hw₂⟩ := hM.left_answer hw₁ hleft
          rw [poll_ask hanswer] at hp
          exact ih hp _ _ (.running (hright ▸ hk s hs)) hw₂
        | @enterLeft s channel f site _ _ hthen =>
          have hcons : Returns.resume (k :: returns) (s.run channel f site) =
              Program.bind (s.run channel f site) fun o => returns.resume (k o) :=
            Returns.resume_bind returns _ _
          have hentered : Program.Similar M.toKinship (Matches Eq)
              (Returns.resume (k :: returns) (s.run channel f site))
              (returns₁.resume action₁) := by
            rw [hcons, hright]
            exact hthen
          exact ih hp _ _ (.running hentered) hw₁

/-- A run of a task comes to the same as a run of one that goes on in the same way. -/
theorem run_similar (hM : M.Lawful) (deadline : Option Deadline) (n : Nat) {t t' : Task H}
    (ht : t.Similar M t') {w w' : World H} (hw : M.Worlds w w') {o : Outcome} {w₁ : World H}
    (hrun : run deadline n t w = some (o, w₁)) :
    ∃ m o' w₁', run deadline m t' w' = some (o', w₁') ∧ Matches Eq o o' ∧ M.Worlds w₁ w₁' := by
  induction n generalizing deadline t t' w w' with
  | zero => cases hrun
  | succ n ih =>
    obtain ⟨t₂, woken, w₂, hp, hend⟩ := run_cases hrun
    obtain ⟨m, ⟨t₂', _, w₂'⟩, hp', ht₂, rfl, hw₂⟩ := poll_similar hM n hp t' w' ht hw
    have houtcome := ht₂.outcome?
    generalize ho : t₂'.outcome? = o₂' at houtcome
    obtain ⟨rfl, rfl⟩ | ⟨hnone, hrest⟩ := hend
    · obtain ⟨ho'⟩ := houtcome
      exact ⟨m + 1, _, w₂', run_of_outcome ho hp', ho', hw₂⟩
    rw [hnone] at houtcome
    cases houtcome
    obtain ⟨hpermits, hagain⟩ | ⟨hpermits, hexpire⟩ := hrest
    · obtain ⟨i, o', w₁', hrun', hsame⟩ := ih _ ht₂ hw₂ hagain
      refine ⟨max m i + 1, o', w₁', ?_, hsame⟩
      rw [run_of_unfinished ho (poll_le (Nat.le_max_left m i) hp'), if_pos hpermits]
      exact run_le (Nat.le_max_right m i) hrun'
    · -- both have come to their deadline
      obtain ⟨milliseconds, hdeadline, hx⟩ := expire_eq_some_iff.1 hexpire
      cases hx
      refine ⟨m + 1, _, w₂'.halt, ?_, .error rfl, hw₂.halt⟩
      rw [run_of_unfinished ho hp', hpermits]
      exact expire_eq_some_iff.2 ⟨milliseconds, hdeadline, rfl⟩

end Task

/-- Scopes that stand for one another, rendered in worlds that correspond, come to the same: if the
first render ends, so does the second one. -/
theorem World.render_similar (hM : M.Lawful) (deadline : Option Deadline) {r : Reach} {s s' : Scope}
    (hs : M.scopes r s s') {f f' : Frame} (hf : M.frames r f f') {w w' : World H}
    (hw : M.Worlds w w') {n : Nat} {o : Outcome} {w₁ : World H}
    (hrender : w.render n deadline s f = some (o, w₁)) :
    ∃ m o' w₁', w'.render m deadline s' f' = some (o', w₁') ∧ Matches Eq o o' ∧
      M.Worlds w₁ w₁' := by
  rw [render_eq] at hrender
  obtain ⟨⟨t, w₂⟩, hstart, hrest⟩ := Option.bind_eq_some_iff.1 hrender
  obtain ⟨⟨o₃, w₃⟩, hrun, hconclude⟩ := Option.map_eq_some_iff.1 hrest
  obtain ⟨t', w₂', hstart', ht, hw₂⟩ := Task.start_similar hM [] (.start 0) hs hf hw hstart
  obtain ⟨m, o₃', w₃', hrun', ho, hw₃⟩ := Task.run_similar hM deadline n ht hw₂ hrun
  -- the sink is flushed only if the render has not failed, on both sides
  have hsame : ∃ o' w₁', conclude (o₃', w₃') = (o', w₁') ∧ Matches Eq o o' ∧ M.Worlds w₁ w₁' := by
    cases ho with
    | error he =>
      cases hconclude
      exact ⟨_, _, rfl, .error he, hw₃⟩
    | ok hunit =>
      obtain ⟨hresult, hstate⟩ := hM.host.flush hw₃.host
      have hflush : w₃.flush = (o, w₁) := hconclude
      cases hflush
      exact ⟨_, _, rfl, hresult, hw₃.with_host hstate⟩
  obtain ⟨o', w₁', hconclude', hrest⟩ := hsame
  refine ⟨m, o', w₁', ?_, hrest⟩
  rw [render_eq, hstart', Option.bind_some, hrun', Option.map_some, hconclude']

end Tasks

end Stencil
