import Stencil.Proofs.Task.Linked

/-!
# Stencil.Proofs.Task.Beside — renders that are watched side by side

Two worlds in which everything that a render reaches out to is the same, up to some event, lead
through the same events up to there (`World.StayAlike.agree_watch`): the render is linked with
itself (`Link.beside`). What the event is, is left open: it may be that an answer is an error in one
of them, or that the render asks for something that only one of them knows.
-/

namespace Stencil

namespace Watched

variable {α β : Type}

/-! ## Agreeing up to some event -/

/-- Whether the same is seen of both, and like things come of them, unless the first comes to an
event that is excepted: then the same is seen of both up to there. -/
def Agree (excepted : Event → Prop) (R : α → β → Prop) (x : Watched α) (y : Watched β) : Prop :=
  (x.events = y.events ∧ Option.Rel R x.result y.result) ∨
    ∃ before e more, x.events = before ++ e :: more ∧ excepted e ∧ before <+: y.events

section Agree

variable {γ δ : Type} {excepted : Event → Prop} {R : α → β → Prop} {S : γ → δ → Prop}

theorem Agree.pure {a : α} {b : β} (h : R a b) : Agree excepted R (pure a) (pure b) :=
  .inl ⟨rfl, .some h⟩

theorem Agree.stuck : Agree excepted R stuck stuck := .inl ⟨rfl, .none⟩

theorem Agree.see (events : List Event) :
    Agree excepted (fun _ _ => True) (see events) (see events) := .inl ⟨rfl, .some trivial⟩

/-- Agreement is kept by sequencing: nothing after an excepted event is compared. -/
theorem Agree.bind {x : Watched α} {y : Watched β} (h : Agree excepted R x y) {f : α → Watched γ}
    {g : β → Watched δ} (hfg : ∀ a b, R a b → Agree excepted S (f a) (g b)) :
    Agree excepted S (x.bind f) (y.bind g) := by
  obtain ⟨xs, xr⟩ := x
  obtain ⟨ys, yr⟩ := y
  obtain ⟨hevents, hresult⟩ | ⟨before, e, more, hevents, he, hbefore⟩ := h
  · dsimp only at hevents
    subst hevents
    cases hresult with
    | none => exact .inl ⟨rfl, .none⟩
    | some hab =>
      obtain ⟨hevents, hresult⟩ | ⟨before, e, more, hevents, he, hbefore⟩ := hfg _ _ hab
      · exact .inl ⟨congrArg (xs ++ ·) hevents, hresult⟩
      · refine .inr ⟨xs ++ before, e, more, ?_, he, ?_⟩
        · dsimp only [Watched.bind]
          rw [hevents, List.append_assoc]
        · exact (List.prefix_append_right_inj xs).2 hbefore
  · -- what comes after the event does not matter
    have hx : ∃ more', ((⟨xs, xr⟩ : Watched α).bind f).events = before ++ e :: (more ++ more') := by
      dsimp only at hevents
      cases xr with
      | none => exact ⟨[], by rw [List.append_nil]; exact hevents⟩
      | some a =>
        refine ⟨(f a).events, ?_⟩
        dsimp only [Watched.bind]
        rw [hevents, List.append_assoc, List.cons_append]
    have hy : ys <+: ((⟨ys, yr⟩ : Watched β).bind g).events := by
      cases yr with
      | none => exact List.prefix_rfl
      | some b => exact List.prefix_append ys _
    obtain ⟨more', hx⟩ := hx
    exact .inr ⟨before, e, more ++ more', hx, he, hbefore.trans hy⟩

/-- Agreement is monotone in the relation of the results. -/
theorem Agree.mono {x : Watched α} {y : Watched β} (h : Agree excepted R x y)
    {R' : α → β → Prop} (hR : ∀ a b, R a b → R' a b) : Agree excepted R' x y := by
  obtain ⟨xs, xr⟩ := x
  obtain ⟨ys, yr⟩ := y
  obtain ⟨hevents, hresult⟩ | hcut := h
  · cases hresult with
    | none => exact .inl ⟨hevents, .none⟩
    | some hab => exact .inl ⟨hevents, .some (hR _ _ hab)⟩
  · exact .inr hcut

/-- What agrees up to some event that does not come agrees. -/
theorem Agree.exists_of_eq {x : Watched α} {y : Watched β} (h : Agree excepted R x y)
    {es : List Event} {a : α} (hx : x = ⟨es, some a⟩) (hes : ∀ ev ∈ es, ¬ excepted ev) :
    ∃ b, y = ⟨es, some b⟩ ∧ R a b := by
  subst hx
  rcases y with ⟨events, result⟩
  rcases h with ⟨hevents, hresult⟩ | ⟨before, ev, more, hevents, hev, -⟩
  · cases hevents
    cases hresult with
    | some hab => exact ⟨_, rfl, hab⟩
  · have hmem : ev ∈ es := by
      rw [show es = _ from hevents]
      exact List.mem_append_right before List.mem_cons_self
    exact absurd hev (hes ev hmem)

end Agree

end Watched

/-- What is seen is compared up to an event that is excepted. -/
@[reducible] def Comparison.agree (excepted : Event → Prop) : Comparison where
  holds := Watched.Agree excepted
  stuck := .stuck
  pure := .pure
  bind h hfg := h.bind hfg

/-! ## Worlds that are alike up to some event -/

section Agree

variable {H : Host}

/-- Whether the results are the same, and the worlds related. -/
def World.Beside (R : World H → World H → Prop) {α : Type} (a b : α × World H) : Prop :=
  a.1 = b.1 ∧ R a.2 b.2

/-- Whether the tasks are the same, and the worlds related. -/
def Polled.Beside (R : World H → World H → Prop) (p q : Polled H) : Prop :=
  p.task = q.task ∧ p.woken = q.woken ∧ R p.world q.world

/-- Whether worlds that are related give the same answers, and stay related, up to an event that
is excepted. -/
structure World.StayAlike (excepted : Event → Prop) (R : World H → World H → Prop) : Prop where
  answer {w v : World H} (q : Request) : R w v →
    Watched.Agree excepted (Beside R) (w.watchAnswer q) (v.watchAnswer q)
  call {w v : World H} (f : Nat) (frame : Frame) (args : List Value) : R w v →
    Watched.Agree excepted (Beside R) (w.watchCall f frame args) (v.watchCall f frame args)
  poll {w v : World H} (d : H.Pending) : R w v →
    Watched.Agree excepted (Beside R) (w.watchPoll d) (v.watchPoll d)
  help {w v : World H} (f : Nat) (block : CustomBlock) : R w v →
    Watched.Agree excepted (Beside R) (w.watchHelp f block) (v.watchHelp f block)
  turn {w v : World H} (h : H.Helper) : R w v → Beside R (w.nextTurn h) (v.nextTurn h)

variable {excepted : Event → Prop} {R : World H → World H → Prop}

/-- Worlds that give the same answer. -/
theorem World.agree_watchAnswer_of_eq {q : Request} {a b : q.Answer} {w v w' v' : World H}
    (hw : w.answer? q = some (a, w')) (hv : v.answer? q = some (b, v')) (heq : a = b)
    (h : R w' v') : Watched.Agree excepted (Beside R) (w.watchAnswer q) (v.watchAnswer q) := by
  unfold watchAnswer
  rw [hw, hv, heq]
  exact .inl ⟨rfl, .some ⟨rfl, h⟩⟩

/-! ## The same task in both worlds -/

section Link

variable [evaluator : Evaluator] (excepted : Event → Prop) (R : World H → World H → Prop)

/-- A render in two worlds. All but the worlds is the same. -/
@[reducible] def Link.beside : Link H where
  toComparison := .agree excepted
  left := evaluator
  right := evaluator
  asks := Request.Same (fun _ => True) fun _ _ => True
  values := Eq
  outcomes := Eq
  worlds := R
  pending := Eq
  blocks := Eq
  helpers _ _ := Eq
  frames _ _ := Eq

variable {excepted R}

theorem Link.beside_actions (action : Action Unit) : (beside excepted R).Actions action action :=
  (Program.asks_true action).related

/-- Under this link the same results are returned. -/
theorem Link.beside_returns (returns : Stencil.Returns) :
    (beside excepted R).Returns returns returns := by
  refine List.forall₂_same.2 fun k _ => ?_
  rintro o _ rfl
  exact beside_actions (k o)

/-- A task goes on in the same way as itself. -/
theorem Link.beside_refl : ∀ t : Task H, (beside excepted R).Tasks t t
  | .finished _ => .finished rfl
  | .running action returns => .running (beside_actions action) (beside_returns returns)
  | .calling d k returns => by
    refine .calling rfl ?_ (beside_returns returns)
    rintro r _ rfl
    exact beside_actions (k r)
  | .helping h block children returns =>
    .helping rfl rfl (List.forall₂_same.2 fun child _ => beside_refl child) (beside_returns returns)
termination_by t => sizeOf t
decreasing_by
  have hlt := List.sizeOf_lt_of_mem ‹_›
  simp only [Task.helping.sizeOf_spec]
  omega

theorem Link.eq_of_returns {returns returns' : Stencil.Returns}
    (h : (beside excepted R).Returns returns returns') : returns = returns' := by
  have heq : List.Forall₂ Eq returns returns' :=
    h.imp fun k k' hk => funext fun o => (hk o o rfl).eq
  rwa [List.forall₂_eq_eq_eq] at heq

mutual

/-- Tasks that go on in the same way are the same. -/
theorem Link.eq_of_beside : ∀ {t t' : Task H}, (beside excepted R).Tasks t t' → t = t'
  | _, _, .finished h => congrArg Task.finished h
  | _, _, .running h hreturns => by rw [h.eq, eq_of_returns hreturns]
  | _, _, .calling hd hk hreturns => by
    rw [hd, funext fun r => (hk r r rfl).eq, eq_of_returns hreturns]
  | _, _, .helping hh hblocks hchildren hreturns => by
    rw [hh, hblocks, eq_of_children hchildren, eq_of_returns hreturns]
termination_by t => sizeOf t

theorem Link.eq_of_children : ∀ {ts ts' : List (Task H)},
    List.Forall₂ (beside excepted R).Tasks ts ts' → ts = ts'
  | _, _, .nil => rfl
  | _, _, .cons h hrest => by rw [eq_of_beside h, eq_of_children hrest]
termination_by ts => sizeOf ts

end

end Link

namespace World.StayAlike

variable [Evaluator] {excepted : Event → Prop} {R : World H → World H → Prop}
  (hR : StayAlike excepted R)
include hR

/-- Every request is linked to itself by what the relation says of it. -/
theorem kind (q : Request) : (Link.beside excepted R).Kind q q fun a a' => a = a' ∧ True := by
  by_cases hinstant : q.isInstant = true
  · exact .instant hinstant hinstant fun w v h =>
      (hR.answer q h).mono fun _ _ h => ⟨⟨h.1, trivial⟩, h.2⟩
  cases q with
  | write | isHalted | halt | modify | declare | resolve | template => exact absurd rfl hinstant
  | call f frame args =>
    refine .call (fun w v h => (hR.call f frame args h).mono ?_) fun r _ h => ⟨h, trivial⟩
    rintro ⟨r, w'⟩ ⟨_, v'⟩ ⟨rfl, h'⟩
    exact ⟨.refl r, h'⟩
  | custom f block =>
    refine .custom rfl (fun w v h => (hR.help f block h).mono ?_) (Link.beside_actions _)
      fun o _ h => ⟨h, trivial⟩
    rintro ⟨_ | helper, w'⟩ ⟨_, v'⟩ ⟨rfl, h'⟩
    · exact ⟨.none, h'⟩
    · exact ⟨.some rfl, h'⟩
  | enter body channel frame site =>
    exact .enter (.see _) (Link.beside_actions _) fun o _ h => ⟨h, trivial⟩

omit hR in
/-- Bodies begin alike, since nothing is changed about them. -/
theorem begins (scope : Scope) (channel : Channel) (frame : Frame) (site : Site) :
    (Link.beside excepted R).Begins scope scope channel channel frame frame site site :=
  ⟨Link.beside_actions _, Link.beside_actions _, Iff.rfl⟩

/-- A relation kept by whatever a render asks for is kept by whatever a render does. -/
theorem link_lawful : (Link.beside excepted R).Lawful where
  asks hq := by
    obtain ⟨-⟩ := hq
    exact hR.kind _
  ok := rfl
  succeed h := by
    cases h
    exact Iff.rfl
  halt w v h := (hR.answer .halt h).mono fun _ _ h => ⟨trivial, h.2⟩
  isHalted w v h := hR.answer .isHalted h
  poll := by
    rintro d _ rfl w v h
    refine (hR.poll d h).mono ?_
    rintro ⟨r, w'⟩ ⟨_, v'⟩ ⟨rfl, h'⟩
    exact ⟨.refl r, h'⟩
  turn := by
    rintro x y helper _ w v rfl h
    obtain ⟨hturn, h'⟩ := hR.turn helper h
    refine ⟨?_, h'⟩
    rw [← hturn]
    exact .refl _
  write := by
    rintro x _ text rfl
    exact Link.beside_actions _
  body := by
    rintro x _ f _ i child rfl rfl
    cases x.bodies[i]? with
    | none => exact .none
    | some body => exact .some (begins body _ _ _)

/-- A poll of one body of a helper sees the same from related worlds, up to an excepted event. -/
theorem agree_watchBody {w v : World H} (h : R w v) (block : CustomBlock) (i : Nat) (frame : Frame)
    (child : Nat) :
    Watched.Agree excepted (Beside R) (Task.watchBody block i frame child w)
      (Task.watchBody block i frame child v) :=
  (Task.watchBody_linked hR.link_lawful rfl rfl i child w v h).mono fun _ _ h =>
    ⟨Link.eq_of_beside h.1, h.2⟩

/-- A task that is polled in related worlds does the same in both, up to an event that is
excepted. -/
theorem agree_watch {w v : World H} (h : R w v) (n : Nat) (t : Task H) :
    Watched.Agree excepted (Polled.Beside R) (Task.watch n t w) (Task.watch n t v) :=
  (Task.watch_linked hR.link_lawful n (Link.beside_refl t) h).mono fun _ _ h =>
    ⟨Link.eq_of_beside h.task, h.woken, h.world⟩

/-- A render in related worlds does the same in both, up to an event that is excepted, if it ends
alike in such worlds. -/
theorem agree_render (hhalt : ∀ {w v : World H}, R w v → R w.halt v.halt)
    (hflush : ∀ {w v : World H}, R w v →
      Watched.Agree excepted (Beside R) w.watchFlush v.watchFlush)
    {w v : World H} (h : R w v) (fuel : Nat) (deadline : Option Deadline) (scope : Scope)
    (frame : Frame) :
    Watched.Agree excepted (Beside R) (w.watch fuel deadline scope frame)
      (v.watch fuel deadline scope frame) :=
  World.watch_linked hR.link_lawful ⟨fun _ => rfl, hhalt, fun _ _ => hflush⟩ fuel deadline
    (begins scope [] frame (.start 0)) w v h

end World.StayAlike

end Agree

end Stencil
