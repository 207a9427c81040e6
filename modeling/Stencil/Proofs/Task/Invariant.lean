import Stencil.Proofs.Task.Linked

/-!
# Stencil.Proofs.Task.Invariant — what a render keeps to

An invariant says what the requests of a render are like, the answers to them, the world, and the
scopes that are run, each in its frame. If programs of such scopes make such requests when they are
given such answers (`Invariant.Lawful`), then a render keeps to the invariant from its first step to
its last one (`Invariant.Lawful.within_watch`). And when these programs are the same with another
evaluator, so is the render: what that evaluator does elsewhere is not noticed.

An invariant links a render with itself (`Invariant.link`), so what a step can do need not be gone
through once more.
-/

namespace Stencil

/-! ## What is kept -/

/-- What a render keeps to. A helper and the frames that it may use are taken along with the block
that it has been handed. -/
structure Invariant (H : Host) where
  asks : Request → Prop
  answers : (q : Request) → q.Answer → Prop
  worlds : World H → Prop
  scopes : Scope → Frame → Prop
  helpers : CustomBlock → H.Helper → Prop
  frames : CustomBlock → Frame → Prop

/-- Whether a turn starts bodies only in frames like these, and leaves a helper like these. -/
def Turn.Keeps {Helper : Type} (helpers : Helper → Prop) (frames : Frame → Prop) :
    Turn Helper → Prop
  | finish _ => True
  | wait _ h => helpers h
  | write _ k => ∀ r, (k r).Keeps helpers frames
  | halt k => k.Keeps helpers frames
  | isHalted k => ∀ b, (k b).Keeps helpers frames
  | start _ f k => frames f ∧ ∀ child, (k child).Keeps helpers frames
  | poll _ k => ∀ r, (k r).Keeps helpers frames

/-- A turn keeps to what is true of everything. -/
theorem Turn.keeps_of_forall {Helper : Type} {helpers : Helper → Prop} {frames : Frame → Prop}
    (hhelpers : ∀ h, helpers h) (hframes : ∀ f, frames f) (turn : Turn Helper) :
    turn.Keeps helpers frames := by
  induction turn with
  | finish r => exact trivial
  | wait woken h => exact hhelpers h
  | halt k ih => exact ih
  | write text k ih => exact ih
  | isHalted k ih => exact ih
  | poll child k ih => exact ih
  | start i f k ih => exact ⟨hframes f, ih⟩

/-- A turn that keeps to something does the same as itself. -/
theorem Turn.Keeps.linked {Helper : Type} {helpers : Helper → Prop} {frames : Frame → Prop}
    {turn : Turn Helper} (h : turn.Keeps helpers frames) :
    Turn.Linked Eq (fun h h' => h = h' ∧ helpers h) (fun f f' => f = f' ∧ frames f) turn turn := by
  induction turn with
  | finish r => exact .finish rfl
  | wait woken helper => exact .wait woken ⟨rfl, h⟩
  | halt k ih => exact .halt (ih h)
  | isHalted k ih => exact .isHalted fun b => ih b (h b)
  | start i f k ih => exact .start i ⟨rfl, h.1⟩ fun child => ih child (h.2 child)
  | write text k ih =>
    refine .write text ?_
    rintro r _ rfl
    exact ih r (h r)
  | poll child k ih =>
    refine .poll child fun r r' hr => ?_
    cases hr with
    | none => exact ih none (h none)
    | some hr =>
      cases hr
      exact ih _ (h _)

/-- Whether the same is seen twice, with requests like this, and what comes of it is related. -/
structure Watched.Keeping (Q : Request → Prop) {α β : Type} (R : α → β → Prop) (x : Watched α)
    (y : Watched β) : Prop where
  events : x.events = y.events
  asked (q : Request) : .asked q ∈ y.events → Q q
  result : Option.Rel R x.result y.result

/-- Whether the same is seen twice, with requests like `Q`, and what comes of it is like `P`. -/
structure Watched.Within (Q : Request → Prop) {α : Type} (P : α → Prop) (x y : Watched α) :
    Prop where
  eq : x = y
  asked (q : Request) : .asked q ∈ y.events → Q q
  result (a : α) : y.result = some a → P a

namespace Watched

variable {Q : Request → Prop} {α β γ δ : Type} {R : α → β → Prop} {S : γ → δ → Prop}

theorem Keeping.stuck : Keeping Q R .stuck .stuck := ⟨rfl, fun _ h => (nomatch h), .none⟩

theorem Keeping.pure {a : α} {b : β} (h : R a b) : Keeping Q R (.pure a) (.pure b) :=
  ⟨rfl, fun _ h => (nomatch h), .some h⟩

/-- The invariant is kept by sequencing. -/
theorem Keeping.bind {x : Watched α} {y : Watched β} (h : Keeping Q R x y) {f : α → Watched γ}
    {g : β → Watched δ} (hfg : ∀ a b, R a b → Keeping Q S (f a) (g b)) :
    Keeping Q S (x.bind f) (y.bind g) := by
  obtain ⟨es, a⟩ := x
  obtain ⟨es', b⟩ := y
  obtain ⟨hevents, hasked, hresult⟩ := h
  cases hresult with
  | none => exact ⟨hevents, hasked, .none⟩
  | some hab =>
    obtain ⟨hevents', hasked', hresult'⟩ := hfg _ _ hab
    refine ⟨congrArg₂ (· ++ ·) hevents hevents', fun q hq => ?_, hresult'⟩
    exact (List.mem_append.1 hq).elim (hasked q) (hasked' q)

/-- It is monotone in the relation of the results. -/
theorem Keeping.mono {x : Watched α} {y : Watched β} (h : Keeping Q R x y) {R' : α → β → Prop}
    (hR : ∀ a b, R a b → R' a b) : Keeping Q R' x y := by
  obtain ⟨es, a⟩ := x
  obtain ⟨es', b⟩ := y
  obtain ⟨hevents, hasked, hresult⟩ := h
  cases hresult with
  | none => exact ⟨hevents, hasked, .none⟩
  | some hab => exact ⟨hevents, hasked, .some (hR _ _ hab)⟩

/-- A computation that keeps an invariant beside itself stays within it. -/
theorem Keeping.within {P : α → Prop} {x y : Watched α}
    (h : Keeping Q (fun a b => a = b ∧ P b) x y) : Within Q P x y := by
  obtain ⟨es, a⟩ := x
  obtain ⟨es', b⟩ := y
  obtain ⟨hevents, hasked, hresult⟩ := h
  cases hevents
  cases hresult with
  | none => exact ⟨rfl, hasked, fun _ h => (nomatch h)⟩
  | some hab =>
    refine ⟨congrArg (fun a => Watched.mk es (some a)) hab.1, hasked, fun b' hb' => ?_⟩
    cases hb'
    exact hab.2

end Watched

/-- Requests are looked through on the way. -/
@[reducible] def Comparison.keeping (Q : Request → Prop) : Comparison where
  holds := Watched.Keeping Q
  stuck := .stuck
  pure := .pure
  bind h hfg := h.bind hfg

namespace Invariant

variable {H : Host} (I : Invariant H)
  (eval : Formula → Frame → List Value → Except RenderError Value)

/-- Whether requests, answers and scopes like these lead to nothing else, and nothing is noticed of
the evaluator. -/
structure Lawful : Prop where
  plain {q : Request} : q.isPlain = true → I.asks q
  /-- What writes the result of a function that has no use for a block. -/
  unused {f : Nat} {block : CustomBlock} : I.asks (.custom f block) →
    I.asks (.call f block.frame [])
  answer {q : Request} {a : q.Answer} {w w' : World H} : I.worlds w → I.asks q →
    w.answer? q = some (a, w') → I.answers q a ∧ I.worlds w'
  /-- What has to be waited for may come to anything. -/
  waited {q : Request} (h : q.isInstant = false) (a : q.Answer) : I.answers q a
  host {w : World H} (s : H.State) : I.worlds w → I.worlds { w with host := s }
  help {f : Nat} {block : CustomBlock} {bodies : Nat} {s : H.State} {h : H.Helper} :
    I.asks (.custom f block) → (H.help f block.frame bodies s).1 = some h → I.helpers block h
  turn {block : CustomBlock} {h : H.Helper} (s : H.State) : I.helpers block h →
    (H.turn h s).1.Keeps (I.helpers block) (I.frames block)
  enter {body : Scope} {channel : Channel} {f : Frame} {site : Site} :
    I.asks (.enter body channel f site) → I.scopes body f
  body {f : Nat} {block : CustomBlock} {body : Scope} {frame : Frame} : I.asks (.custom f block) →
    body ∈ block.bodies → I.frames block frame → I.scopes body frame
  /-- Some of the steps of a scope in its frame. -/
  steps {s : Scope} {f : Frame} {steps : List Step} (channel : Channel) (site : Site) (i : Nat) :
    I.scopes s f → steps.Sublist s.steps →
      @runSteps ⟨eval⟩ channel f site i steps = runSteps channel f site i steps ∧
        Program.Asks I.asks I.answers (runSteps channel f site i steps)

/-- A render, and the same render with the evaluator. -/
@[reducible] def link : Link H where
  toComparison := .keeping I.asks
  left := ⟨eval⟩
  right := Formula.evaluator
  asks := Request.Same I.asks I.answers
  values := Eq
  outcomes := Eq
  worlds w w' := w = w' ∧ I.worlds w
  pending := Eq
  blocks x y := x = y ∧ ∃ f, I.asks (.custom f x)
  helpers x _ h h' := h = h' ∧ I.helpers x h
  frames x _ f f' := f = f' ∧ I.frames x f

variable {I eval} (hI : I.Lawful eval)
include hI

/-- A request that the invariant allows is answered as the invariant says. -/
theorem alike_watchAnswer {q : Request} (hq : I.asks q) :
    (I.link eval).Alike (fun a a' => a = a' ∧ I.answers q a) (·.watchAnswer q)
      (·.watchAnswer q) := by
  rintro w _ ⟨rfl, hw⟩
  dsimp only [World.watchAnswer]
  cases hanswer : w.answer? q with
  | none => exact .stuck
  | some r =>
    obtain ⟨a, w'⟩ := r
    obtain ⟨ha, hw'⟩ := hI.answer hw hq hanswer
    refine ⟨rfl, fun q' hq' => ?_, .some ⟨⟨rfl, ha⟩, rfl, hw'⟩⟩
    rcases List.mem_cons.1 hq' with heq | hq'
    · cases heq
      exact hq
    · cases List.mem_singleton.1 hq'

omit hI in
/-- What is seen of a result holds no request. -/
theorem asked_notMem_resultEvents {Pending : Type} (r : Progressed Pending) (q : Request) :
    .asked q ∉ World.resultEvents r := by
  cases r with
  | ready r =>
    intro h
    cases List.mem_singleton.1 h
  | pending woken d => exact List.not_mem_nil

/-- A call that it allows makes a future that the host may be polled for. -/
theorem alike_watchCall {f : Nat} {frame : Frame} {args : List Value}
    (hq : I.asks (.call f frame args)) :
    (I.link eval).Alike (Progressed.Linked Eq Eq) (·.watchCall f frame args)
      (·.watchCall f frame args) := by
  rintro w _ ⟨rfl, hw⟩
  refine ⟨rfl, fun q hq' => ?_, .some ⟨.refl _, rfl, hI.host _ hw⟩⟩
  rcases List.mem_cons.1 hq' with heq | hq'
  · cases heq
    exact hq
  · exact absurd hq' (asked_notMem_resultEvents _ q)

theorem alike_watchPoll (d : H.Pending) :
    (I.link eval).Alike (Progressed.Linked Eq Eq) (·.watchPoll d) (·.watchPoll d) := by
  rintro w _ ⟨rfl, hw⟩
  exact ⟨rfl, fun q hq => absurd hq (asked_notMem_resultEvents _ q),
    .some ⟨.refl _, rfl, hI.host _ hw⟩⟩

/-- A custom block that it allows is taken by a helper that keeps to it. -/
theorem alike_watchHelp {f : Nat} {block : CustomBlock} (hq : I.asks (.custom f block)) :
    (I.link eval).Alike (Option.Rel fun h h' => h = h' ∧ I.helpers block h) (·.watchHelp f block)
      (·.watchHelp f block) := by
  rintro w _ ⟨rfl, hw⟩
  refine ⟨rfl, fun q hq' => ?_, .some ⟨?_, rfl, hI.host _ hw⟩⟩
  · cases List.mem_singleton.1 hq'
    exact hq
  · -- a helper that is given the block is fit for it
    have hhelp : ∀ h, (H.help f block.frame block.bodies.length w.host).1 = some h →
        I.helpers block h := fun h => hI.help hq
    show Option.Rel _ (H.help f block.frame block.bodies.length w.host).1 _
    generalize (H.help f block.frame block.bodies.length w.host).1 = x at hhelp ⊢
    cases x with
    | none => exact .none
    | some h => exact .some ⟨rfl, hhelp h rfl⟩

/-- Writing a text is linked to itself: the invariant allows it or the text is stopped on its way.
-/
theorem write (channel : Channel) (text : String) :
    (I.link eval).Actions (channel.write text) (channel.write text) :=
  (channel.asks_write (fun _ h => hI.plain h) text).related

/-- So is writing the result of a block. -/
theorem writeResult {f : Nat} {block : CustomBlock} (hq : I.asks (.custom f block)) :
    (I.link eval).Actions (Task.writeResult f block) (Task.writeResult f block) := by
  refine Program.Asks.related (Action.asks_bind ⟨hI.unused hq, fun _ _ => trivial⟩ fun v => ?_)
  exact block.channel.asks_write (fun _ h => hI.plain h) v.display

/-- The steps of a program that keeps the invariant are linked to themselves. -/
theorem steps_related {s : Scope} {f : Frame} (hs : I.scopes s f) {steps : List Step}
    (hsteps : steps.Sublist s.steps) (channel : Channel) (site : Site) (i : Nat) :
    (I.link eval).Actions (@runSteps ⟨eval⟩ channel f site i steps)
      (runSteps channel f site i steps) := by
  obtain ⟨heq, hasks⟩ := hI.steps channel site i hs hsteps
  rw [heq]
  exact hasks.related

theorem begins {s : Scope} {f : Frame} (hs : I.scopes s f) (channel : Channel) (site : Site) :
    (I.link eval).Begins s s channel channel f f site site where
  now := steps_related hI hs (List.takeWhile_sublist _) channel site 0
  later := steps_related hI hs (List.dropWhile_sublist _) channel site s.now.length
  nothing := Iff.rfl

/-- Each request that is made is of its own kind. -/
theorem kind {q : Request} (hq : I.asks q) :
    (I.link eval).Kind q q fun a a' => a = a' ∧ I.answers q a := by
  by_cases hinstant : q.isInstant = true
  · exact .instant hinstant hinstant (alike_watchAnswer hI hq)
  have hanswers := hI.waited (Bool.eq_false_iff.2 hinstant)
  cases q with
  | write | isHalted | halt | modify | declare | resolve | template => exact absurd rfl hinstant
  | call f frame args => exact .call (alike_watchCall hI hq) fun r _ h => ⟨h, hanswers r⟩
  | custom f block =>
    exact .custom ⟨rfl, f, hq⟩ (alike_watchHelp hI hq) (writeResult hI hq)
      fun o _ h => ⟨h, hanswers o⟩
  | enter body channel f site =>
    have hasked : Watched.Keeping I.asks (fun _ _ => True)
        (.see [.asked (.enter body channel f site)])
        (.see [.asked (.enter body channel f site)]) := by
      refine ⟨rfl, fun q hq' => ?_, .some trivial⟩
      -- entering a body asks for that body and for nothing else
      cases List.mem_singleton.1 hq'
      exact hq
    refine .enter hasked ?_ fun o _ h => ⟨h, hanswers o⟩
    obtain ⟨steps⟩ := body
    have hrun := steps_related hI (hI.enter hq) (List.Sublist.refl _) channel site 0
    rw [← Scope.run_mk, ← @Scope.run_mk ⟨eval⟩] at hrun
    exact hrun

/-- **An invariant of the requests is a link** of a render to itself. -/
theorem link_lawful : (I.link eval).Lawful where
  asks hq := by
    obtain ⟨hq⟩ := hq
    exact kind hI hq
  ok := rfl
  succeed h := by
    cases h
    exact Iff.rfl
  halt := by
    rintro w _ hw
    exact (alike_watchAnswer hI (q := .halt) (hI.plain rfl) w _ hw).mono fun _ _ h =>
      ⟨trivial, h.2⟩
  isHalted := by
    rintro w _ hw
    exact (alike_watchAnswer hI (q := .isHalted) (hI.plain rfl) w _ hw).mono fun _ _ h =>
      ⟨h.1.1, h.2⟩
  poll hd := by
    cases hd
    exact alike_watchPoll hI _
  turn := by
    rintro x y h _ w _ ⟨rfl, hh⟩ ⟨rfl, hw⟩
    exact ⟨(hI.turn _ hh).linked, rfl, hI.host _ hw⟩
  write text h := by
    obtain ⟨rfl, -⟩ := h
    exact write hI _ text
  body := by
    rintro x _ f _ i child ⟨rfl, g, hq⟩ ⟨rfl, hf⟩
    cases hi : x.bodies[i]? with
    | none => exact .none
    | some body => exact .some (begins hI (hI.body hq (List.mem_of_getElem? hi) hf) _ _)

/-- A deadline ends both alike. -/
theorem link_closes : (I.link eval).Closes where
  timeout _ := rfl
  halted := by
    rintro w _ ⟨rfl, hw⟩
    exact ⟨rfl, (hI.answer hw (hI.plain (q := .halt) rfl) rfl).2⟩
  flush := by
    rintro w _ ⟨rfl, hw⟩
    refine ⟨rfl, fun q hq => ?_, .some ⟨rfl, rfl, hI.host _ hw⟩⟩
    cases List.mem_singleton.1 hq

/-- A render keeps to the invariant, and it is the same with the evaluator. -/
theorem Lawful.within_watch (fuel : Nat) (deadline : Option Deadline) {s : Scope} {f : Frame}
    (hs : I.scopes s f) {w : World H} (hw : I.worlds w) :
    Watched.Within I.asks (fun r => I.worlds r.2) (@World.watch H ⟨eval⟩ fuel deadline s f w)
      (w.watch fuel deadline s f) := by
  have hlinked := World.watch_linked (link_lawful hI) (link_closes hI) fuel deadline
    (begins hI hs [] (.start 0)) w w ⟨rfl, hw⟩
  refine (hlinked.mono ?_).within
  rintro ⟨o, w₁⟩ ⟨_, _⟩ ⟨rfl, rfl, hw₁⟩
  exact ⟨rfl, hw₁⟩

end Invariant

end Stencil
