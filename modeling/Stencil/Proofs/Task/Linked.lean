import Mathlib.Data.List.Forall2
import Stencil.Proofs.Task.Watch

/-!
# Stencil.Proofs.Task.Linked — two renders, step by step

Two renders go side by side when their programs make requests that stand for one another, one by
one, and their host answers these alike. What a task can do in a step is gone through once, here, in
`Task.watchStep_linked`; that of polls, runs and renders follows by induction (`Task.watch_linked`,
`Task.watchRun_linked`, `World.watch_linked`).

What stands for what is left open (`Link`), and so is how what is seen of two renders is compared
(`Comparison`). A link is lawful when each kind of request is answered alike (`Link.Lawful`). The
two renders may even be the same: then a link is an invariant of the render.
-/

namespace Stencil

/-! ## Lists that correspond -/

section Lists

variable {α β : Type} {R : α → β → Prop} {as : List α} {bs : List β}

/-- Related lists have related elements at each place. -/
theorem forall₂_getElem? (h : List.Forall₂ R as bs) (i : Nat) :
    Option.Rel R as[i]? bs[i]? := by
  induction h generalizing i with
  | nil => exact .none
  | cons hab _ ih =>
    cases i with
    | zero => exact .some hab
    | succ i => exact ih i

/-- They stay related when related elements are put at one place. -/
theorem forall₂_set (h : List.Forall₂ R as bs) (i : Nat) {a : α} {b : β} (hab : R a b) :
    List.Forall₂ R (as.set i a) (bs.set i b) := by
  induction h generalizing i with
  | nil => exact .nil
  | cons h hrest ih =>
    cases i with
    | zero => exact .cons hab hrest
    | succ i => exact .cons h (ih i)

end Lists

/-! ## What is compared -/

/-- A way to compare what is seen of two renders, when it is known how what comes of them is
compared. -/
structure Comparison where
  holds {α β : Type} : (α → β → Prop) → Watched α → Watched β → Prop
  stuck {α β : Type} {R : α → β → Prop} : holds R .stuck .stuck
  pure {α β : Type} {R : α → β → Prop} {a : α} {b : β} : R a b → holds R (.pure a) (.pure b)
  bind {α β γ δ : Type} {R : α → β → Prop} {S : γ → δ → Prop} {x : Watched α} {y : Watched β}
    {f : α → Watched γ} {g : β → Watched δ} :
    holds R x y → (∀ a b, R a b → holds S (f a) (g b)) → holds S (x.bind f) (y.bind g)

/-- Whether what comes of two calls or polls stands for one another. -/
inductive Progressed.Linked {Pending : Type}
    (values : Except RenderError Value → Except RenderError Value → Prop)
    (pending : Pending → Pending → Prop) : Progressed Pending → Progressed Pending → Prop
  | ready {r r' : Except RenderError Value} (h : values r r') :
      Linked values pending (.ready r) (.ready r')
  | pending {d d' : Pending} (woken : Bool) (h : pending d d') :
      Linked values pending (.pending woken d) (.pending woken d')

theorem Progressed.Linked.refl {Pending : Type} (r : Progressed Pending) : Linked Eq Eq r r := by
  cases r with
  | ready r => exact .ready rfl
  | pending woken d => exact .pending woken rfl

/-- Whether two turns of helpers do the same, as long as their requests are answered alike. -/
inductive Turn.Linked {Helper : Type} (outcomes : Outcome → Outcome → Prop)
    (helpers : Helper → Helper → Prop) (frames : Frame → Frame → Prop) :
    Turn Helper → Turn Helper → Prop
  | finish {o o' : Except RenderError Unit} (h : outcomes o o') :
      Linked outcomes helpers frames (.finish o) (.finish o')
  | wait {h h' : Helper} (woken : Bool) (hh : helpers h h') :
      Linked outcomes helpers frames (.wait woken h) (.wait woken h')
  | write {k k' : Except RenderError Unit → Turn Helper} (text : String)
      (h : ∀ o o', outcomes o o' → Linked outcomes helpers frames (k o) (k' o')) :
      Linked outcomes helpers frames (.write text k) (.write text k')
  | halt {k k' : Turn Helper} (h : Linked outcomes helpers frames k k') :
      Linked outcomes helpers frames (.halt k) (.halt k')
  | isHalted {k k' : Bool → Turn Helper} (h : ∀ b, Linked outcomes helpers frames (k b) (k' b)) :
      Linked outcomes helpers frames (.isHalted k) (.isHalted k')
  | start {f f' : Frame} {k k' : Nat → Turn Helper} (i : Nat) (hf : frames f f')
      (h : ∀ child, Linked outcomes helpers frames (k child) (k' child)) :
      Linked outcomes helpers frames (.start i f k) (.start i f' k')
  | poll {k k' : Option (Except RenderError Unit) → Turn Helper} (child : Nat)
      (h : ∀ o o', Option.Rel outcomes o o' → Linked outcomes helpers frames (k o) (k' o')) :
      Linked outcomes helpers frames (.poll child k) (.poll child k')

/-- Every turn is linked to itself. -/
theorem Turn.Linked.refl {Helper : Type} (turn : Turn Helper) : Linked Eq Eq Eq turn turn := by
  induction turn with
  | finish o => exact .finish rfl
  | wait woken h => exact .wait woken rfl
  | halt k ih => exact .halt ih
  | isHalted k ih => exact .isHalted ih
  | start i f k ih => exact .start i rfl ih
  | write text k ih =>
    refine .write text ?_
    rintro o _ rfl
    exact ih o
  | poll child k ih =>
    refine .poll child fun o o' ho => ?_
    cases ho with
    | none => exact ih none
    | some ho =>
      cases ho
      exact ih _

/-- What stands for what in two renders with the same host, each with an evaluator of its own. A
helper and the frames that it may use are taken along with the block that it has been handed. -/
structure Link (H : Host) extends Comparison where
  left : Evaluator
  right : Evaluator
  asks : (q q' : Request) → (q.Answer → q'.Answer → Prop) → Prop
  values : Except RenderError Value → Except RenderError Value → Prop
  outcomes : Outcome → Outcome → Prop
  worlds : World H → World H → Prop
  pending : H.Pending → H.Pending → Prop
  blocks : CustomBlock → CustomBlock → Prop
  helpers : CustomBlock → CustomBlock → H.Helper → H.Helper → Prop
  frames : CustomBlock → CustomBlock → Frame → Frame → Prop

namespace Link

variable {H : Host} (L : Link H)

/-- Whether two actions do the same. -/
abbrev Actions : Action Unit → Action Unit → Prop := Program.Related L.asks L.outcomes

/-- Whether results stand for one another, in worlds that do. -/
def After {α β : Type} (R : α → β → Prop) (x : α × World H) (y : β × World H) : Prop :=
  R x.1 y.1 ∧ L.worlds x.2 y.2

/-- Whether in worlds that stand for one another the same is seen, and what comes of it stands for
one another as well. -/
def Alike {α β : Type} (R : α → β → Prop) (x : World H → Watched (α × World H))
    (y : World H → Watched (β × World H)) : Prop :=
  ∀ w w', L.worlds w w' → L.holds (L.After R) (x w) (y w')

/-- Whether two scopes, run with such channels and frames at such sites, do the same, be it at
once or later. -/
structure Begins (s s' : Scope) (channel channel' : Channel) (f f' : Frame) (site site' : Site) :
    Prop where
  now : L.Actions (@runSteps L.left channel f site 0 s.now)
    (@runSteps L.right channel' f' site' 0 s'.now)
  later : L.Actions (@runSteps L.left channel f site s.now.length s.later)
    (@runSteps L.right channel' f' site' s'.now.length s'.later)
  nothing : s.later = [] ↔ s'.later = []

/-- Whether two requests are of the same kind and lead to the same, so that such answers stand for
one another. -/
inductive Kind : (q q' : Request) → (q.Answer → q'.Answer → Prop) → Prop
  | instant {q q' : Request} {A : q.Answer → q'.Answer → Prop} (hq : q.isInstant = true)
      (hq' : q'.isInstant = true) (h : L.Alike A (·.watchAnswer q) (·.watchAnswer q')) :
      Kind q q' A
  | call {f f' : Nat} {frame frame' : Frame} {args args' : List Value}
      {A : Except RenderError Value → Except RenderError Value → Prop}
      (h : L.Alike (Progressed.Linked L.values L.pending) (·.watchCall f frame args)
        (·.watchCall f' frame' args')) (hA : ∀ r r', L.values r r' → A r r') :
      Kind (.call f frame args) (.call f' frame' args') A
  | custom {f f' : Nat} {x y : CustomBlock} {A : Outcome → Outcome → Prop} (hblocks : L.blocks x y)
      (h : L.Alike (Option.Rel (L.helpers x y)) (·.watchHelp f x) (·.watchHelp f' y))
      (hwrite : L.Actions (Task.writeResult f x) (Task.writeResult f' y))
      (hA : ∀ o o', L.outcomes o o' → A o o') : Kind (.custom f x) (.custom f' y) A
  | enter {s s' : Scope} {channel channel' : Channel} {f f' : Frame} {site site' : Site}
      {A : Outcome → Outcome → Prop}
      (hasked : L.holds (fun _ _ => True) (.see [.asked (.enter s channel f site)])
        (.see [.asked (.enter s' channel' f' site')]))
      (hrun : L.Actions (@Scope.run L.left channel f site s)
        (@Scope.run L.right channel' f' site' s'))
      (hA : ∀ o o', L.outcomes o o' → A o o') :
      Kind (.enter s channel f site) (.enter s' channel' f' site') A

/-- Whether all that a render reaches out to gives alike what stands for one another. -/
structure Lawful : Prop where
  asks {q q' : Request} {A : q.Answer → q'.Answer → Prop} : L.asks q q' A → L.Kind q q' A
  ok : L.outcomes (.ok ()) (.ok ())
  /-- What succeeds stands for what succeeds. -/
  succeed {o o' : Outcome} : L.outcomes o o' → (o = .ok () ↔ o' = .ok ())
  halt : L.Alike (fun _ _ => True) (·.watchAnswer .halt) (·.watchAnswer .halt)
  isHalted : L.Alike (Eq : Bool → Bool → Prop) (·.watchAnswer .isHalted) (·.watchAnswer .isHalted)
  poll {d d' : H.Pending} : L.pending d d' →
    L.Alike (Progressed.Linked L.values L.pending) (·.watchPoll d) (·.watchPoll d')
  turn {x y : CustomBlock} {h h' : H.Helper} {w w' : World H} : L.helpers x y h h' →
    L.worlds w w' → L.After (Turn.Linked L.outcomes (L.helpers x y) (L.frames x y)) (w.nextTurn h)
      (w'.nextTurn h')
  write {x y : CustomBlock} (text : String) : L.blocks x y →
    L.Actions (x.channel.write text) (y.channel.write text)
  body {x y : CustomBlock} {f f' : Frame} (i child : Nat) : L.blocks x y → L.frames x y f f' →
    Option.Rel (fun s s' => L.Begins s s' x.channel y.channel f f' (.part x.site child)
      (.part y.site child)) x.bodies[i]? y.bodies[i]?

/-- Whether renders that stand for one another end alike: with their deadlines, and with what was
written. -/
structure Closes : Prop where
  timeout (milliseconds : Nat) :
    L.outcomes (.error (.timeout milliseconds)) (.error (.timeout milliseconds))
  halted {w w' : World H} : L.worlds w w' → L.worlds w.halt w'.halt
  flush : L.Alike L.outcomes World.watchFlush World.watchFlush

/-! ## Tasks -/

/-- Whether the same is to be done with outcomes. -/
def Returns (returns returns' : Returns) : Prop :=
  List.Forall₂ (fun k k' => ∀ o o', L.outcomes o o' → L.Actions (k o) (k' o')) returns returns'

/-- Whether two tasks go on in the same way. -/
inductive Tasks : Task H → Task H → Prop
  | finished {o o' : Outcome} (h : L.outcomes o o') : Tasks (.finished o) (.finished o')
  | running {action action' : Action Unit} {returns returns' : Stencil.Returns}
      (h : L.Actions action action') (hreturns : L.Returns returns returns') :
      Tasks (.running action returns) (.running action' returns')
  | calling {d d' : H.Pending} {k k' : Except RenderError Value → Action Unit}
      {returns returns' : Stencil.Returns} (hd : L.pending d d')
      (hk : ∀ r r', L.values r r' → L.Actions (k r) (k' r'))
      (hreturns : L.Returns returns returns') :
      Tasks (.calling d k returns) (.calling d' k' returns')
  | helping {h h' : H.Helper} {x y : CustomBlock} {children children' : List (Task H)}
      {returns returns' : Stencil.Returns} (hh : L.helpers x y h h') (hblocks : L.blocks x y)
      (hchildren : List.Forall₂ Tasks children children') (hreturns : L.Returns returns returns') :
      Tasks (.helping h x children returns) (.helping h' y children' returns')

/-- Whether two polls have led to the same. -/
structure Polls (p p' : Polled H) : Prop where
  task : L.Tasks p.task p'.task
  woken : p.woken = p'.woken
  world : L.worlds p.world p'.world

/-- Whether the turns of two helpers have led to the same. -/
structure Turns (x y : CustomBlock) (t t' : Turned H) : Prop where
  helper : Sum.LiftRel (L.helpers x y) L.outcomes t.helper t'.helper
  children : List.Forall₂ L.Tasks t.children t'.children
  woken : t.woken = t'.woken
  world : L.worlds t.world t'.world

/-- Whether two steps have led to tasks that go on in the same way, or have ended polls that have
led to the same. -/
abbrev Steps : (Task H × World H) ⊕ Polled H → (Task H × World H) ⊕ Polled H → Prop :=
  Sum.LiftRel (L.After L.Tasks) L.Polls

variable {L}

theorem Tasks.outcome? {t t' : Task H} (h : L.Tasks t t') :
    Option.Rel L.outcomes t.outcome? t'.outcome? := by
  cases h with
  | finished h => exact .some h
  | running | calling | helping => exact .none

end Link

/-! ## Starting -/

section Linked

variable {H : Host} {L : Link H} (hL : L.Lawful)
include hL

/-- A program that is run at once answers for itself, request by request. -/
theorem World.watchNow_linked {α β : Type} {R : α → β → Prop} {p : Program α} {p' : Program β}
    (h : Program.Related L.asks R p p') : L.Alike R (·.watchNow p) (·.watchNow p') := by
  induction h with
  | done h => exact fun w w' hw => L.pure ⟨h, hw⟩
  | ask hq _ ih =>
    intro w w' hw
    cases hL.asks hq with
    | instant _ _ hanswer =>
      exact L.bind (hanswer w w' hw) fun x y hxy => ih x.1 y.1 hxy.1 _ _ hxy.2
    | call | custom | enter =>
      -- a request that has to wait leads to nothing
      exact L.bind (R := fun _ _ => False) L.stuck fun _ _ h => h.elim

namespace Task

omit hL in
/-- What is left of two scopes that begin in the same way goes on in the same way. -/
theorem started_linked (hL : L.Lawful) {s s' : Scope} {channel channel' : Channel} {f f' : Frame}
    {site site' : Site} (hs : L.Begins s s' channel channel' f f' site site') {o o' : Outcome}
    (ho : L.outcomes o o') :
    L.Tasks (@started H L.left s channel f site o) (@started H L.right s' channel' f' site' o') := by
  have hsucceed := hL.succeed ho
  cases o with
  | error e =>
    cases o' with
    | error e' => exact .finished ho
    | ok u => cases hsucceed.2 rfl
  | ok u =>
    cases hsucceed.1 rfl
    have hlater := hs.later
    unfold started
    cases hleft : s.later with
    | nil =>
      -- nothing is left to run on either side
      rw [hs.nothing.1 hleft]
      exact .finished hL.ok
    | cons step steps =>
      cases hright : s'.later with
      | nil =>
        rw [hs.nothing.2 hright] at hleft
        cases hleft
      | cons step' steps' =>
        rw [hleft, hright] at hlater
        exact .running hlater .nil

/-- Linked bodies start alike. -/
theorem watchStart_linked {s s' : Scope} {channel channel' : Channel} {f f' : Frame}
    {site site' : Site} (hs : L.Begins s s' channel channel' f f' site site') :
    L.Alike L.Tasks (@watchStart H L.left s channel f site)
      (@watchStart H L.right s' channel' f' site') :=
  fun w w' hw => L.bind (World.watchNow_linked hL hs.now w w' hw) fun _ _ hxy =>
    L.pure ⟨started_linked hL hs hxy.1, hxy.2⟩

theorem watchBody_linked {x y : CustomBlock} (hblocks : L.blocks x y) {f f' : Frame}
    (hf : L.frames x y f f') (i child : Nat) :
    L.Alike L.Tasks (@watchBody H L.left x i f child) (@watchBody H L.right y i f' child) := by
  intro w w' hw
  have hbody := hL.body i child hblocks hf
  unfold watchBody
  generalize x.bodies[i]? = body at hbody ⊢
  generalize y.bodies[i]? = body' at hbody ⊢
  cases hbody with
  | none => exact L.pure ⟨.finished hL.ok, hw⟩
  | some hs => exact watchStart_linked hL hs w w' hw

/-! ## Steps -/

/-- Turns that do the same lead to the same, if polls of bodies do. -/
theorem watchTurn_linked {watchLeft watchRight : Task H → World H → Watched (Polled H)}
    (hchild : ∀ t t' w w', L.Tasks t t' → L.worlds w w' →
      L.holds L.Polls (watchLeft t w) (watchRight t' w'))
    {x y : CustomBlock} (hblocks : L.blocks x y) {turn turn' : Turn H.Helper}
    (hturn : Turn.Linked L.outcomes (L.helpers x y) (L.frames x y) turn turn')
    {children children' : List (Task H)} (hchildren : List.Forall₂ L.Tasks children children')
    (woken : Bool) {w w' : World H} (hw : L.worlds w w') :
    L.holds (L.Turns x y) (@watchTurn H L.left watchLeft x turn children woken w)
      (@watchTurn H L.right watchRight y turn' children' woken w') := by
  -- on the instructions of the two turns
  induction hturn generalizing children children' woken w w' with
  | finish h => exact L.pure ⟨.inr h, hchildren, rfl, hw⟩
  | wait woken' hh => exact L.pure ⟨.inl hh, hchildren, rfl, hw⟩
  | write text _ ih =>
    exact L.bind (World.watchNow_linked hL (hL.write text hblocks) w w' hw)
      fun r r' hr => ih _ _ hr.1 hchildren woken hr.2
  | halt _ ih => exact L.bind (hL.halt w w' hw) fun r r' hr => ih hchildren woken hr.2
  | isHalted _ ih =>
    refine L.bind (hL.isHalted w w' hw) ?_
    rintro ⟨b, w₁⟩ ⟨_, w₁'⟩ ⟨rfl, hw₁⟩
    exact ih b hchildren woken hw₁
  | start i hf _ ih =>
    unfold watchTurn
    -- the new body gets the same number on both sides
    rw [← hchildren.length_eq]
    refine L.bind (watchBody_linked hL hblocks hf i children.length w w' hw) fun r r' hr => ?_
    exact ih _ (List.rel_append hchildren (.cons hr.1 .nil)) woken hr.2
  | poll i _ ih =>
    have hith := forall₂_getElem? hchildren i
    unfold watchTurn
    generalize children[i]? = child at hith ⊢
    generalize children'[i]? = child' at hith ⊢
    cases hith with
    | none => exact ih _ _ (.some hL.ok) hchildren woken hw
    | some hith =>
      refine L.bind (hchild _ _ _ _ hith hw) fun p p' hp => ?_
      rw [hp.woken]
      exact ih _ _ hp.task.outcome? (forall₂_set hchildren i hp.task) _ hp.world

/-- Requests that stand for one another are a step for both tasks. -/
theorem watchStep_ask_linked {watchLeft watchRight : Task H → World H → Watched (Polled H)}
    {q q' : Request} {A : q.Answer → q'.Answer → Prop} (hq : L.asks q q' A)
    {k : q.Answer → Action Unit} {k' : q'.Answer → Action Unit}
    (hk : ∀ a a', A a a' → L.Actions (k a) (k' a')) {returns returns' : Returns}
    (hreturns : L.Returns returns returns') {w w' : World H} (hw : L.worlds w w') :
    L.holds L.Steps (@watchStep H L.left watchLeft (running (.ask q k) returns) w)
      (@watchStep H L.right watchRight (running (.ask q' k') returns') w') := by
  -- by the kinds of requests: those answered at once, calls, custom blocks and bodies
  cases hL.asks hq with
  | instant hinstant hinstant' hanswer =>
    rw [@watchStep_ask H L.left _ hinstant, @watchStep_ask H L.right _ hinstant']
    exact L.bind (hanswer w w' hw) fun x y hxy =>
      L.pure (.inl ⟨.running (hk _ _ hxy.1) hreturns, hxy.2⟩)
  | call hcall hA =>
    unfold watchStep
    refine L.bind (hcall w w' hw) ?_
    rintro ⟨r, w₁⟩ ⟨r', w₁'⟩ ⟨hr, hw₁⟩
    cases hr with
    | ready hr => exact L.pure (.inl ⟨.running (hk _ _ (hA _ _ hr)) hreturns, hw₁⟩)
    | pending woken hd =>
      exact L.pure (.inl ⟨.calling hd (fun r r' hr => hk _ _ (hA r r' hr)) hreturns, hw₁⟩)
  | custom hblocks hhelp hwrite hA =>
    have hcons : L.Returns (k :: returns) (k' :: returns') :=
      .cons (fun o o' ho => hk _ _ (hA o o' ho)) hreturns
    unfold watchStep
    refine L.bind (hhelp w w' hw) ?_
    rintro ⟨x, w₁⟩ ⟨y, w₁'⟩ ⟨hxy, hw₁⟩
    cases hxy with
    | none => exact L.pure (.inl ⟨.running hwrite hcons, hw₁⟩)
    | some hh => exact L.pure (.inl ⟨.helping hh hblocks .nil hcons, hw₁⟩)
  | enter hasked hrun hA =>
    have hcons : L.Returns (k :: returns) (k' :: returns') :=
      .cons (fun o o' ho => hk _ _ (hA o o' ho)) hreturns
    exact L.bind hasked fun _ _ _ => L.pure (.inl ⟨.running hrun hcons, hw⟩)

/-- Tasks that go on in the same way do so after a step, if polls of bodies lead to the same. -/
theorem watchStep_linked {watchLeft watchRight : Task H → World H → Watched (Polled H)}
    (hchild : ∀ t t' w w', L.Tasks t t' → L.worlds w w' →
      L.holds L.Polls (watchLeft t w) (watchRight t' w'))
    {t t' : Task H} (ht : L.Tasks t t') {w w' : World H} (hw : L.worlds w w') :
    L.holds L.Steps (@watchStep H L.left watchLeft t w) (@watchStep H L.right watchRight t' w') := by
  -- by the state of the two tasks; a finished one has nothing left to poll
  cases ht with
  | finished h => exact L.pure (.inr ⟨.finished h, rfl, hw⟩)
  | running h hreturns =>
    cases h with
    | ask hq hk => exact watchStep_ask_linked hL hq hk hreturns hw
    | done h =>
      cases hreturns with
      | nil => exact L.pure (.inr ⟨.finished h, rfl, hw⟩)
      | cons hk hreturns => exact L.pure (.inl ⟨.running (hk _ _ h) hreturns, hw⟩)
  | calling hd hk hreturns =>
    unfold watchStep
    refine L.bind (hL.poll hd w w' hw) ?_
    rintro ⟨r, w₁⟩ ⟨r', w₁'⟩ ⟨hr, hw₁⟩
    cases hr with
    | ready hr => exact L.pure (.inl ⟨.running (hk _ _ hr) hreturns, hw₁⟩)
    | pending woken hd => exact L.pure (.inr ⟨.calling hd hk hreturns, rfl, hw₁⟩)
  | helping hh hblocks hchildren hreturns =>
    obtain ⟨hturn, hw₁⟩ := hL.turn hh hw
    refine L.bind (watchTurn_linked hL hchild hblocks hturn hchildren false hw₁) ?_
    rintro ⟨x, children₂, woken, w₂⟩ ⟨y, children₂', _, w₂'⟩ ⟨hxy, hchildren₂, rfl, hw₂⟩
    cases hxy with
    | inl hh => exact L.pure (.inr ⟨.helping hh hblocks hchildren₂ hreturns, rfl, hw₂⟩)
    | inr ho => exact L.pure (.inl ⟨.running (.done ho) hreturns, hw₂⟩)

/-! ## Polls, runs and renders -/

/-- **A poll of two linked tasks** shows what the link allows, and leaves them linked. -/
theorem watch_linked (n : Nat) {t t' : Task H} (ht : L.Tasks t t') {w w' : World H}
    (hw : L.worlds w w') : L.holds L.Polls (@watch H L.left n t w) (@watch H L.right n t' w') := by
  induction n generalizing t t' w w' with
  | zero => exact L.stuck
  | succ n ih =>
    refine L.bind (watchStep_linked hL (fun _ _ _ _ ht hw => ih ht hw) ht hw) ?_
    rintro (⟨t₁, w₁⟩ | p) (⟨t₁', w₁'⟩ | p') (⟨ht₁, hw₁⟩ | hp)
    · exact ih ht₁ hw₁
    · exact L.pure hp

/-- **So does a whole run**, if the deadline ends both alike. -/
theorem watchRun_linked (hcloses : L.Closes) (deadline : Option Deadline) (n : Nat)
    {t t' : Task H} (ht : L.Tasks t t') {w w' : World H} (hw : L.worlds w w') :
    L.holds (L.After L.outcomes) (@watchRun H L.left deadline n t w)
      (@watchRun H L.right deadline n t' w') := by
  -- on the number of polls
  induction n generalizing deadline t t' w w' with
  | zero => exact L.stuck
  | succ n ih =>
    refine L.bind (watch_linked hL n ht hw) ?_
    rintro ⟨t₁, woken, w₁⟩ ⟨t₁', _, w₁'⟩ ⟨ht₁, rfl, hw₁⟩
    have houtcome := ht₁.outcome?
    dsimp only
    generalize t₁.outcome? = o at houtcome ⊢
    generalize t₁'.outcome? = o' at houtcome ⊢
    cases houtcome with
    | some ho => exact L.pure ⟨ho, hw₁⟩
    | none =>
      -- both are polled again, or have come to their deadline
      dsimp only
      split
      · exact ih _ ht₁ hw₁
      · cases deadline with
        | none => exact L.stuck
        | some d => exact L.pure ⟨hcloses.timeout d.milliseconds, hcloses.halted hw₁⟩

end Task

/-- Scopes that begin in the same way are rendered side by side. -/
theorem World.watch_linked (hcloses : L.Closes) (fuel : Nat) (deadline : Option Deadline)
    {s s' : Scope} {f f' : Frame} (hs : L.Begins s s' [] [] f f' (.start 0) (.start 0)) :
    L.Alike L.outcomes (@World.watch H L.left fuel deadline s f)
      (@World.watch H L.right fuel deadline s' f') := by
  intro w w' hw
  refine L.bind (Task.watchStart_linked hL hs w w' hw) fun t t' ht => ?_
  refine L.bind (Task.watchRun_linked hL hcloses deadline fuel ht.1 ht.2) ?_
  rintro ⟨o, w₁⟩ ⟨o', w₁'⟩ ⟨ho, hw₁⟩
  have hsucceed := hL.succeed ho
  cases o with
  | ok u =>
    cases hsucceed.1 rfl
    exact hcloses.flush w₁ w₁' hw₁
  | error e =>
    cases o' with
    | ok u => cases hsucceed.2 rfl
    | error e' => exact L.pure ⟨ho, hw₁⟩

end Linked

end Stencil
