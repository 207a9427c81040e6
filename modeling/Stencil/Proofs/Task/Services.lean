import Stencil.Environment.Basic

/-!
# Stencil.Proofs.Task.Services — functions that take their time

Services are a sink, functions and helpers, without a word on how long anything takes: a call
gives a future, and a future has a result. The helpers await one thing at a time (`Script`): they
may start as many bodies as they like, but drive each to its end before they do anything else.

How long things take is told apart from that, by `Delays`: for each thing that is awaited, in the
order in which they are, the number of polls for which it stays pending. `Services.host` is the
host that offers the services at such a pace, and keeps a log of what they are asked for.
-/

namespace Stencil

/-! ## Helpers that await one thing at a time -/

/-- What a helper does. It learns what a body has come to, but not how often it was polled. -/
inductive Script (Helper : Type) : Type where
  /-- The helper is through. -/
  | finish (r : Outcome)
  /-- Awaits something other than a body, and goes on as the helper that it has become. -/
  | rest (h : Helper)
  | write (text : String) (k : Outcome → Script Helper)
  | halt (k : Script Helper)
  | isHalted (k : Bool → Script Helper)
  /-- Starts a body with this number; the answer is the number of the started body. -/
  | start (body : Nat) (frame : Frame) (k : Nat → Script Helper)
  /-- Polls a started body until it is through. -/
  | await (child : Nat) (k : Outcome → Script Helper)

/-- A helper that waits. -/
inductive Suspended (Helper : Type) : Type where
  | resting (h : Helper)
  | awaiting (child : Nat) (k : Outcome → Script Helper)

/-- The turn in which a helper does as much of this as it can. -/
def Script.turn {Helper : Type} : Script Helper → Turn (Suspended Helper)
  | finish r => .finish r
  | rest h => .wait true (.resting h)
  | write text k => .write text fun r => (k r).turn
  | halt k => .halt k.turn
  | isHalted k => .isHalted fun b => (k b).turn
  | start i frame k => .start i frame fun child => (k child).turn
  | await child k => .poll child fun
    | some r => (k r).turn
    | none => .wait true (.awaiting child k)

/-! ## Services -/

/-- What a host offers, however long it takes. -/
structure Services where
  State : Type
  /-- A result that is to come. -/
  Future : Type
  Helper : Type
  /-- Hands a text that is not empty to the sink. -/
  write : String → State → Outcome × State
  /-- Makes sure that what was written has arrived. -/
  flush : State → Outcome × State
  /-- Calls a function. -/
  call : Nat → Frame → List Value → State → Future × State
  /-- The result, when it is there. -/
  result : Future → State → Except RenderError Value × State
  /-- Hands a block with so many bodies to a function. -/
  help : Nat → Frame → Nat → State → Option Helper × State
  /-- What a helper does when it need not wait. -/
  script : Helper → State → Script Helper × State

/-- What services have been asked for. -/
inductive Deed where
  | wrote (text : String)
  | called (f : Nat) (frame : Frame) (args : List Value)
  | handed (f : Nat) (frame : Frame) (bodies : Nat)

/-! ## Delays -/

/-- For how many polls each thing stays pending that is awaited from now on. -/
abbrev Delays := Nat → Nat

/-- A poll of what is awaited now: whether it is there, and the delays from then on. -/
def Delays.tick (delays : Delays) : Bool × Delays :=
  match delays 0 with
  | 0 => (true, fun i => delays (i + 1))
  | n + 1 => (false, fun | 0 => n | i + 1 => delays (i + 1))

/-- What awaits something ends, if it does when the thing is there, and each poll before brings
that closer. -/
theorem Delays.wait {P : Delays → Prop} (hready : ∀ delays, delays.tick.1 = true → P delays)
    (hpending : ∀ delays, delays.tick.1 = false → P delays.tick.2 → P delays) :
    ∀ delays, P delays := by
  intro delays
  generalize hn : delays 0 = n
  induction n generalizing delays with
  | zero => exact hready delays (by rw [tick, hn])
  | succ n ih => exact hpending delays (by rw [tick, hn]) (ih _ (by rw [tick, hn]))

/-- A poll of a helper: whether it can go on, and the delays from then on. A body that is awaited
is polled itself. -/
def Suspended.tick {Helper : Type} : Suspended Helper → Delays → Bool × Delays
  | resting _, delays => delays.tick
  | awaiting .., delays => (true, delays)

/-- The state of services with the log and the delays of their host. -/
structure Paced (State : Type) where
  own : State
  log : List Deed
  delays : Delays

namespace Services

variable (S : Services)

/-- Calls a function. -/
def called (f : Nat) (frame : Frame) (args : List Value) (s : Paced S.State) :
    S.Future × Paced S.State :=
  let (d, own) := S.call f frame args s.own
  (d, { s with own, log := s.log ++ [.called f frame args] })

/-- The result of a call. -/
def completed (d : S.Future) (s : Paced S.State) : Except RenderError Value × Paced S.State :=
  let (r, own) := S.result d s.own
  (r, { s with own })

/-- Polls the result of a call. -/
def poll (d : S.Future) (s : Paced S.State) : Progressed S.Future × Paced S.State :=
  match s.delays.tick with
  | (true, delays) =>
    let (r, s) := S.completed d { s with delays }
    (.ready r, s)
  | (false, delays) => (.pending true d, { s with delays })

/-- Hands a block with so many bodies to a function. -/
def handed (f : Nat) (frame : Frame) (bodies : Nat) (s : Paced S.State) :
    Option (Suspended S.Helper) × Paced S.State :=
  let (h, own) := S.help f frame bodies s.own
  (h.map .resting, { s with own, log := s.log ++ [.handed f frame bodies] })

/-- What a helper goes on with. -/
def proceed : Suspended S.Helper → S.State → Script S.Helper × S.State
  | .resting h, own => S.script h own
  | .awaiting child k, own => (.await child k, own)

/-- What a helper does when it need not wait for anything of its own. -/
def resume (h : Suspended S.Helper) (s : Paced S.State) : Script S.Helper × Paced S.State :=
  let (script, own) := S.proceed h s.own
  (script, { s with own })

/-- Gives a helper its turn. -/
def turn (h : Suspended S.Helper) (s : Paced S.State) :
    Turn (Suspended S.Helper) × Paced S.State :=
  match h.tick s.delays with
  | (true, delays) =>
    let (script, s) := S.resume h { s with delays }
    (script.turn, s)
  | (false, delays) => (.wait true h, { s with delays })

section Tick

variable {S} {s : Paced S.State}

/-- A future whose delay is over is ready. -/
theorem poll_ready {d : S.Future} (h : s.delays.tick.1 = true) :
    S.poll d s =
      (.ready (S.completed d s).1, { (S.completed d s).2 with delays := s.delays.tick.2 }) := by
  unfold poll
  generalize s.delays.tick = ticked at h ⊢
  obtain ⟨ready, delays⟩ := ticked
  cases h
  rfl

/-- One whose delay is not over waits. -/
theorem poll_pending {d : S.Future} (h : s.delays.tick.1 = false) :
    S.poll d s = (.pending true d, { s with delays := s.delays.tick.2 }) := by
  unfold poll
  generalize s.delays.tick = ticked at h ⊢
  obtain ⟨ready, delays⟩ := ticked
  cases h
  rfl

/-- A helper whose delay is over resumes its script. -/
theorem turn_ready {h : Suspended S.Helper} (hready : (h.tick s.delays).1 = true) :
    S.turn h s =
      ((S.resume h s).1.turn, { (S.resume h s).2 with delays := (h.tick s.delays).2 }) := by
  unfold turn
  generalize h.tick s.delays = ticked at hready ⊢
  obtain ⟨ready, delays⟩ := ticked
  cases hready
  rfl

/-- One whose delay is not over rests. -/
theorem turn_pending {h : Suspended S.Helper} (hpending : (h.tick s.delays).1 = false) :
    S.turn h s = (.wait true h, { s with delays := (h.tick s.delays).2 }) := by
  unfold turn
  generalize h.tick s.delays = ticked at hpending ⊢
  obtain ⟨ready, delays⟩ := ticked
  cases hpending
  rfl

end Tick

/-- The host that offers these services. -/
@[reducible] def host : Host where
  State := Paced S.State
  Pending := S.Future
  Helper := Suspended S.Helper
  write text s :=
    let (r, own) := S.write text s.own
    (r, { s with own, log := s.log ++ [.wrote text] })
  flush s :=
    let (r, own) := S.flush s.own
    (r, { s with own })
  call f frame args s :=
    let (d, s) := S.called f frame args s
    S.poll d s
  poll := S.poll
  help := S.handed
  turn := S.turn

end Services

/-! ## The same world at another pace -/

namespace World

variable {S : Services}

/-- The world with these delays. -/
def paced (w : World S.host) (delays : Delays) : World S.host :=
  { w with host := { w.host with delays } }

/-- Writing takes no time. -/
theorem write_paced (w : World S.host) (d : Delays) (text : String) :
    (w.paced d).write text = ((w.write text).1, (w.write text).2.paced d) := by
  by_cases hhalted : w.halted = true
  · simp [write, paced, hhalted]
  by_cases hempty : text = ""
  · simp [write, paced, hhalted, hempty]
  · simp [write, paced, hhalted, hempty]

/-- The delays have no part in what is answered at once. -/
theorem answer_paced (w : World S.host) (d : Delays) (q : Request) :
    (w.paced d).answer? q = (w.answer? q).map fun p => (p.1, p.2.paced d) := by
  cases q with
  | write text => exact congrArg some (write_paced w d text)
  | isHalted | halt | modify | declare | resolve | template | call | custom | enter => rfl

/-- Neither does a program that is run at once. -/
theorem runNow_paced {α : Type} (p : Program α) (w : World S.host) (d : Delays) :
    (w.paced d).runNow p = (w.runNow p).map fun r => (r.1, r.2.paced d) := by
  induction p generalizing w with
  | done a => rfl
  | ask q k ih =>
    rw [runNow, runNow, answer_paced]
    cases w.answer? q with
    | none => rfl
    | some r => exact ih r.1 r.2

end World

/-- Nor does starting a body. -/
theorem Task.start_paced {S : Services} [Evaluator] (scope : Scope) (channel : Channel)
    (frame : Frame) (site : Site) (w : World S.host) (d : Delays) :
    start scope channel frame site (w.paced d) =
      (start scope channel frame site w).map fun r => (r.1, r.2.paced d) := by
  unfold start
  dsimp only
  rw [World.runNow_paced]
  cases w.runNow (scope.layout.runFront channel frame site) with
  | none => rfl
  | some r =>
    obtain ⟨o, w'⟩ := r
    cases o with
    | error e => rfl
    | ok u =>
      dsimp only [Option.map_some]
      split
      · rfl
      · rfl

end Stencil
