import Stencil.Environment.Basic
import Stencil.Proofs.Program.Instant
import Stencil.Proofs.Task.Fuel

/-!
# Stencil.Proofs.Task.Start — a started scope is a scope that runs

Starting a scope runs its front at once and leaves the chain for later. The front never
waits, so a scope can always be started, and the task that is left comes to what the whole scope
comes to when it is run from its first step (`Task.start_spec`).
-/

namespace Stencil

namespace World

variable {H : Host} {α : Type}

/-- A request that is answered without waiting has an answer in every world. -/
theorem exists_answer {q : Request} (h : q.isInstant = true) (w : World H) :
    ∃ a w', w.answer? q = some (a, w') := by
  cases q with
  | call | custom | enter => cases h
  | write | isHalted | halt | modify | declare | resolve | template => exact ⟨_, _, rfl⟩

/-- A program that never waits can be run at once. -/
theorem exists_runNow {p : Program α} (h : p.Instant) (w : World H) :
    ∃ a w', w.runNow p = some (a, w') := by
  induction p generalizing w with
  | done a => exact ⟨a, w, rfl⟩
  | ask q k ih =>
    obtain ⟨a, w', hq⟩ := exists_answer h.1 w
    rw [runNow, hq]
    exact ih a (h.2 a trivial) w'

end World

namespace Task

variable {H : Host} [Evaluator]

/-- What a task comes to, however many steps it takes. -/
def Ends (deadline : Option Deadline) (t : Task H) (w : World H) (r : Outcome × World H) : Prop :=
  ∃ n, run deadline n t w = some r

/-- A program that was run at once takes some steps when it is polled. -/
theorem poll_bind {p : Program Outcome} {w w' : World H} {r : Outcome}
    (h : w.runNow p = some (r, w')) (f : Outcome → Action Unit) (returns : Returns) :
    ∃ k, ∀ n, poll (n + k) (running (Program.bind p f) returns) w =
      poll n (running (f r) returns) w' := by
  induction p generalizing w with
  | done r' =>
    cases h
    exact ⟨0, fun n => rfl⟩
  | ask q k ih =>
    rw [World.runNow] at h
    split at h
    · next a w₁ hq =>
      obtain ⟨m, hm⟩ := ih a h
      refine ⟨m + 1, fun n => ?_⟩
      rw [← hm n]
      exact poll_ask hq (n + m) _ returns
    · cases h

/-- Tasks that come to the same when they are polled come to the same in the end. -/
theorem ends_iff_of_poll {deadline : Option Deadline} {t t' : Task H} {w w' : World H}
    (h : ∃ k, ∀ n, poll (n + k) t w = poll n t' w') (r : Outcome × World H) :
    Ends deadline t w r ↔ Ends deadline t' w' r := by
  obtain ⟨k, hk⟩ := h
  -- a first poll of each that has led to the same
  have hsame : ∀ {n m : Nat} {s s' : Task H} {v v' : World H}, n ≤ m →
      (∀ p, poll n s v = some p → poll m s' v' = some p) →
      run deadline (n + 1) s v = some r → run deadline (m + 1) s' v' = some r := by
    intro n m s s' v v' hnm hpoll hrun
    obtain ⟨t₁, woken, w₁, hp, ⟨rfl, rfl⟩ | ⟨ho, hrest⟩⟩ := run_cases hrun
    · exact run_of_outcome rfl (hpoll _ hp)
    · rw [run_of_unfinished ho (hpoll _ hp)]
      obtain ⟨hpermits, hrun⟩ | ⟨hpermits, hexpire⟩ := hrest
      · exact (if_pos hpermits).trans (run_le hnm hrun)
      · rw [hpermits]
        exact hexpire
  constructor
  · rintro ⟨n, hn⟩
    cases n with
    | zero => cases hn
    | succ n =>
      refine ⟨n + 1, hsame (Nat.le_refl n) (fun p hp => ?_) hn⟩
      rw [← hk n]
      exact poll_le (Nat.le_add_right n k) hp
  · rintro ⟨n, hn⟩
    cases n with
    | zero => cases hn
    | succ n => exact ⟨n + k + 1, hsame (Nat.le_add_right n k) (fun p hp => (hk n).trans hp) hn⟩

/-- A task that is finished and one that has nothing left to do come to the same. -/
theorem ends_finished_iff {deadline : Option Deadline} {o : Outcome} {w : World H}
    (r : Outcome × World H) :
    Ends deadline (finished o) w r ↔ Ends deadline (running (.done o) []) w r :=
  ends_iff_of_poll ⟨0, fun n => by cases n <;> rfl⟩ r

/-- What is left of a scope when its front has run. -/
def started (scope : Scope) (channel : Channel) (frame : Frame) (site : Site) : Outcome → Task H
  | .error e => finished (.error e)
  | .ok () =>
    match scope.later with
    | [] => finished (.ok ())
    | later => running (runSteps channel frame site scope.now.length later) []

/-- Starting a scope runs the steps before the first one that may have to wait, and leaves those
from there on. -/
theorem start_eq (scope : Scope) (channel : Channel) (frame : Frame) (site : Site)
    (w : World H) :
    start scope channel frame site w =
      (w.runNow (runSteps channel frame site 0 scope.now)).map fun r =>
        (started scope channel frame site r.1, r.2) := by
  have hasync : scope.layout.isAsync = !scope.later.isEmpty := by
    rw [scope.isEmpty_later]
    exact scope.isAsync_eq
  unfold start
  dsimp only
  rw [scope.runFront_layout, scope.runChain_layout, hasync]
  cases w.runNow (runSteps channel frame site 0 scope.now) with
  | none => rfl
  | some r =>
    obtain ⟨o, w'⟩ := r
    cases o with
    | error e => rfl
    | ok u =>
      dsimp only [Option.map_some, started]
      cases scope.later <;> rfl

/-- A scope can always be started, and the task that is left comes to what running the whole
scope comes to. -/
theorem start_spec (scope : Scope) (channel : Channel) (frame : Frame) (site : Site)
    (w : World H) :
    ∃ t w', start scope channel frame site w = some (t, w') ∧
      ∀ deadline r, Ends deadline t w' r ↔
        Ends deadline (running (scope.run channel frame site) []) w r := by
  obtain ⟨steps⟩ := scope
  have hnow : stepsImmediate (Scope.now (.mk steps)) = true := by
    rw [Scope.stepsImmediate_eq_all]
    exact List.all_takeWhile
  have hinstant := instant_runSteps _ hnow channel frame site 0
  have hsplit : Scope.run channel frame site (.mk steps) =
      (runSteps channel frame site 0 (Scope.now (.mk steps)) >>= fun _ =>
        runSteps channel frame site (Scope.now (.mk steps)).length (Scope.later (.mk steps))) := by
    rw [Scope.run_mk, ← Nat.zero_add (Scope.now (.mk steps)).length, ← runSteps_append,
      Scope.now_append_later]
    rfl
  obtain ⟨o, w', ho⟩ := World.exists_runNow hinstant w
  -- what the front comes to decides whether there is anything left
  have hpoll := poll_bind ho (ExceptT.bindCont fun _ =>
    runSteps channel frame site (Scope.now (.mk steps)).length (Scope.later (.mk steps))) []
  refine ⟨started (.mk steps) channel frame site o, w', ?_, fun deadline r => ?_⟩
  · rw [start_eq, ho]
    rfl
  rw [hsplit]
  refine Iff.trans ?_ (ends_iff_of_poll hpoll r).symm
  cases o with
  | error e => exact ends_finished_iff r
  | ok u =>
    unfold started
    cases hlater : Scope.later (.mk steps) with
    | nil => exact ends_finished_iff r
    | cons s ss => exact Iff.rfl

end Task

/-! ## Renders -/

namespace World

variable {H : Host} [Evaluator]

/-- The end of a render: what was written has to arrive, unless the render has failed. -/
def conclude : Outcome × World H → Outcome × World H
  | (.ok (), w) => w.flush
  | (.error e, w) => (.error e, w)

/-- A render starts a scope, runs it and concludes. -/
theorem render_eq (fuel : Nat) (deadline : Option Deadline) (scope : Scope) (frame : Frame)
    (w : World H) :
    w.render fuel deadline scope frame =
      (Task.start scope [] frame (.start 0) w).bind fun started =>
        (Task.run deadline fuel started.1 started.2).map conclude := by
  unfold render
  cases Task.start scope [] frame (.start 0) w with
  | none => rfl
  | some started =>
    dsimp only [Option.bind_eq_bind, Option.bind_some]
    cases Task.run deadline fuel started.1 started.2 with
    | none => rfl
    | some r =>
      obtain ⟨o, w'⟩ := r
      cases o <;> rfl

end World

end Stencil
