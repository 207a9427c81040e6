import Stencil.Proofs.Program.Laws
import Stencil.Proofs.Task.Start

/-!
# Stencil.Proofs.Task.Result — where the outcome of a render comes from

Whatever a render waits for, and whatever scopes and helpers it runs in between, its outcome is in
the end a result of the program of its scope, unless the deadline has passed or what was written
has not arrived (`World.reaches_of_render`).
-/

namespace Stencil

namespace Program

variable {α β : Type}

/-- Whether the program comes to this result when its requests are answered suitably. -/
def Reaches : Program α → α → Prop
  | done a, b => a = b
  | ask _ k, b => ∃ answer, (k answer).Reaches b

/-- A sequence reaches what its second part reaches from what its first part does. -/
theorem reaches_bind_iff {p : Program α} {f : α → Program β} {b : β} :
    (p.bind f).Reaches b ↔ ∃ a, p.Reaches a ∧ (f a).Reaches b := by
  induction p with
  | done a => exact ⟨fun h => ⟨a, rfl, h⟩, fun ⟨_, h, hb⟩ => h ▸ hb⟩
  | ask q k ih =>
    constructor
    · rintro ⟨answer, h⟩
      obtain ⟨a, ha, hb⟩ := (ih answer).1 h
      exact ⟨a, ⟨answer, ha⟩, hb⟩
    · rintro ⟨a, ⟨answer, ha⟩, hb⟩
      exact ⟨answer, (ih answer).2 ⟨a, ha, hb⟩⟩

/-- What is so of every result is so of the one that is reached. -/
theorem Always.of_reaches {P : α → Prop} {p : Program α} (h : p.Always P) {a : α}
    (ha : p.Reaches a) : P a := by
  induction p with
  | done b => exact ha ▸ h
  | ask q k ih =>
    obtain ⟨answer, ha⟩ := ha
    exact ih answer (h answer) ha

/-- A program always comes to what it reaches. -/
theorem always_reaches (p : Program α) : p.Always p.Reaches := by
  induction p with
  | done a => exact rfl
  | ask q k ih => exact fun answer => (ih answer).mono fun _ h => ⟨answer, h⟩

end Program

/-! ## Tasks -/

/-- Whether an action, with what is to be done with its outcome behind it, comes only to outcomes
like this. -/
def Returns.ComeTo (P : Outcome → Prop) : Action Unit → Returns → Prop
  | action, [] => Program.Always P action
  | _, k :: returns => ∀ r, Returns.ComeTo P (k r) returns

/-- That does not depend on what is answered. -/
theorem Returns.ComeTo.answer {P : Outcome → Prop} {q : Request} {k : q.Answer → Action Unit}
    {returns : Returns} (h : Returns.ComeTo P (Program.ask q k) returns) (a : q.Answer) :
    Returns.ComeTo P (k a) returns := by
  cases returns with
  | nil => exact h a
  | cons k' returns => exact h

namespace Task

variable {H : Host}

/-- Whether a task comes only to outcomes like this. -/
def ComesTo (P : Outcome → Prop) : Task H → Prop
  | finished r => P r
  | running action returns => Returns.ComeTo P action returns
  | calling _ k returns => ∀ r, Returns.ComeTo P (k r) returns
  | helping _ _ _ returns => ∀ r, Returns.ComeTo P (Program.done r) returns

variable [Evaluator]

/-- A poll leaves a task that comes only to outcomes like this. What a helper does with its bodies
does not matter to that: its outcome goes to what is at the bottom of the stack like any other. -/
theorem comesTo_poll {P : Outcome → Prop} (n : Nat) {t : Task H} (ht : t.ComesTo P) {w : World H}
    {p : Polled H} (h : poll n t w = some p) : p.task.ComesTo P := by
  -- on the steps of the poll
  induction n generalizing t w with
  | zero => cases h
  | succ n ih =>
    have hrunning : ∀ {action : Action Unit} (returns : Returns) {w : World H},
        Returns.ComeTo P action returns → poll n (running action returns) w = some p →
          p.task.ComesTo P := fun returns _ hcome h => ih (t := .running _ returns) hcome h
    -- a step of the task leads to one from which no more can be reached
    cases t with
    | finished r =>
      cases h
      exact ht
    | running action returns =>
      cases action with
      | done r =>
        cases returns with
        | nil =>
          cases h
          exact ht
        | cons k returns => exact hrunning _ (ht r) h
      | ask q k =>
        by_cases hinstant : q.isInstant = true
        · obtain ⟨a, w', hq⟩ := World.exists_answer hinstant w
          rw [poll_ask hq] at h
          exact hrunning _ (ht.answer a) h
        · cases q with
          | write | isHalted | halt | modify | declare | resolve | template =>
            exact absurd rfl hinstant
          | call f frame args =>
            rw [poll] at h
            split at h
            · exact hrunning _ (ht.answer _) h
            · exact ih (t := .calling _ k returns) ht.answer h
          | custom f block =>
            rw [poll] at h
            split at h
            · exact ih (t := .helping _ block [] (k :: returns)) (fun _ => ht.answer) h
            · exact hrunning (k :: returns) ht.answer h
          | enter body channel frame site => exact hrunning (k :: returns) ht.answer h
    | calling d k returns =>
      rw [poll] at h
      split at h
      · exact hrunning _ (ht _) h
      · cases h
        exact ht
    | helping h' block children returns =>
      rw [poll] at h
      dsimp only at h
      split at h
      · cases h
      · cases h
        exact ht
      · exact hrunning _ (ht _) h

/-- So a run of a task comes to such an outcome, or to the deadline. -/
theorem comesTo_run {P : Outcome → Prop} {deadline : Option Deadline} (n : Nat) {t : Task H}
    (ht : t.ComesTo P) {w w' : World H} {o : Outcome} (h : run deadline n t w = some (o, w')) :
    P o ∨ ∃ milliseconds, deadline.map Deadline.milliseconds = some milliseconds ∧
      o = .error (.timeout milliseconds) := by
  induction n generalizing deadline t w with
  | zero => cases h
  | succ n ih =>
    obtain ⟨t', woken, w₁, hp, ⟨rfl, -⟩ | ⟨-, ⟨-, hrun⟩ | ⟨-, hexpire⟩⟩⟩ := run_cases h
    · exact .inl (comesTo_poll n ht hp)
    · have hrest := ih (comesTo_poll n ht hp) hrun
      rwa [Deadline.milliseconds_map_next] at hrest
    · obtain ⟨milliseconds, hdeadline, hx⟩ := expire_eq_some_iff.1 hexpire
      exact .inr ⟨milliseconds, hdeadline, congrArg Prod.fst hx⟩

end Task

/-! ## Renders -/

/-- The error of a render is the deadline, or the sink's last word, or what the program of its scope
comes to. -/
theorem World.reaches_of_render [Evaluator] {H : Host} {fuel : Nat} {deadline : Option Deadline}
    {scope : Scope} {frame : Frame} {w w' : World H} {e : RenderError}
    (h : w.render fuel deadline scope frame = some (.error e, w')) :
    (∃ milliseconds, deadline.map Deadline.milliseconds = some milliseconds ∧
        e = .timeout milliseconds) ∨
      (∃ w₁ : World H, w₁.flush = (.error e, w')) ∨
      Program.Reaches (scope.run [] frame (.start 0)) (.error e) := by
  obtain ⟨t, w₀, hstart, hends⟩ := Task.start_spec scope [] frame (.start 0) w
  rw [render_eq, hstart] at h
  obtain ⟨⟨o, w₁⟩, hrun, hconclude⟩ := Option.map_eq_some_iff.1 h
  obtain ⟨n, hrun⟩ := (hends deadline (o, w₁)).1 ⟨fuel, hrun⟩
  cases o with
  | ok u => exact .inr (.inl ⟨w₁, hconclude⟩)
  | error e' =>
    cases hconclude
    obtain hreaches | ⟨milliseconds, hdeadline, he⟩ :=
      Task.comesTo_run n (t := .running _ []) (Program.always_reaches _) hrun
    · exact .inr (.inr hreaches)
    · cases he
      exact .inl ⟨milliseconds, hdeadline, rfl⟩

end Stencil
