import Stencil.Task.Basic

/-!
# Stencil.Proofs.Task.Fuel — enough steps are enough

The bound on the number of steps only says how long one is prepared to wait: what comes of a
poll or of a run with some bound comes of it with every greater bound (`Task.poll_le`,
`Task.run_le`).
-/

namespace Stencil.Task

variable {H : Host} [Evaluator]

/-! ## Turns -/

/-- A body of a block, started, or what a helper gets that asks for one that is not there. -/
def startBody (block : CustomBlock) (i : Nat) (frame : Frame) (children : List (Task H))
    (w : World H) : Option (Task H × World H) :=
  match block.bodies[i]? with
  | some body => start body block.channel frame (.part block.site children.length) w
  | none => some (finished (.ok ()), w)

section Turns

variable {pollChild : Task H → World H → Option (Polled H)} {block : CustomBlock}
  {children : List (Task H)} {woken : Bool} {w : World H}

/-- A turn that starts a body goes on with the body among its children. -/
theorem takeTurn_start (i : Nat) (frame : Frame) (k : Nat → Turn H.Helper) :
    takeTurn pollChild block (.start i frame k) children woken w =
      (startBody block i frame children w).bind fun r =>
        takeTurn pollChild block (k children.length) (children ++ [r.1]) woken r.2 := by
  rw [takeTurn, startBody]
  cases block.bodies[i]? with
  | none => rfl
  | some body =>
    dsimp only
    cases start body block.channel frame (.part block.site children.length) w <;> rfl

/-- A turn that polls a body goes on with what became of it. -/
theorem takeTurn_poll {i : Nat} {child : Task H} (hchild : children[i]? = some child)
    (k : Option Outcome → Turn H.Helper) :
    takeTurn pollChild block (.poll i k) children woken w =
      (pollChild child w).bind fun p =>
        takeTurn pollChild block (k p.task.outcome?) (children.set i p.task) (woken || p.woken)
          p.world := by
  rw [takeTurn, hchild]
  dsimp only
  cases pollChild child w <;> rfl

end Turns

/-! ## Runs -/

omit [Evaluator] in
theorem eq_finished {t : Task H} {o : Outcome} (h : t.outcome? = some o) : t = finished o := by
  cases t with
  | finished r => exact congrArg finished (Option.some.inj h)
  | running | calling | helping => cases h

section Run

variable {deadline : Option Deadline} {n : Nat} {t t' : Task H} {w w' : World H} {woken : Bool}

/-- A run ends with a task that is through. -/
theorem run_of_outcome {o : Outcome} (ho : t'.outcome? = some o)
    (h : poll n t w = some ⟨t', woken, w'⟩) : run deadline (n + 1) t w = some (o, w') := by
  rw [run, h]
  dsimp only
  rw [ho]

/-- A run goes on with a task that has been woken in time, and with any other it is over. -/
theorem run_of_unfinished (ho : t'.outcome? = none) (h : poll n t w = some ⟨t', woken, w'⟩) :
    run deadline (n + 1) t w =
      if Deadline.permits deadline woken then run (deadline.map .next) n t' w'
      else expire deadline w' := by
  rw [run, h]
  dsimp only
  rw [ho]

/-- A run is through after a poll, or it goes on with what the poll has left, or is given up. -/
theorem run_cases {x : Outcome × World H} (h : run deadline (n + 1) t w = some x) :
    ∃ t' woken w', poll n t w = some ⟨t', woken, w'⟩ ∧
      (t' = finished x.1 ∧ x.2 = w' ∨
        t'.outcome? = none ∧
          (Deadline.permits deadline woken = true ∧ run (deadline.map .next) n t' w' = some x ∨
            Deadline.permits deadline woken = false ∧ expire deadline w' = some x)) := by
  cases hp : poll n t w with
  | none =>
    rw [run, hp] at h
    cases h
  | some p =>
    obtain ⟨t', woken, w'⟩ := p
    refine ⟨t', woken, w', rfl, ?_⟩
    cases ho : t'.outcome? with
    | some o =>
      rw [run_of_outcome ho hp] at h
      cases h
      exact .inl ⟨eq_finished ho, rfl⟩
    | none =>
      rw [run_of_unfinished ho hp] at h
      -- the deadline is looked at only once the task has been polled and waits
      cases hpermits : Deadline.permits deadline woken with
      | true => exact .inr ⟨rfl, .inl ⟨rfl, (if_pos hpermits).symm.trans h⟩⟩
      | false =>
        rw [hpermits] at h
        exact .inr ⟨rfl, .inr ⟨rfl, h⟩⟩

omit [Evaluator] in
/-- A run that is given up has a deadline, which is the error it comes to. -/
theorem expire_eq_some_iff {x : Outcome × World H} :
    expire deadline w = some x ↔
      ∃ milliseconds, deadline.map Deadline.milliseconds = some milliseconds ∧
        x = (.error (.timeout milliseconds), w.halt) := by
  cases deadline with
  | none => simp [expire]
  | some d => simp [expire, eq_comm]

/-- A run without a deadline is through after a poll, or goes on with what the poll has left. -/
theorem run_none_cases {x : Outcome × World H} (h : run none (n + 1) t w = some x) :
    (∃ woken, poll n t w = some ⟨finished x.1, woken, x.2⟩) ∨
      ∃ t' w', t'.outcome? = none ∧ poll n t w = some ⟨t', true, w'⟩ ∧
        run none n t' w' = some x := by
  obtain ⟨t', woken, w', hp, ⟨rfl, rfl⟩ | ⟨ho, ⟨hpermits, hrun⟩ | ⟨-, hexpire⟩⟩⟩ := run_cases h
  · exact .inl ⟨woken, hp⟩
  · cases woken with
    | true => exact .inr ⟨t', w', ho, hp, hrun⟩
    | false => cases hpermits
  · cases hexpire

end Run

/-! ## More steps -/

/-- A turn of a helper comes to the same with anything that polls bodies as far. -/
theorem takeTurn_mono {f g : Task H → World H → Option (Polled H)}
    (hfg : ∀ t w r, f t w = some r → g t w = some r) (block : CustomBlock)
    (turn : Turn H.Helper) {children : List (Task H)} {woken : Bool} {w : World H}
    {r : Turned H} (h : takeTurn f block turn children woken w = some r) :
    takeTurn g block turn children woken w = some r := by
  -- on the instructions of the turn; only those that start or poll a body may lack fuel
  induction turn generalizing children woken w with
  | finish o => exact h
  | wait woken' helper => exact h
  | write text k ih =>
    rw [takeTurn] at h ⊢
    split at h
    · cases h
    · exact ih _ h
  | halt k ih => exact ih h
  | isHalted k ih => exact ih _ h
  | start i frame k ih =>
    rw [takeTurn] at h ⊢
    split at h
    · cases h
    · exact ih _ h
  | poll i k ih =>
    rw [takeTurn] at h ⊢
    split at h
    · exact ih _ h
    · next child hchild =>
      split at h
      · cases h
      · next child' woken' w' hpoll =>
        rw [hfg _ _ _ hpoll]
        exact ih _ h

/-- A request that is answered at once takes one step. -/
theorem poll_ask {q : Request} {w w' : World H} {a : q.Answer} (h : w.answer? q = some (a, w'))
    (n : Nat) (k : q.Answer → Action Unit) (returns : Returns) :
    poll (n + 1) (running (.ask q k) returns) w = poll n (running (k a) returns) w' := by
  cases q with
  | call | custom | enter => cases h
  | write | isHalted | halt | modify | declare | resolve | template =>
    show (match World.answer? w _ with
      | some (a, w) => poll n (running (k a) returns) w
      | none => none) = _
    rw [h]

/-- One more step changes nothing that has come of a poll. -/
theorem poll_succ {n : Nat} {t : Task H} {w : World H} {r : Polled H}
    (h : poll n t w = some r) : poll (n + 1) t w = some r := by
  -- on the fuel: a poll of a helper polls its bodies with one less
  induction n generalizing t w r with
  | zero => cases h
  | succ n ih =>
    cases t with
    | finished o => exact h
    | running action returns =>
      cases action with
      | done o =>
        cases returns with
        | nil => exact h
        | cons k returns => exact ih h
      | ask q k =>
        cases q with
        | call f frame args =>
          rw [poll] at h ⊢
          split at h
          · exact ih h
          · exact ih h
        | custom f block =>
          rw [poll] at h ⊢
          split at h
          · exact ih h
          · exact ih h
        | enter body channel frame site => exact ih h
        | write | isHalted | halt | modify | declare | resolve | template =>
          rw [poll_ask rfl] at h ⊢
          exact ih h
    | calling d k returns =>
      rw [poll] at h ⊢
      split at h
      · exact ih h
      · exact h
    | helping helper block children returns =>
      rw [poll] at h ⊢
      dsimp only at h ⊢
      split at h
      · cases h
      · next hturn =>
        rw [takeTurn_mono (fun t w r => ih) block _ hturn]
        exact h
      · next hturn =>
        rw [takeTurn_mono (fun t w r => ih) block _ hturn]
        exact ih h

/-- More fuel changes nothing about a poll that had enough. -/
theorem poll_le {m n : Nat} (hmn : m ≤ n) {t : Task H} {w : World H} {r : Polled H}
    (h : poll m t w = some r) : poll n t w = some r := by
  induction hmn with
  | refl => exact h
  | step _ ih => exact poll_succ ih

/-- One more step changes nothing that has come of a run. -/
theorem run_succ {deadline : Option Deadline} {n : Nat} {t : Task H} {w : World H}
    {r : Outcome × World H} (h : run deadline n t w = some r) :
    run deadline (n + 1) t w = some r := by
  induction n generalizing deadline t w with
  | zero => cases h
  | succ n ih =>
    obtain ⟨t', woken, w', hp, ⟨rfl, rfl⟩ | ⟨ho, hrest⟩⟩ := run_cases h
    · exact run_of_outcome rfl (poll_succ hp)
    · rw [run_of_unfinished ho (poll_succ hp)]
      obtain ⟨hpermits, hrun⟩ | ⟨hpermits, hexpire⟩ := hrest
      · exact (if_pos hpermits).trans (ih hrun)
      · rw [hpermits]
        exact hexpire

theorem run_le {deadline : Option Deadline} {m n : Nat} (hmn : m ≤ n) {t : Task H} {w : World H}
    {r : Outcome × World H} (h : run deadline m t w = some r) : run deadline n t w = some r := by
  induction hmn with
  | refl => exact h
  | step _ ih => exact run_succ ih

end Stencil.Task
