import Stencil.Proofs.Task.Settle

/-!
# Stencil.Proofs.Task.Followed — tasks that something follows

What follows a task is begun when the task has come to its end, and not before. As long as the task
is not through, a poll does what it does when nothing follows; the poll in which the task comes to
its end goes on with what follows, in the steps that are left (`Task.precedes`).
-/

namespace Stencil

/-! ## What follows a task -/

/-- What is to be done with outcomes, and something with the last of them. -/
def Returns.followed (f : Outcome → Action Unit) : Returns → Returns
  | [] => []
  | [k] => [fun o => Program.bind (k o) f]
  | k :: k' :: returns => k :: followed f (k' :: returns)

section Followed

variable {H : Host}

/-- The task, and something that is done with its outcome. -/
def Task.followed (f : Outcome → Action Unit) : Task H → Task H
  | finished o => running (f o) []
  | running action [] => running (Program.bind action f) []
  | running action (k :: returns) => running action (Returns.followed f (k :: returns))
  | calling d k [] => calling d (fun r => Program.bind (k r) f) []
  | calling d k (k' :: returns) => calling d k (Returns.followed f (k' :: returns))
  | helping h block children [] => helping h block children [f]
  | helping h block children (k :: returns) =>
    helping h block children (Returns.followed f (k :: returns))

/-- A task that is followed by another has no outcome of its own. -/
theorem Task.outcome?_followed (f : Outcome → Action Unit) (t : Task H) :
    (t.followed f).outcome? = none := by
  cases t with
  | finished o => rfl
  | running action returns => cases returns <;> rfl
  | calling d k returns => cases returns <;> rfl
  | helping h block children returns => cases returns <;> rfl

variable [Evaluator]

namespace Task

/-- What comes of a poll, when something follows that is given so many steps. -/
def goOn (f : Outcome → Action Unit) (m : Nat) (p : Polled H) : Watched (Polled H) :=
  match p.task.outcome? with
  | some o => watch m (running (f o) []) p.world
  | none => .pure ⟨p.task.followed f, p.woken, p.world⟩

/-- What follows a finished task is begun in the same poll. -/
theorem goOn_of_outcome {f : Outcome → Action Unit} {p : Polled H} {o : Outcome}
    (ho : p.task.outcome? = some o) (m : Nat) :
    goOn f m p = watch m (running (f o) []) p.world := by
  unfold goOn
  rw [ho]

/-- What follows one that waits is kept behind it. -/
theorem goOn_of_none {f : Outcome → Action Unit} {p : Polled H} (ho : p.task.outcome? = none)
    (m : Nat) : goOn f m p = .pure ⟨p.task.followed f, p.woken, p.world⟩ := by
  unfold goOn
  rw [ho]

/-- Whether a poll in `n` steps does what it does when nothing follows the task, and then what
follows, with at least `j` of these steps left. -/
def Precedes (f : Outcome → Action Unit) (j n : Nat) (t : Task H) (w : World H) : Prop :=
  ∃ m, j ≤ m ∧ watch n (t.followed f) w = (watch n t w).bind (goOn f m)

section Steps

variable {f : Outcome → Action Unit} {j n : Nat} {t : Task H} {w : World H}

/-- A task that has finished comes before what follows it. -/
theorem Precedes.of_finished {o : Outcome} (hj : j ≤ n)
    (ht : watch n t w = .pure ⟨.finished o, false, w⟩)
    (hf : t.followed f = running (f o) []) : Precedes f j n t w := by
  refine ⟨n, hj, ?_⟩
  rw [ht, hf]
  rfl

theorem Precedes.of_waits {p : Polled H} (hp : p.task.outcome? = none)
    (ht : watch n t w = .pure p)
    (hf : watch n (t.followed f) w = .pure ⟨p.task.followed f, p.woken, p.world⟩) :
    Precedes f j n t w := by
  refine ⟨j, le_rfl, ?_⟩
  rw [ht, hf, ← goOn_of_none hp j]
  rfl

/-- What comes first comes first whether something follows or not. -/
theorem exists_bind_goOn {α : Type} {x : Watched α} {g g' : α → Watched (Polled H)}
    (h : ∀ a, x.result = some a → ∃ m, j ≤ m ∧ g' a = (g a).bind (goOn f m)) :
    ∃ m, j ≤ m ∧ x.bind g' = (x.bind g).bind (goOn f m) := by
  rcases x with ⟨events, _ | a⟩
  · exact ⟨j, le_rfl, rfl⟩
  · obtain ⟨m, hm, hnext⟩ := h a rfl
    refine ⟨m, hm, ?_⟩
    rw [Watched.bind_assoc]
    unfold Watched.bind
    dsimp only
    rw [hnext]
    rfl

/-- A step that a task takes whether something follows it or not. -/
theorem Precedes.of_step {α : Type} {x : Watched α} {g : α → Task H × World H}
    (ht : ∀ n, watch (n + 1) t w = x.bind fun a => watch n (g a).1 (g a).2)
    (hf : ∀ n, watch (n + 1) (t.followed f) w =
      x.bind fun a => watch n ((g a).1.followed f) (g a).2)
    (ih : ∀ (t : Task H) (w : World H), ((watch n t w).result.isSome ∨ j = 0) →
      Precedes f j (n + j) t w)
    (h : (watch (n + 1) t w).result.isSome ∨ j = 0) : Precedes f j (n + 1 + j) t w := by
  unfold Precedes
  rw [Nat.add_right_comm, ht, hf]
  refine exists_bind_goOn fun a ha => ih (g a).1 (g a).2 (h.imp_left fun hsome => ?_)
  rw [ht, Watched.result_bind, ha] at hsome
  exact hsome

end Steps

/-! ## Polls -/

section Watch

variable (n : Nat) (returns : Returns) (w : World H)

/-- A task whose call has been made. -/
def called (k : Except RenderError Value → Action Unit) (returns : Returns)
    (r : Progressed H.Pending × World H) : Task H × World H :=
  match r.1 with
  | .ready v => (running (k v) returns, r.2)
  | .pending _ d => (calling d k returns, r.2)

/-- A task that has handed a block to a function. -/
def handed (g : Nat) (block : CustomBlock) (returns : Returns) (r : Option H.Helper × World H) :
    Task H × World H :=
  match r.1 with
  | some helper => (helping helper block [] returns, r.2)
  | none => (running (writeResult g block) returns, r.2)

/-- What comes of a poll when the turn of the helper is over. -/
def watchTurned (n : Nat) (block : CustomBlock) (returns : Returns) (t : Turned H) :
    Watched (Polled H) :=
  match t.helper with
  | .inl h => .pure ⟨helping h block t.children returns, t.woken, t.world⟩
  | .inr r => watch n (running (Action.ofExcept r) returns) t.world

/-- Polling a request that is answered at once. -/
theorem watch_ask {q : Request} (h : q.isInstant = true) (k : q.Answer → Action Unit) :
    watch (n + 1) (running (.ask q k) returns) w =
      (w.watchAnswer q).bind fun r => watch n (running (k r.1) returns) r.2 :=
  watch_of_step (watchStep_ask h (watch n) k returns w)

/-- Polling a call. -/
theorem watch_call (g : Nat) (frame : Frame) (args : List Value)
    (k : (Request.call g frame args).Answer → Action Unit) :
    watch (n + 1) (running (.ask (.call g frame args) k) returns) w =
      (w.watchCall g frame args).bind fun r =>
        watch n (called k returns r).1 (called k returns r).2 := by
  have hstep : watchStep (watch n) (running (.ask (.call g frame args) k) returns) w =
      (w.watchCall g frame args).bind fun r => .pure (.inl (called k returns r)) := by
    rw [watchStep]
    congr 1
    ext ⟨r, w'⟩ : 1
    cases r <;> rfl
  exact watch_of_step hstep

/-- Polling a custom block. -/
theorem watch_custom (g : Nat) (block : CustomBlock)
    (k : (Request.custom g block).Answer → Action Unit) :
    watch (n + 1) (running (.ask (.custom g block) k) returns) w =
      (w.watchHelp g block).bind fun r =>
        watch n (handed g block (k :: returns) r).1 (handed g block (k :: returns) r).2 := by
  have hstep : watchStep (watch n) (running (.ask (.custom g block) k) returns) w =
      (w.watchHelp g block).bind fun r => .pure (.inl (handed g block (k :: returns) r)) := by
    rw [watchStep]
    congr 1
    ext ⟨r, w'⟩ : 1
    cases r <;> rfl
  exact watch_of_step hstep

/-- Polling a call in flight that is ready. -/
theorem watch_calling_of_ready {d : H.Pending} {v : Except RenderError Value} {s : H.State}
    (h : H.poll d w.host = (.ready v, s)) (k : Except RenderError Value → Action Unit) :
    watch (n + 1) (calling d k returns) w =
      (Watched.see [.returned v]).bind fun _ =>
        watch n (running (k v) returns) { w with host := s } := by
  rw [watch, watchStep, World.watchPoll, h]
  rfl

/-- Polling one that is not. -/
theorem watch_calling_of_pending {d d' : H.Pending} {woken : Bool} {s : H.State}
    (h : H.poll d w.host = (.pending woken d', s)) (k : Except RenderError Value → Action Unit) :
    watch (n + 1) (calling d k returns) w =
      .pure ⟨calling d' k returns, woken, { w with host := s }⟩ := by
  rw [watch, watchStep, World.watchPoll, h]
  rfl

/-- Polling a helper at work. -/
theorem watch_helping (helper : H.Helper) (block : CustomBlock) (children : List (Task H)) :
    watch (n + 1) (helping helper block children returns) w =
      (watchTurn (watch n) block (w.nextTurn helper).1 children false (w.nextTurn helper).2).bind
        (watchTurned n block returns) := by
  rw [watch, watchStep]
  dsimp only
  rw [Watched.bind_assoc]
  congr 1
  ext ⟨helper', children', woken, w'⟩ : 1
  cases helper' <;> rfl

end Watch

/-- What follows a task whose helper has had its turn. -/
theorem exists_watchTurned {f : Outcome → Action Unit} {j n : Nat}
    (ih : ∀ (t : Task H) (w : World H), ((watch n t w).result.isSome ∨ j = 0) →
      Precedes f j (n + j) t w)
    {helper : H.Helper} {block : CustomBlock} {children : List (Task H)}
    {returns returns' : Returns} (hf : (helping helper block children returns).followed f =
      helping helper block children returns')
    {turned : Turned H} (h : (watchTurned n block returns turned).result.isSome ∨ j = 0) :
    ∃ m, j ≤ m ∧ watchTurned (n + j) block returns' turned =
      (watchTurned (n + j) block returns turned).bind (goOn f m) := by
  obtain ⟨helper' | o, children', woken, w'⟩ := turned
  · refine ⟨j, le_rfl, ?_⟩
    cases returns with
    | nil | cons =>
      cases hf
      rfl
  · cases returns with
    | cons k returns =>
      cases hf
      exact ih _ w' h
    | nil =>
      cases hf
      -- the outcome of the helper is that of the task, and is handed on in a step of its own
      cases n with
      | zero =>
        obtain hsome | rfl := h
        · cases hsome
        · exact ⟨0, le_rfl, rfl⟩
      | succ n =>
        refine ⟨n + j, Nat.le_add_left j n, ?_⟩
        rw [Nat.add_right_comm]
        rfl

/-- A turn of a helper. -/
theorem Precedes.of_turn {f : Outcome → Action Unit} {j n : Nat} {w : World H} {helper : H.Helper}
    {block : CustomBlock} {children : List (Task H)} {returns : Returns}
    (ih : ∀ (t : Task H) (w : World H), ((watch n t w).result.isSome ∨ j = 0) →
      Precedes f j (n + j) t w)
    (h : (watch (n + 1) (helping helper block children returns) w).result.isSome ∨ j = 0) :
    Precedes f j (n + 1 + j) (helping helper block children returns) w := by
  obtain ⟨returns', hf⟩ : ∃ returns', (helping helper block children returns).followed f =
      helping helper block children returns' := by cases returns <;> exact ⟨_, rfl⟩
  have hsettles := settles_watchTurn block (w.nextTurn helper).1 children false
    (w.nextTurn helper).2 n (n + j) (Nat.le_add_right n j)
  unfold Precedes
  rw [Nat.add_right_comm, hf, watch_helping, watch_helping]
  refine exists_bind_goOn fun turned hturned =>
    exists_watchTurned ih hf (h.imp_left fun hsome => ?_)
  rw [watch_helping] at hsome
  rcases hx : watchTurn (watch n) block (w.nextTurn helper).1 children false
    (w.nextTurn helper).2 with ⟨events, _ | turned'⟩
  · rw [hx] at hsome
    cases hsome
  · -- what comes of the turn does not depend on the number of steps that it is given
    rw [hx] at hsome
    cases (congrArg Watched.result (hsettles _ _ hx)).symm.trans hturned
    exact hsome

variable (f : Outcome → Action Unit) {j : Nat}

/-- A task does what it does when nothing follows it, and then what follows; of the steps that it is
given beyond those that are enough for itself, none is lost. -/
theorem precedes (n : Nat) (t : Task H) (w : World H)
    (h : (watch n t w).result.isSome ∨ j = 0) : Precedes f j (n + j) t w := by
  induction n generalizing t w with
  | zero =>
    obtain hsome | rfl := h
    · cases hsome
    · exact ⟨0, le_rfl, rfl⟩
  | succ n ih =>
    have hj : j ≤ n + 1 + j := Nat.le_add_left j _
    cases t with
    | finished o => exact .of_finished hj (by rw [Nat.add_right_comm]; rfl) rfl
    | running action returns =>
      cases action with
      | done o =>
        cases returns with
        | nil => exact .of_finished hj (by rw [Nat.add_right_comm]; rfl) rfl
        | cons k returns =>
          refine .of_step (x := .see []) (g := fun _ => (running (k o) returns, w))
            (fun n => rfl) (fun n => ?_) ih h
          cases returns <;> rfl
      | ask q k =>
        by_cases hinstant : q.isInstant = true
        · refine .of_step (x := w.watchAnswer q) (g := fun r => (running (k r.1) returns, r.2))
            (fun n => watch_ask n returns w hinstant k) (fun n => ?_) ih h
          cases returns with
          | nil => exact watch_ask n [] w hinstant _
          | cons k' returns => exact watch_ask n _ w hinstant k
        · cases q with
          | write | isHalted | halt | modify | declare | resolve | template =>
            exact absurd rfl hinstant
          | call g frame args =>
            refine .of_step (fun n => watch_call n returns w g frame args k) (fun n => ?_) ih h
            cases returns with
            | nil | cons =>
              refine (watch_call n _ w g frame args _).trans (congrArg _ ?_)
              ext ⟨r, w'⟩ : 1
              cases r <;> rfl
          | custom g block =>
            refine .of_step (fun n => watch_custom n returns w g block k) (fun n => ?_) ih h
            cases returns with
            | nil | cons =>
              refine (watch_custom n _ w g block _).trans (congrArg _ ?_)
              ext ⟨r, w'⟩ : 1
              cases r <;> rfl
          | enter body channel frame site =>
            -- the body is begun above what is done with its outcome, and what follows stays below
            refine .of_step (x := .see [.asked (.enter body channel frame site)])
              (g := fun _ => (running (body.run channel frame site) (k :: returns), w))
              (fun n => rfl) (fun n => ?_) ih h
            cases returns <;> rfl
    | calling d k returns =>
      rcases hd : H.poll d w.host with ⟨v | ⟨woken, d'⟩, s⟩
      · refine .of_step (g := fun _ => (running (k v) returns, { w with host := s }))
          (fun n => watch_calling_of_ready n returns w hd k) (fun n => ?_) ih h
        cases returns with
        | nil | cons => exact watch_calling_of_ready n _ w hd _
      · rw [Nat.add_right_comm]
        refine .of_waits rfl (watch_calling_of_pending _ returns w hd k) ?_
        cases returns with
        | nil | cons => exact watch_calling_of_pending _ _ w hd _
    | helping helper block children returns => exact .of_turn ih h

end Task

end Followed

end Stencil
