import Stencil.Proofs.Program.Passes
import Stencil.Proofs.Task.Followed
import Stencil.Proofs.Task.Functions

/-!
# Stencil.Proofs.Task.InTurn — one pass after the other

Actions that are run one after the other are begun one after the other, each in the world that the
one before it has left and only when that one has succeeded (`Action.SeenInTurn`). That is all that
can be seen of their program (`Action.Seen.inTurn`), and all of it comes to be
(`Action.SeenInTurn.seen_inTurn`), however the program is polled and whatever else happens between
its polls. So an iteration makes its passes one after the other (`iteration_in_turn`).
-/

namespace Stencil

section InTurn

variable {H : Host} [Evaluator]

/-! ## Polls -/

/-- A poll of a task that has been polled before. -/
structure Poll (H : Host) where
  /-- What else has happened since the poll before. -/
  meanwhile : World H → World H
  /-- How many steps the poll is given. -/
  steps : Nat

namespace Task

/-- What comes of a task that has been polled and is polled further as long as it is not through. -/
def watchOn (qs : List (Poll H)) (p : Polled H) : Watched (Outcome × World H) :=
  match p.task.outcome?, qs with
  | some o, _ => .pure (o, p.world)
  | none, [] => .stuck
  | none, q :: qs => (watch q.steps p.task (q.meanwhile p.world)).bind (watchOn qs)

/-- What comes of a task that is polled, with `n` steps at first, as long as it is not through. -/
def watchDriven (n : Nat) (qs : List (Poll H)) (t : Task H) (w : World H) :
    Watched (Outcome × World H) :=
  (watch n t w).bind (watchOn qs)

/-- Nothing more is polled of a task that has finished. -/
theorem watchOn_of_outcome {p : Polled H} {o : Outcome} (ho : p.task.outcome? = some o)
    (qs : List (Poll H)) : watchOn qs p = .pure (o, p.world) := by
  unfold watchOn
  rw [ho]

/-- A task that waits is stuck if it is polled no more. -/
theorem watchOn_nil {p : Polled H} (ho : p.task.outcome? = none) : watchOn [] p = .stuck := by
  unfold watchOn
  rw [ho]

/-- A task that waits goes on with the next poll, after what happened meanwhile. -/
theorem watchOn_cons {p : Polled H} (ho : p.task.outcome? = none) (q : Poll H)
    (qs : List (Poll H)) :
    watchOn (q :: qs) p = watchDriven q.steps qs p.task (q.meanwhile p.world) := by
  unfold watchOn
  rw [ho]
  rfl

/-- Whether the second is what comes of polls of a task that something follows, and the first what
comes of the task alone. -/
inductive Continues (f : Outcome → Action Unit) (among : Set (World H → World H)) :
    Watched (Outcome × World H) → Watched (Outcome × World H) → Prop
  | waits (events : List Event) : Continues f among ⟨events, none⟩ ⟨events, none⟩
  | goesOn (events : List Event) (o : Outcome) (w : World H) (m : Nat) {qs : List (Poll H)}
      (hqs : ∀ q ∈ qs, q.meanwhile ∈ among) :
      Continues f among ⟨events, some (o, w)⟩
        ⟨events ++ (watchDriven m qs (running (f o) []) w).events,
          (watchDriven m qs (running (f o) []) w).result⟩

section Polls

variable {f : Outcome → Action Unit} {among : Set (World H → World H)}

/-- What has been seen before is seen on both sides. -/
theorem Continues.after {x y : Watched (Outcome × World H)} (h : Continues f among x y)
    (events : List Event) :
    Continues f among ⟨events ++ x.events, x.result⟩ ⟨events ++ y.events, y.result⟩ := by
  cases h with
  | waits later => exact .waits (events ++ later)
  | goesOn later o w m hqs =>
    dsimp only
    rw [← List.append_assoc]
    exact .goesOn (events ++ later) o w m hqs

/-- One poll of a task and of the task with what follows it: both wait, or what follows is begun. -/
theorem Continues.of_poll {n : Nat} {qs : List (Poll H)} (hqs : ∀ q ∈ qs, q.meanwhile ∈ among)
    {t : Task H} {w : World H}
    (hnone : ∀ p : Polled H, p.task.outcome? = none →
      Continues f among (watchOn qs p) (watchOn qs ⟨p.task.followed f, p.woken, p.world⟩)) :
    Continues f among (watchDriven n qs t w) (watchDriven n qs (t.followed f) w) := by
  obtain ⟨m, -, hwatch⟩ := precedes f (j := 0) n t w (.inr rfl)
  unfold watchDriven
  rw [Nat.add_zero] at hwatch
  rw [hwatch, Watched.bind_assoc]
  rcases watch n t w with ⟨events, _ | p⟩
  · exact .waits events
  · refine Continues.after (x := watchOn qs p) (y := (goOn f m p).bind (watchOn qs)) ?_ events
    -- what follows is begun in the very poll that finishes the task
    cases ho : p.task.outcome? with
    | none =>
      rw [goOn_of_none ho]
      exact hnone p ho
    | some o =>
      rw [watchOn_of_outcome ho, goOn_of_outcome ho]
      exact .goesOn [] o p.world m hqs

/-- What follows a task is begun when the task has come to its end, in the same poll. -/
theorem continues_watchDriven (n : Nat) {qs : List (Poll H)} (hqs : ∀ q ∈ qs, q.meanwhile ∈ among)
    (t : Task H) (w : World H) :
    Continues f among (watchDriven n qs t w) (watchDriven n qs (t.followed f) w) := by
  induction qs generalizing n t w with
  | nil =>
    refine .of_poll hqs fun p ho => ?_
    rw [watchOn_nil ho, watchOn_nil (outcome?_followed f p.task)]
    exact .waits []
  | cons q qs ih =>
    refine .of_poll hqs fun p ho => ?_
    rw [watchOn_cons ho, watchOn_cons (outcome?_followed f p.task)]
    exact ih q.steps (fun q' hq' => hqs q' (.tail q hq')) p.task _

/-- The first poll of a driven task, and what is seen after it. -/
theorem watchDriven_of_watch {n : Nat} {t : Task H} {w : World H} {events : List Event}
    {p : Polled H} (hx : watch n t w = ⟨events, some p⟩) (qs : List (Poll H)) :
    watchDriven n qs t w = ⟨events ++ (watchOn qs p).events, (watchOn qs p).result⟩ := by
  rw [watchDriven, hx]
  rfl

/-- As long as a task waits, nothing that follows it is begun. -/
theorem watch_followed {n : Nat} {t : Task H} {w : World H} {events : List Event} {p : Polled H}
    (hx : watch n t w = ⟨events, some p⟩) (ho : p.task.outcome? = none) :
    watch n (t.followed f) w = ⟨events, some ⟨p.task.followed f, p.woken, p.world⟩⟩ := by
  obtain ⟨m, -, hwatch⟩ := precedes f (j := 0) n t w (.inr rfl)
  rw [Nat.add_zero, hx] at hwatch
  rw [hwatch, Watched.bind]
  dsimp only
  rw [goOn_of_none ho]
  exact congrArg (Watched.mk · _) (List.append_nil events)

/-- Whether a task, when something follows it, comes to this outcome in some polls, and then goes on
with what follows: in at least as many steps as are wanted of the last of these polls, and in any
polls behind it. -/
def HandsOver (f : Outcome → Action Unit) (among : Set (World H → World H)) (t : Task H)
    (w : World H) (events : List Event) (o : Outcome) (w' : World H) : Prop :=
  ∀ (k : Nat) (rs : List (Poll H)), (∀ r ∈ rs, r.meanwhile ∈ among) →
    ∃ n qs m, (∀ q ∈ qs, q.meanwhile ∈ among) ∧ k ≤ m ∧
      watchDriven n qs (t.followed f) w =
        ⟨events ++ (watchDriven m rs (running (f o) []) w').events,
          (watchDriven m rs (running (f o) []) w').result⟩

/-- A task that finishes in a poll hands over at the end of it. -/
theorem handsOver_of_outcome {n : Nat} {t : Task H} {w : World H} {events : List Event}
    {p : Polled H} {o : Outcome} (hx : watch n t w = ⟨events, some p⟩)
    (ho : p.task.outcome? = some o) : HandsOver f among t w events o p.world := by
  intro k rs hrs
  have hsome : (watch n t w).result.isSome := by
    rw [hx]
    rfl
  obtain ⟨m, hm, hwatch⟩ := precedes f (j := k) n t w (.inl hsome)
  refine ⟨n + k, rs, m, hrs, hm, ?_⟩
  have hmore : watch (n + k) t w = ⟨events, some p⟩ :=
    settles_watch t w n (n + k) (Nat.le_add_right n k) _ _ hx
  rw [watchDriven, hwatch, hmore, Watched.bind_assoc, watchDriven, ← goOn_of_outcome ho]
  rfl

/-- One that waits hands over when it does so later. -/
theorem handsOver_of_waits {n : Nat} {t : Task H} {w w' : World H} {events later : List Event}
    {p : Polled H} {o : Outcome} (hx : watch n t w = ⟨events, some p⟩)
    (ho : p.task.outcome? = none) {q : Poll H} (hq : q.meanwhile ∈ among)
    (h : HandsOver f among p.task (q.meanwhile p.world) later o w') :
    HandsOver f among t w (events ++ later) o w' := by
  intro k rs hrs
  obtain ⟨n', qs, m, hqs, hm, hpolls⟩ := h k rs hrs
  refine ⟨n, ⟨q.meanwhile, n'⟩ :: qs, m, List.forall_mem_cons.2 ⟨hq, hqs⟩, hm, ?_⟩
  rw [watchDriven_of_watch (watch_followed hx ho), watchOn_cons (outcome?_followed f p.task), hpolls,
    List.append_assoc]

/-- A task comes to its end in a poll, or waits after it. -/
theorem handsOver_of_poll {n : Nat} {qs : List (Poll H)} {t : Task H} {w w' : World H}
    {events : List Event} {o : Outcome} (h : watchDriven n qs t w = ⟨events, some (o, w')⟩)
    (hwaits : ∀ {first later : List Event} {p : Polled H}, watch n t w = ⟨first, some p⟩ →
      p.task.outcome? = none → watchOn qs p = ⟨later, some (o, w')⟩ →
        HandsOver f among t w (first ++ later) o w') :
    HandsOver f among t w events o w' := by
  rcases hx : watch n t w with ⟨first, _ | p⟩
  · rw [watchDriven, hx] at h
    cases h
  rw [watchDriven_of_watch hx] at h
  cases ho : p.task.outcome? with
  | none =>
    rcases hon : watchOn qs p with ⟨later, r⟩
    rw [hon] at h
    cases h
    exact hwaits hx ho hon
  | some o' =>
    rw [watchOn_of_outcome ho] at h
    cases h
    have hend : HandsOver f among t w first o p.world := handsOver_of_outcome hx ho
    -- nothing is seen between the end of the task and the handing over
    rw [← List.append_nil first] at hend
    exact hend

/-- What comes of a task comes of it when something follows. -/
theorem handsOver_of_watchDriven {n : Nat} {qs : List (Poll H)}
    (hqs : ∀ q ∈ qs, q.meanwhile ∈ among) {t : Task H} {w w' : World H} {events : List Event}
    {o : Outcome} (h : watchDriven n qs t w = ⟨events, some (o, w')⟩) :
    HandsOver f among t w events o w' := by
  induction qs generalizing n t w events with
  | nil =>
    refine handsOver_of_poll h fun _ ho hon => ?_
    rw [watchOn_nil ho] at hon
    cases hon
  | cons q qs ih =>
    refine handsOver_of_poll h fun hx ho hon => ?_
    rw [watchOn_cons ho] at hon
    exact handsOver_of_waits hx ho (hqs q (.head _)) (ih (fun q' hq' => hqs q' (.tail q hq')) hon)

end Polls

/-- More steps in the first poll change nothing that has come of polls. -/
theorem settles_watchDriven (qs : List (Poll H)) (t : Task H) (w : World H) :
    Watched.Settles fun n => watchDriven n qs t w :=
  (settles_watch t w).bind fun p => .const (watchOn qs p)

end Task

/-! ## Actions in turn -/

/-- Whether this can be seen of an action that is polled, while what happens between its polls is
`among` these. -/
def Action.Seen (among : Set (World H → World H)) (x : Action Unit) (w : World H)
    (seen : Watched (Outcome × World H)) : Prop :=
  ∃ n qs, (∀ q ∈ qs, q.meanwhile ∈ among) ∧ Task.watchDriven n qs (.running x []) w = seen

/-- Whether this can be seen of actions of which each is begun when the one before it has succeeded,
in the world that it has left: either all of them are made, or nothing is seen behind the first that
does not succeed. -/
inductive Action.SeenInTurn (among : Set (World H → World H)) :
    List (Action Unit) → World H → Watched (Outcome × World H) → Prop
  | through (w : World H) : SeenInTurn among [] w (.pure (.ok (), w))
  | stops {x : Action Unit} {xs : List (Action Unit)} {w : World H}
      {seen : Watched (Outcome × World H)} (h : x.Seen among w seen)
      (hstops : ∀ w', seen.result ≠ some (.ok (), w')) : SeenInTurn among (x :: xs) w seen
  | next {x : Action Unit} {xs : List (Action Unit)} {w w' : World H} {events : List Event}
      {seen : Watched (Outcome × World H)} (h : x.Seen among w ⟨events, some (.ok (), w')⟩)
      (hrest : SeenInTurn among xs w' seen) :
      SeenInTurn among (x :: xs) w ⟨events ++ seen.events, seen.result⟩
  /-- It may take a step more to see that they have come to their end. -/
  | unnoticed {xs : List (Action Unit)} {w : World H} {seen : Watched (Outcome × World H)}
      (h : SeenInTurn among xs w seen) : SeenInTurn among xs w ⟨seen.events, none⟩

namespace Action

variable {among : Set (World H → World H)} {w : World H} {seen : Watched (Outcome × World H)}

/-- An action that needs no request. -/
theorem watchDriven_ofExcept (n : Nat) (qs : List (Poll H)) (o : Outcome) (w : World H) :
    Task.watchDriven (n + 1) qs (.running (ofExcept o) []) w = .pure (o, w) := by
  have hwatch : Task.watch (n + 1) (.running (ofExcept o) []) w =
      ⟨[], some ⟨.finished o, false, w⟩⟩ := rfl
  rw [Task.watchDriven_of_watch hwatch, Task.watchOn_of_outcome rfl]
  rfl

/-- Nothing is done behind an action that has failed. -/
theorem watchDriven_bindCont_error (next : Action Unit) (m : Nat) (qs : List (Poll H))
    (events : List Event) (e : RenderError) (w : World H) :
    let rest := Task.watchDriven (m + 1) qs
      (.running (ExceptT.bindCont (fun _ : Unit => next) (.error e)) []) w
    (⟨events ++ rest.events, rest.result⟩ : Watched (Outcome × World H)) =
      ⟨events, some (.error e, w)⟩ := by
  have hend : Task.watchDriven (m + 1) qs
      (.running (ExceptT.bindCont (fun _ : Unit => next) (.error e)) []) w =
      .pure (.error e, w) := watchDriven_ofExcept m qs (.error e) w
  rw [hend]
  exact congrArg (Watched.mk · _) (List.append_nil events)

/-- What is seen of the program of actions in turn is seen of the actions. -/
theorem Seen.inTurn {xs : List (Action Unit)} (h : (Action.inTurn xs).Seen among w seen) :
    SeenInTurn among xs w seen := by
  induction xs generalizing w seen with
  | nil =>
    obtain ⟨n, qs, -, rfl⟩ := h
    cases n with
    | zero => exact .unnoticed (.through w)
    | succ n =>
      rw [Action.inTurn]
      exact watchDriven_ofExcept n qs (.ok ()) w ▸ .through w
  | cons x xs ih =>
    obtain ⟨n, qs, hqs, rfl⟩ := h
    have hseen : x.Seen among w (Task.watchDriven n qs (.running x []) w) := ⟨n, qs, hqs, rfl⟩
    have hcontinues := Task.continues_watchDriven
      (f := ExceptT.bindCont fun _ : Unit => Action.inTurn xs) n hqs (.running x []) w
    show SeenInTurn among (x :: xs) w
      (Task.watchDriven n qs ((Task.running x []).followed _) w)
    generalize Task.watchDriven n qs (.running x []) w = first at hseen hcontinues
    generalize Task.watchDriven n qs ((Task.running x []).followed _) w = both at hcontinues ⊢
    cases hcontinues with
    | waits events => exact .stops hseen fun w' h => by cases h
    | goesOn events o v m hqs =>
      cases o with
      | ok u => exact .next hseen (ih ⟨m, _, hqs, rfl⟩)
      | error e =>
        have hstops : SeenInTurn among (x :: xs) w ⟨events, some (.error e, v)⟩ :=
          .stops hseen fun w' h => by cases h
        -- behind an error there is only the step in which the poll notices it
        cases m with
        | zero =>
          show SeenInTurn among (x :: xs) w ⟨events ++ [], none⟩
          rw [List.append_nil]
          exact hstops.unnoticed
        | succ m =>
          rw [watchDriven_bindCont_error]
          exact hstops

/-- What actions in turn come to, their program comes to. -/
theorem SeenInTurn.seen_inTurn {xs : List (Action Unit)} (h : SeenInTurn among xs w seen)
    (hend : seen.result.isSome) : (Action.inTurn xs).Seen among w seen := by
  induction h with
  | through w => exact ⟨1, [], List.forall_mem_nil _, watchDriven_ofExcept 0 [] (.ok ()) w⟩
  | unnoticed h ih => cases hend
  | @stops x xs w seen h hstops =>
    obtain ⟨events, _ | ⟨e | u, w'⟩⟩ := seen
    · cases hend
    · obtain ⟨n, qs, hqs, hn⟩ := h
      obtain ⟨n', ps, m, hps, hm, hpolls⟩ := Task.handsOver_of_watchDriven
        (f := ExceptT.bindCont fun _ : Unit => Action.inTurn xs) hqs hn 1 []
        (List.forall_mem_nil _)
      obtain ⟨m, rfl⟩ := Nat.exists_eq_add_of_le' hm
      exact ⟨n', ps, hps, hpolls.trans (watchDriven_bindCont_error _ m [] events e w')⟩
    · cases hstops w' rfl
  | @next x xs w w' events seen h hrest ih =>
    obtain ⟨later, _ | r⟩ := seen
    · cases hend
    obtain ⟨n, qs, hqs, hn⟩ := h
    obtain ⟨k, rs, hrs, hk⟩ := ih rfl
    -- the rest is begun in the last poll of the first action, which is given the steps it needs
    obtain ⟨n', ps, m, hps, hm, hpolls⟩ := Task.handsOver_of_watchDriven
      (f := ExceptT.bindCont fun _ : Unit => Action.inTurn xs) hqs hn k rs hrs
    have hmore : Task.watchDriven m rs (.running (Action.inTurn xs) []) w' = ⟨later, some r⟩ :=
      Task.settles_watchDriven rs _ w' k m hm _ _ hk
    refine ⟨n', ps, hps, hpolls.trans ?_⟩
    exact congrArg (fun rest : Watched _ => Watched.mk (events ++ rest.events) rest.result) hmore

end Action

end InTurn

/-! ## Iterations -/

section Iterations

variable [Evaluator]

/-- An iteration makes the passes that are planned for its collection, each in a frame of its own in
the one around the iteration, one after the other: a pass is begun when the one before it has
succeeded, and none is begun behind one that has failed. This does not depend on how the iteration
is polled, nor on what else happens between its polls. -/
theorem iteration_in_turn (collection : Value) (base : Frame) (site : Site)
    (body : Frame → Site → Action Unit) :
    let iteration := runIteration collection base site body
    (∃ plan, collection.Plans plan) ∧ ∀ plan, collection.Plans plan →
      match plan with
      | .error e => ∀ {H : Host} (n : Nat) (qs : List (Poll H)) (w : World H),
          Task.watchDriven (n + 1) qs (.running iteration []) w = .pure (.error e, w)
      | .ok passes =>
        (∀ p ∈ passes, ∃ id, p.frame base site = .mk (.object id
          (.ofList [("index", Pass.number p.index), ("key", p.key), ("value", p.value)]))
          base.name (some base)) ∧
        ∀ {H : Host} (among : Set (World H → World H)) (w : World H)
          (seen : Watched (Outcome × World H)),
          let actions := passes.map fun p => body (p.frame base site) (p.site site)
          (iteration.Seen among w seen → Action.SeenInTurn among actions w seen) ∧
            (Action.SeenInTurn among actions w seen → seen.result.isSome →
              iteration.Seen among w seen) := by
  intro iteration
  refine ⟨⟨_, collection.plans_ofValue⟩, fun plan hplan => ?_⟩
  cases hplan.unique collection.plans_ofValue
  cases hentries : Entries.ofValue collection with
  | error e =>
    intro H n qs w
    have hiteration : iteration = Action.ofExcept (.error e) := by
      show runIteration collection base site body = _
      rw [runIteration, hentries]
      rfl
    rw [hiteration]
    exact Action.watchDriven_ofExcept n qs (.error e) w
  | ok es =>
    have hiteration : iteration =
        Action.inTurn (es.passes.map fun p => body (p.frame base site) (p.site site)) := by
      show runIteration collection base site body = _
      rw [runIteration, hentries]
      exact runEntries_eq body base site es
    refine ⟨fun p _ => ⟨_, rfl⟩, fun among w seen => ?_⟩
    rw [hiteration]
    exact ⟨Action.Seen.inTurn, Action.SeenInTurn.seen_inTurn⟩

/-- Functions that give nothing, when they are polled a second time. -/
@[reducible] def Functions.hesitant : Functions where
  Pending := Bool
  Helper := Unit
  call _ _ _ := .pending true false
  poll polled := if polled then .ready (.ok .null) else .pending true true
  help _ _ _ := none
  turn _ := .finish (.ok ())

/-- The value of a pass, written after a call. -/
def Action.hesitant (frame : Frame) (_ : Site) : Action Unit := do
  let _ ← Action.call 1 frame []
  Action.write (frame.lookup "value").display

/-- Two passes, each of which has to wait. -/
theorem iteration_in_turn_hesitant :
    let collection := Value.array (.given 1) [.text "a", .text "b"]
    let base := Frame.ofData (.object (.given 0) (.ofList [("xs", collection)]))
    let iteration := runIteration collection base (.start 0) Action.hesitant
    let w : World Functions.hesitant.host := .start [] .empty .builtin false
    ∃ events w', iteration.Seen {id} w ⟨events, some (.ok (), w')⟩ ∧ w'.host = ["a", "b"] := by
  intro collection base iteration w
  obtain ⟨-, hruns⟩ := (iteration_in_turn collection base (.start 0) Action.hesitant).2 _
    (.items (.given 1) [.text "a", .text "b"])
  have hpolls : ∀ q ∈ [(⟨id, 9⟩ : Poll Functions.hesitant.host)], q.meanwhile ∈ ({id} : Set _) :=
    List.forall_mem_singleton.2 rfl
  have hseen := (hruns {id} w _).2
    (.next ⟨9, _, hpolls, rfl⟩ (.next ⟨9, _, hpolls, rfl⟩ (.through _))) rfl
  exact ⟨_, _, hseen, rfl⟩

end Iterations

end Stencil
