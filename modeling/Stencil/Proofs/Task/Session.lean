import Stencil.Proofs.Task.Functions

/-!
# Stencil.Proofs.Task.Session — a session that has been halted

A session is what happens to the world of a render, whoever is at work in it: the render itself,
bodies that are polled one beside the other, helpers, or someone who has kept a block from
earlier (`World.Step`, `Session`). Once it has been halted, or its deadline has passed, it stays so;
it takes nothing any more through any handle, and nothing that is stored changes
(`Session.halting_seals`).
-/

namespace Stencil

/-! ## Sessions -/

/-- What happens in a session. -/
inductive Happening where
  | seen (ev : Event)
  /-- The deadline passes. -/
  | expired

namespace Happening

/-- Whether this halts the session. -/
def Halts : Happening → Prop
  | seen (.answered .halt _) | expired => True
  | _ => False

/-- Whether this is as it should be in a session that has been halted: nothing is written, and who
asks is told. -/
def Refused : Happening → Prop
  | seen (.answered (.write _) r) => r = (.error .aborted : Outcome)
  | seen (.answered .isHalted halted) => halted = true
  | _ => True

/-- The text that is stored. -/
def text? : Happening → Option String
  | seen ev => ev.text?
  | expired => none

end Happening

/-- The texts that are stored. -/
def stored (hs : List Happening) : List String := hs.filterMap Happening.text?

/-- What is seen happens. -/
def happenings (es : List Event) : List Happening := es.map .seen

/-- What happens in two stretches, one behind the other. -/
theorem happenings_append (xs ys : List Event) :
    happenings (xs ++ ys) = happenings xs ++ happenings ys :=
  List.map_append

theorem stored_append (xs ys : List Happening) : stored (xs ++ ys) = stored xs ++ stored ys :=
  List.filterMap_append

theorem stored_happenings (es : List Event) : stored (happenings es) = written es :=
  List.filterMap_map

section Session

variable {H : Host} {w w' w'' : World H}

/-- One step of a session, by whoever takes it: a render, a body, a helper in its turn, or someone
who has kept a block and comes in between two steps of others. -/
inductive World.Step : List Happening → World H → World H → Prop
  | asked (w : World H) (q : Request) : Step (happenings [.asked q]) w w
  | answered {w w' : World H} {q : Request} {a : q.Answer} (h : w.answer? q = some (a, w')) :
      Step (happenings [.asked q, .answered q a]) w w'
  | call (w : World H) (f : Nat) (frame : Frame) (args : List Value) :
      Step (happenings (w.watchCall f frame args).events) w
        { w with host := (H.call f frame args w.host).2 }
  | poll (w : World H) (d : H.Pending) :
      Step (happenings (w.watchPoll d).events) w { w with host := (H.poll d w.host).2 }
  | help (w : World H) (f : Nat) (block : CustomBlock) :
      Step (happenings (w.watchHelp f block).events) w
        { w with host := (H.help f block.frame block.bodies.length w.host).2 }
  | turn (w : World H) (h : H.Helper) : Step [] w { w with host := (H.turn h w.host).2 }
  | flush (w : World H) : Step (happenings [.flushed w.flush.1]) w w.flush.2
  | expire (w : World H) : Step [.expired] w w.halt

/-- What may happen in a session from one moment to another. -/
inductive Session : List Happening → World H → World H → Prop
  | begin (w : World H) : Session [] w w
  | step {hs hs' : List Happening} {w w' w'' : World H} :
      Session hs w w' → World.Step hs' w' w'' → Session (hs ++ hs') w w''

namespace Session

variable {hs hs' : List Happening}

theorem single (h : World.Step hs w w') : Session hs w w' := (Session.begin w).step h

/-- Sessions can be put one behind the other. -/
theorem trans (h : Session hs w w') (h' : Session hs' w' w'') : Session (hs ++ hs') w w'' := by
  induction h' with
  | begin w =>
    rw [List.append_nil]
    exact h
  | step _ hstep ih =>
    rw [← List.append_assoc]
    exact (ih h).step hstep

/-- All that a render does is a session, and so is all that is put together from what renders,
bodies and helpers do. -/
theorem traces : World.Traces (H := H) fun es w w' => Session (happenings es) w w' where
  refl w := .begin w
  trans h h' := by
    rw [happenings_append]
    exact h.trans h'
  asked w q := .single (.asked w q)
  -- an answer is a step of its own, since a halt may come between the question and it
  answer w q r hr := by
    unfold World.watchAnswer at hr ⊢
    cases hq : w.answer? q with
    | none =>
      rw [hq] at hr
      cases hr
    | some r' =>
      rw [hq] at hr
      cases hr
      exact .single (.answered hq)
  call w f frame args r hr := by
    cases hr
    exact .single (.call w f frame args)
  poll w d r hr := by
    cases hr
    exact .single (.poll w d)
  help w f block r hr := by
    cases hr
    exact .single (.help w f block)
  turn w h := .single (.turn w h)

end Session

end Session

/-! ## Steps -/

/-- Whether a request is answered. -/
def Event.isAnswer : Event → Bool
  | .answered .. => true
  | _ => false

theorem Happening.not_halts_of_not_isAnswer {ev : Event} (h : ev.isAnswer = false) :
    ¬ (seen ev).Halts := by
  cases ev with
  | answered q a => cases h
  | asked | returned | flushed => exact id

/-- What halts a render writes nothing. -/
theorem Happening.Halts.refused {x : Happening} (h : x.Halts) : x.Refused := by
  cases x with
  | expired => exact trivial
  | seen ev =>
    cases ev with
    | asked | returned | flushed => exact trivial
    | answered q a =>
      cases q with
      | write | isHalted => exact h.elim
      | halt | modify | declare | resolve | template | call | custom | enter => exact trivial

theorem Happening.refused_of_not_isAnswer {ev : Event} (h : ev.isAnswer = false) :
    (seen ev).Refused := by
  cases ev with
  | answered q a => cases h
  | asked | returned | flushed => exact trivial

/-- Where nothing halts the session but the last thing, that is what halts it. -/
theorem Happening.last_halts (init : List Happening) {before after : List Happening}
    {last x : Happening}
    (h : before ++ x :: after = init ++ [last]) (hinit : ∀ y ∈ init, ¬ y.Halts) (hx : x.Halts) :
    after = [] ∧ x = last := by
  rcases List.eq_nil_or_concat after with rfl | ⟨between, y, rfl⟩
  · exact ⟨rfl, List.singleton_inj.1 (List.append_inj' h rfl).2⟩
  · rw [List.concat_eq_append, ← List.cons_append, ← List.append_assoc] at h
    have hmem : x ∈ init := by
      rw [← (List.append_inj' h rfl).1]
      exact List.mem_append_right before List.mem_cons_self
    exact absurd hx (hinit x hmem)

namespace World

variable {H : Host} {w w' : World H} {hs : List Happening}

/-- What a function returns is no answer of the render. -/
theorem isAnswer_of_mem_resultEvents {Pending : Type} {r : Progressed Pending} {ev : Event}
    (h : ev ∈ resultEvents r) : ev.isAnswer = false := by
  cases r with
  | pending woken d => cases h
  | ready r =>
    cases List.mem_singleton.1 h
    rfl

/-- A step answers a request, or it is the deadline that passes, or nothing is answered and only
the host changes. -/
theorem Step.cases (h : Step hs w w') :
    (∃ (q : Request) (a : q.Answer), w.answer? q = some (a, w') ∧
        hs = [.seen (.asked q), .seen (.answered q a)]) ∨
      (hs = [.expired] ∧ w' = w.halt) ∨
      ∃ (es : List Event) (s : H.State), hs = happenings es ∧ w' = { w with host := s } ∧
        ∀ ev ∈ es, ev.isAnswer = false := by
  cases h with
  | asked _ q => exact .inr (.inr ⟨_, w.host, rfl, rfl, List.forall_mem_singleton.2 rfl⟩)
  | answered h => exact .inl ⟨_, _, h, rfl⟩
  | call _ f frame args =>
    refine .inr (.inr ⟨_, _, rfl, rfl, List.forall_mem_cons.2 ⟨rfl, ?_⟩⟩)
    exact fun ev hev => isAnswer_of_mem_resultEvents hev
  | poll _ d => exact .inr (.inr ⟨_, _, rfl, rfl, fun ev hev => isAnswer_of_mem_resultEvents hev⟩)
  | help _ f block => exact .inr (.inr ⟨_, _, rfl, rfl, List.forall_mem_singleton.2 rfl⟩)
  | turn _ h => exact .inr (.inr ⟨[], _, rfl, rfl, List.forall_mem_nil _⟩)
  | flush => exact .inr (.inr ⟨_, _, rfl, rfl, List.forall_mem_singleton.2 rfl⟩)
  | expire => exact .inr (.inl ⟨rfl, rfl⟩)

/-- In a halted session a request leaves all as it is, and a text is refused. -/
theorem answer_of_halted (hw : w.halted = true) {q : Request} {a : q.Answer}
    (h : w.answer? q = some (a, w')) :
    w'.halted = true ∧ (Happening.seen (.answered q a)).Refused := by
  cases q with
  | call | custom | enter => cases h
  | modify | declare | resolve | template =>
    cases h
    exact ⟨hw, trivial⟩
  | halt =>
    cases h
    exact ⟨rfl, trivial⟩
  | isHalted =>
    cases h
    exact ⟨hw, hw⟩
  | write text =>
    have hwrite : w.write text = (.error .aborted, w) := if_pos hw
    rw [answer?, hwrite] at h
    cases h
    exact ⟨hw, rfl⟩

/-- Nothing that happens to a halted render writes, nor does it go on. -/
theorem Step.of_halted (h : Step hs w w') (hw : w.halted = true) :
    w'.halted = true ∧ ∀ x ∈ hs, x.Refused := by
  obtain ⟨q, a, ha, rfl⟩ | ⟨rfl, rfl⟩ | ⟨es, s, rfl, rfl, hes⟩ := h.cases
  · obtain ⟨hw', hrefused⟩ := answer_of_halted hw ha
    exact ⟨hw', List.forall_mem_cons.2 ⟨trivial, List.forall_mem_singleton.2 hrefused⟩⟩
  · exact ⟨rfl, List.forall_mem_singleton.2 trivial⟩
  · refine ⟨hw, fun x hx => ?_⟩
    obtain ⟨ev, hev, rfl⟩ := List.mem_map.1 hx
    exact Happening.refused_of_not_isAnswer (hes ev hev)

/-- A step that halts the session ends with that. -/
theorem Step.last_halts {before after : List Happening} {x : Happening}
    (h : Step (before ++ x :: after) w w') (hx : x.Halts) : after = [] ∧ w'.halted = true := by
  obtain ⟨q, a, ha, heq⟩ | ⟨heq, rfl⟩ | ⟨es, s, heq, rfl, hes⟩ := h.cases
  · have hinit : ∀ y ∈ [Happening.seen (.asked q)], ¬ y.Halts :=
      List.forall_mem_singleton.2 id
    obtain ⟨hafter, rfl⟩ := Happening.last_halts [.seen (.asked q)] heq hinit hx
    refine ⟨hafter, ?_⟩
    cases q with
    | halt =>
      cases ha
      rfl
    | write | isHalted | modify | declare | resolve | template | call | custom | enter =>
      exact absurd hx id
  · exact ⟨(Happening.last_halts [] heq (List.forall_mem_nil _) hx).1, rfl⟩
  · have hmem : x ∈ happenings es := by
      rw [← heq]
      exact List.mem_append_right before List.mem_cons_self
    obtain ⟨ev, hev, rfl⟩ := List.mem_map.1 hmem
    exact absurd hx (Happening.not_halts_of_not_isAnswer (hes ev hev))

/-- What a step stores is among what happens. -/
theorem Step.texts_eq {texts : H.State → List String} (hsink : H.Stores texts) (h : Step hs w w') :
    texts w'.host = texts w.host ++ stored hs := by
  have htraces := hsink.traces
  cases h with
  | asked _ q => exact htraces.asked w q
  | @answered _ _ q a h =>
    have hanswer := htraces.answer w q
    unfold watchAnswer at hanswer
    rw [h] at hanswer
    exact hanswer _ rfl
  | call _ f frame args =>
    rw [stored_happenings]
    exact htraces.call w f frame args _ rfl
  | poll _ d =>
    rw [stored_happenings]
    exact htraces.poll w d _ rfl
  | help _ f block =>
    rw [stored_happenings]
    exact htraces.help w f block _ rfl
  | turn _ h => exact htraces.turn w h
  | flush =>
    rw [stored_happenings]
    exact (hsink.flush w.host).trans (List.append_nil _).symm
  | expire => exact (List.append_nil _).symm

end World

/-! ## Runs -/

namespace Session

variable {H : Host} {w w' : World H} {hs before after : List Happening} {x : Happening}

/-- A halted session stays halted, and everything is refused. -/
theorem of_halted (h : Session hs w w') (hw : w.halted = true) :
    w'.halted = true ∧ ∀ y ∈ hs, y.Refused := by
  induction h with
  | begin w => exact ⟨hw, List.forall_mem_nil _⟩
  | step _ hstep ih =>
    obtain ⟨hmid, hrefused⟩ := ih hw
    obtain ⟨hend, hlast⟩ := hstep.of_halted hmid
    exact ⟨hend, List.forall_mem_append.2 ⟨hrefused, hlast⟩⟩

/-- The sink holds what it held before and what the session stored. -/
theorem texts_eq {texts : H.State → List String} (hsink : H.Stores texts)
    (h : Session hs w w') : texts w'.host = texts w.host ++ stored hs := by
  induction h with
  | begin w => exact (List.append_nil _).symm
  | step _ hstep ih => rw [hstep.texts_eq hsink, ih, stored_append, List.append_assoc]

/-- Nothing that is refused is stored. -/
theorem stored_of_refused (h : ∀ y ∈ hs, y.Refused) : stored hs = [] := by
  refine List.filterMap_eq_nil_iff.2 fun y hy => ?_
  have hrefused := h y hy
  cases y with
  | expired => rfl
  | seen ev =>
    cases ev with
    | asked | returned | flushed => rfl
    | answered q a =>
      cases q with
      | isHalted | halt | modify | declare | resolve | template | call | custom | enter => rfl
      | write text =>
        cases (show a = (.error .aborted : Outcome) from hrefused)
        rfl

/-- When something has halted the session, there is a moment at which it is halted, and all that
comes behind is a session from then on. -/
theorem halted_between (h : Session (before ++ x :: after) w w') (hx : x.Halts) :
    ∃ w₁, Session (before ++ [x]) w w₁ ∧ w₁.halted = true ∧ Session after w₁ w' := by
  generalize hhs : before ++ x :: after = hs at h
  induction h generalizing before after with
  | begin w => cases List.append_eq_nil_iff.1 hhs |>.2
  | @step hs hs' w w₁ w' hsession hstep ih =>
    have hlast : ∀ between, before = hs ++ between → hs' = between ++ x :: after →
        ∃ w₁, Session (before ++ [x]) w w₁ ∧ w₁.halted = true ∧ Session after w₁ w' := by
      rintro between rfl rfl
      obtain ⟨rfl, hhalted⟩ := hstep.last_halts hx
      rw [List.append_assoc]
      exact ⟨w', hsession.step hstep, hhalted, .begin w'⟩
    obtain ⟨rest, hhs, hrest⟩ | ⟨between, hbefore, hhs'⟩ := List.append_eq_append_iff.1 hhs
    · obtain ⟨rfl, hhs'⟩ | ⟨rest, rfl, hafter⟩ := List.cons_eq_append_iff.1 hrest
      · rw [List.append_nil] at hhs
        exact hlast [] (hhs.symm.trans (List.append_nil hs).symm) hhs'
      · -- it was halted before
        obtain ⟨w₂, hhalt, hhalted, hthen⟩ := ih hhs.symm
        rw [hafter]
        exact ⟨w₂, hhalt, hhalted, hthen.step hstep⟩
    · -- the last step halts the session
      exact hlast between hbefore hhs'

section Renders

variable [Evaluator]

/-- Polling a task, be it a body among others, is a session. -/
theorem of_watch {n : Nat} {t : Task H} {es : List Event} {p : Polled H}
    (h : Task.watch n t w = ⟨es, some p⟩) : Session (happenings es) w p.world := by
  have hleads := traces.watch (w := w) n t
  rw [h] at hleads
  exact hleads p rfl

/-- A run ends as it does without a deadline, or it is the deadline that ends it. -/
theorem of_watchRun {deadline : Option Deadline} {n : Nat} {t : Task H} {es : List Event}
    {o : Outcome} (h : Task.watchRun deadline n t w = ⟨es, some (o, w')⟩) :
    (Task.run none n t w = some (o, w') ∧ Session (happenings es) w w') ∨
      ∃ milliseconds, deadline.map Deadline.milliseconds = some milliseconds ∧
        o = .error (.timeout milliseconds) ∧ Session (happenings es ++ [.expired]) w w' := by
  induction n generalizing deadline t w es with
  | zero => cases h
  | succ n ih =>
    obtain ⟨first, ⟨t', woken, w₁⟩, next, hpoll, hnext, rfl⟩ := Watched.exists_of_bind h
    have hpolled : Task.poll n t w = some ⟨t', woken, w₁⟩ := by
      rw [← Task.watch_result, hpoll]
    have hfirst := of_watch hpoll
    rw [happenings_append]
    dsimp only at hnext
    cases ho : t'.outcome? with
    | some r =>
      rw [ho] at hnext
      cases hnext
      exact .inl ⟨Task.run_of_outcome ho hpolled, hfirst.trans (.begin w')⟩
    | none =>
      rw [ho] at hnext
      cases hpermits : Deadline.permits deadline woken with
      | true =>
        rw [hpermits] at hnext
        -- what is woken in time is woken when there is no deadline
        have hwoken : Deadline.permits none woken = true :=
          (Bool.and_true woken).trans (Bool.and_eq_true_iff.1 hpermits).1
        obtain ⟨hrun, hthen⟩ | ⟨milliseconds, hdeadline, ho', hthen⟩ := ih hnext
        · refine .inl ⟨?_, hfirst.trans hthen⟩
          rw [Task.run_of_unfinished ho hpolled, if_pos hwoken]
          exact hrun
        · rw [Deadline.milliseconds_map_next] at hdeadline
          rw [List.append_assoc]
          exact .inr ⟨milliseconds, hdeadline, ho', hfirst.trans hthen⟩
      | false =>
        rw [hpermits] at hnext
        obtain ⟨milliseconds, hdeadline, hx⟩ :=
          Task.expire_eq_some_iff.1 (congrArg Watched.result hnext)
        cases congrArg Watched.events hnext
        cases hx
        rw [List.append_assoc]
        exact .inr ⟨milliseconds, hdeadline, rfl, hfirst.trans (single (.expire w₁))⟩

/-- A render is a session. It ends as it does without a deadline, or it is the deadline that ends
it. -/
theorem of_render {deadline : Option Deadline} {fuel : Nat} {scope : Scope} {frame : Frame}
    {o : Outcome} (h : w.render fuel deadline scope frame = some (o, w')) :
    (w.render fuel none scope frame = some (o, w') ∧
        Session (happenings (w.watch fuel deadline scope frame).events) w w') ∨
      ∃ milliseconds, deadline.map Deadline.milliseconds = some milliseconds ∧
        o = .error (.timeout milliseconds) ∧
        Session (happenings (w.watch fuel deadline scope frame).events ++ [.expired]) w w' := by
  have hwatch : w.watch fuel deadline scope frame =
      ⟨(w.watch fuel deadline scope frame).events, some (o, w')⟩ := by
    rw [← h, ← World.watch_result]
  obtain ⟨first, ⟨t, w₁⟩, next, hstart, hnext, hevents⟩ := Watched.exists_of_bind hwatch
  obtain ⟨during, ⟨o', w₂⟩, last, hrun, hlast, rfl⟩ := Watched.exists_of_bind hnext
  have hstarted : Task.start scope [] frame (.start 0) w = some (t, w₁) := by
    rw [← Task.watchStart_result, hstart]
  have hfirst : Session (happenings first) w w₁ := by
    have hleads := traces.watchStart (w := w) scope [] frame (.start 0)
    rw [hstart] at hleads
    exact hleads _ rfl
  have hconclude : World.conclude (o', w₂) = (o, w') ∧ Session (happenings last) w₂ w' := by
    cases o' with
    | error e =>
      cases hlast
      exact ⟨rfl, .begin w'⟩
    | ok u =>
      have hflush := World.Step.flush w₂
      cases hlast
      exact ⟨rfl, single hflush⟩
  rw [hevents, World.render_eq, hstarted, Option.bind_some]
  obtain ⟨hran, hduring⟩ | ⟨milliseconds, hdeadline, rfl, hduring⟩ := of_watchRun hrun
  · rw [happenings_append, happenings_append, hran, Option.map_some, hconclude.1]
    exact .inl ⟨rfl, hfirst.trans (hduring.trans hconclude.2)⟩
  · -- nothing is flushed when the deadline has passed
    cases hlast
    refine .inr ⟨milliseconds, hdeadline, rfl, ?_⟩
    rw [List.append_nil, happenings_append, List.append_assoc]
    exact hfirst.trans hduring

end Renders

end Session

/-! ## The seal -/

/-- Whether a session has been sealed: it says so through every handle, takes no text through any
of them, and has stored these texts. -/
structure World.Sealed {H : Host} (texts : H.State → List String) (stored : List String)
    (w : World H) : Prop where
  isHalted (handle : Channel) : w.runNow handle.isHalted = some (.ok true, w)
  write (handle : Channel) (text : String) :
    w.runNow (handle.write text) = some (.error .aborted, w)
  stored : texts w.host = stored

namespace World

variable {H : Host} {w : World H}

/-- Every handle to a halted render sees that it is. -/
theorem runNow_isHalted (hw : w.halted = true) (handle : Channel) :
    w.runNow handle.isHalted = some (.ok true, w) := by
  rw [handle.isHalted_eq]
  show some ((Except.ok w.halted : Except RenderError Bool), w) = _
  rw [hw]

/-- A stopped render takes no text through any handle, whatever its blocks make of texts. -/
theorem runNow_write_of_halted (hw : w.halted = true) (handle : Channel) (text : String) :
    w.runNow (handle.write text) = some (.error .aborted, w) := by
  cases handle with
  | nil =>
    have hwrite : w.write text = (.error .aborted, w) := if_pos hw
    show some (w.write text) = _
    rw [hwrite]
  | cons modifiers outer =>
    rw [Channel.write_cons]
    show w.runNow (if w.halted = true then throw .aborted else _ : Action Unit) = _
    rw [if_pos hw]
    rfl

/-- Whoever halts the session through a handle halts it for all. -/
theorem watchNow_halt (w : World H) (handle : Channel) :
    w.watchNow handle.halt =
      ⟨[.asked .halt, .answered .halt ()], some (.ok (), w.halt)⟩ := by
  rw [handle.halt_eq]
  rfl

end World

/-- Halting is one-way and seals the sink. Whatever has happened in a session: once it has been
halted, through whatever handle, or its deadline has passed, nothing is taken any more through any
handle, every handle says that the session has been halted, and what was stored by then is all that
is ever stored. This holds of every render, and of everything that is done with its handles. -/
theorem Session.halting_seals {H : Host} [Evaluator] {texts : H.State → List String}
    (hsink : H.Stores texts) :
    (∀ {before after : List Happening} {x : Happening} {w w' : World H}, x.Halts →
      Session (before ++ x :: after) w w' →
        (∀ y ∈ after, y.Refused) ∧ w'.Sealed texts (texts w.host ++ stored before)) ∧
    (∀ (handle : Channel) (w : World H), w.watchNow handle.halt =
      ⟨[.asked .halt, .answered .halt ()], some (.ok (), w.halt)⟩) ∧
    ∀ {fuel : Nat} {deadline : Option Deadline} {scope : Scope} {frame : Frame} {o : Outcome}
      {w w' : World H}, w.render fuel deadline scope frame = some (o, w') →
        (w.render fuel none scope frame = some (o, w') ∧
          Session (happenings (w.watch fuel deadline scope frame).events) w w') ∨
        ∃ milliseconds, deadline.map Deadline.milliseconds = some milliseconds ∧
          o = .error (.timeout milliseconds) ∧
          Session (happenings (w.watch fuel deadline scope frame).events ++ [.expired]) w w' := by
  refine ⟨?_, fun handle w => w.watchNow_halt handle, Session.of_render⟩
  intro before after x w w' hx h
  obtain ⟨w₁, hbefore, hhalted, hafter⟩ := h.halted_between hx
  obtain ⟨hend, hrefused⟩ := hafter.of_halted hhalted
  -- what was stored before the halt is all that is stored
  have htexts : texts w'.host = texts w.host ++ stored before := by
    have hx : ∀ y ∈ [x], y.Refused := List.forall_mem_singleton.2 hx.refused
    rw [hafter.texts_eq hsink, hbefore.texts_eq hsink, stored_append, stored_of_refused hx,
      stored_of_refused hrefused, List.append_nil, List.append_nil]
  exact ⟨hrefused, fun handle => w'.runNow_isHalted hend handle,
    fun handle text => w'.runNow_write_of_halted hend handle text, htexts⟩

/-- Functions that never give a result. -/
@[reducible] def Functions.stalled : Functions where
  Pending := Unit
  Helper := Unit
  call _ _ _ := .pending false ()
  poll d := .pending false d
  help _ _ _ := none
  turn _ := .finish (.ok ())

/-- A text, and a block for a function that never gives a result. -/
def Scope.stalled : Scope := .mk [.text "a", .custom ⟨none, [], [], none⟩ "f" [.mk [.text "b"]]]

/-- A render that waits for ever is ended by its deadline, and leaves a session that is sealed. -/
theorem Session.halting_seals_stalled :
    let frame := Frame.ofData (.object (.given 0) (.ofList [("f", .function 1)]))
    let w : World Functions.stalled.host := .start [] .empty .builtin false
    let seen := (w.watch 9 (some ⟨5, none⟩) .stalled frame).events
    ∃ w', w.render 9 (some ⟨5, none⟩) .stalled frame = some (.error (.timeout 5), w') ∧
      Session (happenings seen ++ [.expired]) w w' ∧
      w'.Sealed id ([] ++ stored (happenings seen)) ∧ stored (happenings seen) = ["a"] := by
  intro frame w seen
  obtain ⟨hseal, -, hrender⟩ := Session.halting_seals (H := Functions.stalled.host)
    Functions.stalled.stores_host
  have hresult : ∃ w', w.render 9 (some ⟨5, none⟩) .stalled frame =
      some (.error (.timeout 5), w') := ⟨_, rfl⟩
  have hwaits : (w.render 9 none .stalled frame).isNone = true := rfl
  have hstored : stored (happenings seen) = ["a"] := rfl
  obtain ⟨w', hw'⟩ := hresult
  refine ⟨w', hw', ?_⟩
  obtain ⟨hnone, -⟩ | ⟨milliseconds, -, -, hsession⟩ := hrender hw'
  · rw [hnone] at hwaits
    cases hwaits
  · exact ⟨hsession, (hseal (x := .expired) trivial hsession).2, hstored⟩

end Stencil
