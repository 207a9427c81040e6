import Stencil.Proofs.Catalog
import Stencil.Proofs.Task.Beside
import Stencil.Proofs.Task.Functions
import Stencil.Proofs.Task.Unwind

/-!
# Stencil.Proofs.Task.Failure — renders in which more fails

Of two worlds that differ only in that something fails in the first of them, be it the sink, a
function, a modifier or a template, the first leads through the same events as the second up to
the failure, and there it ends (`World.render_stops_at_failure`). A sink that refuses a text after
so many others is such a difference, whatever the number (`World.failsFirst_limited`).
-/

namespace Stencil

/-! ## Worlds in which more fails -/

/-- Whether the first fails, or both are the same and leave related states. -/
def FailsOrFollows {α σ : Type} (fails : α → Prop) (R : σ → σ → Prop) (x y : α × σ) : Prop :=
  fails x.1 ∨ (x.1 = y.1 ∧ R x.2 y.2)

/-- Whether a host does the same in related states, unless something fails in the first. -/
structure Host.FailsFirst (H : Host) (R : H.State → H.State → Prop) : Prop where
  write {s t : H.State} (text : String) : R s t →
    FailsOrFollows (fun r => ∃ e, r = .error e) R (H.write text s) (H.write text t)
  flush {s t : H.State} : R s t →
    FailsOrFollows (fun r => ∃ e, r = .error e) R (H.flush s) (H.flush t)
  call {s t : H.State} (f : Nat) (frame : Frame) (args : List Value) : R s t →
    FailsOrFollows (fun r => ∃ e, r = .ready (.error e)) R (H.call f frame args s)
      (H.call f frame args t)
  poll {s t : H.State} (d : H.Pending) : R s t →
    FailsOrFollows (fun r => ∃ e, r = .ready (.error e)) R (H.poll d s) (H.poll d t)
  help {s t : H.State} (f : Nat) (frame : Frame) (bodies : Nat) : R s t →
    FailsOrFollows (fun _ => False) R (H.help f frame bodies s) (H.help f frame bodies t)
  turn {s t : H.State} (h : H.Helper) : R s t →
    FailsOrFollows (fun _ => False) R (H.turn h s) (H.turn h t)

/-- Whether worlds differ only in what fails in the first of them: the sink, the functions, some
modifiers or some templates. -/
structure World.FailsFirst {H : Host} (R : H.State → H.State → Prop) (w v : World H) : Prop where
  host : R w.host v.host
  halted : w.halted = v.halted
  fragments : w.fragments = v.fragments
  modify (name : String) (x : Value) (args : List Value) :
    (∃ e, w.modifiers.apply name x args = .error e) ∨
      w.modifiers.apply name x args = v.modifiers.apply name x args
  template (name : String) :
    (∃ e, (w.catalog.get w.debug name).1 = .error e) ∨
      (w.catalog.get w.debug name).1 = (v.catalog.get v.debug name).1

section Worlds

variable {H : Host} {R : World H → World H → Prop} {w v : World H}

/-- Answers that agree or fail on one side agree up to a failure. -/
theorem World.agree_watchAnswer {q : Request} {a b : q.Answer × World H}
    (hw : w.answer? q = some a) (hv : v.answer? q = some b)
    (h : FailsOrFollows (fun r => ∃ e, q.failure? r = some e) R a b) :
    Watched.Agree Event.IsFailure (Beside R) (w.watchAnswer q) (v.watchAnswer q) := by
  rcases h with he | ⟨heq, h⟩
  · unfold watchAnswer
    rw [hw, hv]
    exact .inr ⟨[.asked q], .answered q a.1, [], rfl, he, ⟨[.answered q b.1], rfl⟩⟩
  · exact agree_watchAnswer_of_eq hw hv heq h

/-- What is seen of a result that fails or follows. -/
theorem World.agree_result {a b : Progressed H.Pending × World H} (asked : List Event)
    (h : FailsOrFollows (fun r => ∃ e, r = .ready (.error e)) R a b) :
    Watched.Agree Event.IsFailure (Beside R) ⟨asked ++ resultEvents a.1, some a⟩
      ⟨asked ++ resultEvents b.1, some b⟩ := by
  obtain ⟨a, w'⟩ := a
  obtain ⟨b, v'⟩ := b
  obtain ⟨e, rfl⟩ | ⟨rfl, h⟩ := h
  · exact .inr ⟨asked, .returned (.error e), [], rfl, ⟨e, rfl⟩, List.prefix_append asked _⟩
  · exact .inl ⟨rfl, .some ⟨rfl, h⟩⟩

end Worlds

namespace World.FailsFirst

variable {H : Host} {R : H.State → H.State → Prop} (hR : H.FailsFirst R) {w v : World H}
  (h : w.FailsFirst R v)
include hR h

/-- The two sinks take the same text, or one of them fails. -/
theorem write (text : String) :
    FailsOrFollows (fun r => ∃ e, failure? r = some e) (World.FailsFirst R) (w.write text)
      (v.write text) := by
  unfold World.write
  by_cases hhalted : v.halted = true
  · rw [if_pos hhalted, if_pos (h.halted.trans hhalted)]
    exact .inr ⟨rfl, h⟩
  rw [if_neg hhalted, if_neg (h.halted ▸ hhalted)]
  split
  · exact .inr ⟨rfl, h⟩
  · obtain ⟨e, he⟩ | ⟨heq, hstate⟩ := hR.write text h.host
    · exact .inl ⟨e, congrArg failure? he⟩
    · exact .inr ⟨heq, { h with host := hstate }⟩

/-- Every request that the render answers itself is answered alike, up to a failure. -/
theorem answer (q : Request) :
    Watched.Agree Event.IsFailure (Beside (World.FailsFirst R)) (w.watchAnswer q)
      (v.watchAnswer q) := by
  cases q with
  | call | custom | enter => exact .stuck
  | write text => exact agree_watchAnswer rfl rfl (write hR h text)
  | isHalted => exact agree_watchAnswer rfl rfl (.inr ⟨h.halted, h⟩)
  | halt => exact agree_watchAnswer rfl rfl (.inr ⟨rfl, { h with halted := rfl }⟩)
  | modify name x args =>
    refine agree_watchAnswer rfl rfl ?_
    obtain ⟨e, he⟩ | heq := h.modify name x args
    · exact .inl ⟨e, congrArg failure? he⟩
    · exact .inr ⟨heq, h⟩
  | declare name fragment =>
    -- what is declared joins the same fragments on both sides
    refine agree_watchAnswer rfl rfl (.inr ⟨rfl, { h with fragments := ?_ }⟩)
    show (name, fragment) :: w.fragments.filter _ = (name, fragment) :: v.fragments.filter _
    rw [h.fragments]
  | resolve name =>
    refine agree_watchAnswer rfl rfl (.inr ⟨?_, h⟩)
    exact congrArg (List.lookup name) h.fragments
  | template name =>
    refine agree_watchAnswer rfl rfl ?_
    obtain ⟨e, he⟩ | heq := h.template name
    · exact .inl ⟨e, congrArg failure? he⟩
    · refine .inr ⟨heq, { h with template := fun other => ?_ }⟩
      show (∃ e, ((w.catalog.get w.debug name).2.get w.debug other).1 = .error e) ∨
        ((w.catalog.get w.debug name).2.get w.debug other).1 =
          ((v.catalog.get v.debug name).2.get v.debug other).1
      rw [Catalog.get_get, Catalog.get_get]
      exact h.template other

end World.FailsFirst

/-- Worlds that differ only in what fails in the first of them are alike up to a failure. -/
theorem Host.FailsFirst.stayAlike {H : Host} {R : H.State → H.State → Prop}
    (hR : H.FailsFirst R) : World.StayAlike Event.IsFailure (World.FailsFirst R) where
  answer q h := h.answer hR q
  call {w v} f frame args h := by
    have hcall := hR.call f frame args h.host
    unfold World.watchCall
    generalize H.call f frame args w.host = x at hcall ⊢
    generalize H.call f frame args v.host = y at hcall ⊢
    refine World.agree_result (a := (x.1, { w with host := x.2 }))
      (b := (y.1, { v with host := y.2 })) [.asked (.call f frame args)] ?_
    exact hcall.imp id fun ⟨heq, hstate⟩ => ⟨heq, { h with host := hstate }⟩
  poll {w v} d h := by
    have hpoll := hR.poll d h.host
    unfold World.watchPoll
    generalize H.poll d w.host = x at hpoll ⊢
    generalize H.poll d v.host = y at hpoll ⊢
    refine World.agree_result (a := (x.1, { w with host := x.2 }))
      (b := (y.1, { v with host := y.2 })) [] ?_
    exact hpoll.imp id fun ⟨heq, hstate⟩ => ⟨heq, { h with host := hstate }⟩
  help {w v} f block h := by
    obtain hno | ⟨heq, hstate⟩ := hR.help f block.frame block.bodies.length h.host
    · exact hno.elim
    · exact .inl ⟨rfl, .some ⟨heq, { h with host := hstate }⟩⟩
  turn {w v} h' h := by
    obtain hno | ⟨heq, hstate⟩ := hR.turn h' h.host
    · exact hno.elim
    · exact ⟨heq, { h with host := hstate }⟩

/-! ## A sink that is full -/

namespace Host

variable (H : Host) (e : RenderError)

/-- The host with a sink that, when a number is set, takes so many texts more and refuses all
others with an error. -/
@[reducible] def limited : Host where
  State := H.State × Option Nat
  Pending := H.Pending
  Helper := H.Helper
  write text s :=
    match s.2 with
    | some 0 => (.error e, s)
    | left =>
      let (r, t) := H.write text s.1
      (r, (t, left.map (· - 1)))
  flush s :=
    let (r, t) := H.flush s.1
    (r, (t, s.2))
  call f frame args s :=
    let (r, t) := H.call f frame args s.1
    (r, (t, s.2))
  poll d s :=
    let (r, t) := H.poll d s.1
    (r, (t, s.2))
  help f frame bodies s :=
    let (h, t) := H.help f frame bodies s.1
    (h, (t, s.2))
  turn h s :=
    let (turn, t) := H.turn h s.1
    (turn, (t, s.2))

/-- A careful host whose sink fails in the end is careful. -/
theorem Careful.limited {H : Host} (h : H.Careful) : (H.limited e).Careful :=
  fun helper s => h helper s.1

/-- Whether two states of this host differ in nothing but that the second has no number set. -/
def Lifted (s t : (H.limited e).State) : Prop := s.1 = t.1 ∧ t.2 = none

/-- **A sink that takes a few texts and then fails**, beside one that never does: up to the failure
they are alike. -/
theorem failsFirst_limited : (H.limited e).FailsFirst (Lifted H e) where
  write {s t} text h := by
    obtain ⟨s, left⟩ := s
    obtain ⟨_, _⟩ := t
    obtain ⟨rfl, rfl⟩ := h
    -- no text is left, or one, or more: only the one between tells the two apart
    rcases left with _ | _ | n
    · exact .inr ⟨rfl, rfl, rfl⟩
    · exact .inl ⟨e, rfl⟩
    · exact .inr ⟨rfl, rfl, rfl⟩
  flush {s t} h := by
    obtain ⟨_, _⟩ := t
    obtain ⟨rfl, rfl⟩ := h
    exact .inr ⟨rfl, rfl, rfl⟩
  call {s t} f frame args h := by
    obtain ⟨_, _⟩ := t
    obtain ⟨rfl, rfl⟩ := h
    exact .inr ⟨rfl, rfl, rfl⟩
  poll {s t} d h := by
    obtain ⟨_, _⟩ := t
    obtain ⟨rfl, rfl⟩ := h
    exact .inr ⟨rfl, rfl, rfl⟩
  help {s t} f frame bodies h := by
    obtain ⟨_, _⟩ := t
    obtain ⟨rfl, rfl⟩ := h
    exact .inr ⟨rfl, rfl, rfl⟩
  turn {s t} helper h := by
    obtain ⟨_, _⟩ := t
    obtain ⟨rfl, rfl⟩ := h
    exact .inr ⟨rfl, rfl, rfl⟩

end Host

/-- A world whose sink refuses all texts after the first `k` differs from the world whose sink
takes them only in what fails. -/
theorem World.failsFirst_limited {H : Host} {e : RenderError} (w : World (H.limited e)) (k : Nat) :
    World.FailsFirst (H.Lifted e) { w with host := (w.host.1, some k) }
      { w with host := (w.host.1, none) } where
  host := ⟨rfl, rfl⟩
  halted := rfl
  fragments := rfl
  modify _ _ _ := .inr rfl
  template _ := .inr rfl

/-! ## The first failure -/

/-- Whether the last event that is seen is a failure with this error, and the others, which come
before it, are none. -/
def FailsAfter (before : List Event) (e : RenderError) (seen : List Event) : Prop :=
  (∀ b ∈ before, b.failure? = none) ∧ ∃ ev, seen = before ++ [ev] ∧ ev.failure? = some e

/-- A text that the sink has taken is no failure. -/
theorem Event.text?_of_failure {ev : Event} {e : RenderError} (h : ev.failure? = some e) :
    ev.text? = none := by
  cases ev with
  | asked | returned | flushed => rfl
  | answered q a =>
    cases q with
    | isHalted | halt | modify | declare | resolve | template | call | custom | enter => rfl
    | write text =>
      cases a with
      | ok u => cases h
      | error e' => rfl

theorem FailsAfter.written_eq {before seen : List Event} {e : RenderError}
    (h : FailsAfter before e seen) : written seen = written before := by
  obtain ⟨-, ev, rfl, he⟩ := h
  rw [written, List.filterMap_append, List.filterMap_cons_none (Event.text?_of_failure he)]
  exact List.append_nil _

/-- What is seen up to some failure is what is seen up to the first. -/
theorem FailsAfter.eq_of_append {before before' seen more : List Event} {e : RenderError}
    {ev : Event} (h : FailsAfter before e seen) (hseen : seen = before' ++ ev :: more)
    (hev : ev.IsFailure) : before' = before := by
  obtain ⟨hbefore, last, rfl, -⟩ := h
  obtain ⟨e', he'⟩ := hev
  obtain ⟨more', rfl, hrest⟩ | ⟨more', rfl, hrest⟩ := List.append_eq_append_iff.1 hseen
  · cases more' with
    | nil => exact List.append_nil before
    | cons x more' =>
      -- nothing stands behind the last event
      obtain ⟨-, hnil⟩ := List.cons.inj hrest
      exact absurd hnil.symm (List.append_ne_nil_of_right_ne_nil more' (List.cons_ne_nil ev more))
  · cases more' with
    | nil => exact (List.append_nil before').symm
    | cons x more' =>
      obtain ⟨rfl, -⟩ := List.cons.inj hrest
      have hnone := hbefore ev (List.mem_append_right before' List.mem_cons_self)
      rw [hnone] at he'
      cases he'

/-! ## Rendering -/

section Render

variable {H : Host} {R : H.State → H.State → Prop} {w v : World H}

/-- The two sinks are flushed alike, up to a failure. -/
theorem World.FailsFirst.agree_watchFlush (hR : H.FailsFirst R) (h : w.FailsFirst R v) :
    Watched.Agree Event.IsFailure (World.Beside (World.FailsFirst R)) w.watchFlush
      v.watchFlush := by
  obtain ⟨e, he⟩ | ⟨heq, hstate⟩ := hR.flush h.host
  · exact .inr ⟨[], _, [], rfl, ⟨e, congrArg failure? he⟩, List.nil_prefix⟩
  · exact .inl ⟨congrArg (fun r => [Event.flushed r]) heq, .some ⟨heq, { h with host := hstate }⟩⟩

variable [Evaluator]

/-- Renders in worlds that differ only in what fails in the first of them lead through the same
events up to a failure. -/
theorem World.FailsFirst.agree_watch (hR : H.FailsFirst R) (h : w.FailsFirst R v) (fuel : Nat)
    (deadline : Option Deadline) (scope : Scope) (frame : Frame) :
    Watched.Agree Event.IsFailure (World.Beside (World.FailsFirst R))
      (w.watch fuel deadline scope frame) (v.watch fuel deadline scope frame) :=
  hR.stayAlike.agree_render (fun h => { h with halted := rfl }) (agree_watchFlush hR) h fuel deadline
    scope frame

/-- Of two worlds that differ only in what fails in the first of them, the first leads through the
same events as the second, to the same end, if nothing fails in it. If something does, that is the
last thing to be seen, the render comes to its end and fails with this error, everything before is
seen in the other world as well, and a sink that stores texts has stored those that were written
before. -/
theorem World.render_stops_at_failure (hH : H.Careful) (hR : H.FailsFirst R)
    (h : w.FailsFirst R v) (fuel : Nat) (deadline : Option Deadline) (scope : Scope)
    (frame : Frame) :
    let seen := (w.watch fuel deadline scope frame).events
    let other := (v.watch fuel deadline scope frame).events
    ((∀ ev ∈ seen, ev.failure? = none) ∧ seen = other ∧
      Option.Rel (World.Beside (World.FailsFirst R)) (w.render fuel deadline scope frame)
        (v.render fuel deadline scope frame)) ∨
    ∃ before e, FailsAfter before e seen ∧ before <+: other ∧
      ∃ enough o w', w.render enough deadline scope frame = some (o, w') ∧
        (w.watch enough deadline scope frame).events = seen ∧ IsError e o ∧
        ∀ texts, H.Stores texts → texts w'.host = texts w.host ++ written before := by
  intro seen other
  have hagree := h.agree_watch hR fuel deadline scope frame
  have hceases := w.ceases_watch hH fuel deadline scope frame
  rcases hceases.failStop with
    ⟨hnone, -⟩ | ⟨before, ev, e, hseen, hbefore, he, -⟩
  · rcases hagree with ⟨heq, hrel⟩ | ⟨before, ev, more, hseen, ⟨e, he⟩, -⟩
    · rw [World.watch_result, World.watch_result] at hrel
      exact .inl ⟨hnone, heq, hrel⟩
    · have hmem : ev ∈ seen := by
        rw [show seen = _ from hseen]
        exact List.mem_append_right _ List.mem_cons_self
      rw [hnone ev hmem] at he
      cases he
  · have hfails : FailsAfter before e seen := ⟨hbefore, ev, hseen, he⟩
    have hprefix : before <+: other := by
      rcases hagree with ⟨heq, -⟩ | ⟨before', ev', more, hseen', hev', hprefix⟩
      · rw [show other = seen from heq.symm, show seen = _ from hseen]
        exact List.prefix_append before [ev]
      · rwa [← hfails.eq_of_append hseen' hev']
    have hmem : ev ∈ seen := by
      rw [show seen = _ from hseen]
      exact List.mem_append_right before List.mem_cons_self
    -- with some more steps, if need be, the render comes to its end
    obtain ⟨enough, ⟨o, w'⟩, -, hw, -⟩ := hceases.ends ⟨ev, hmem, e, he⟩
    have hevents : (w.watch enough deadline scope frame).events = seen := by rw [hw]
    have hresult : (w.watch enough deadline scope frame).result = some (o, w') := by rw [hw]
    have herror : IsError e o := (w.ceases_watch hH enough deadline scope frame).failStop.of_last
      (hevents.trans hseen) he hresult
    have hrender : w.render enough deadline scope frame = some (o, w') :=
      (w.watch_result enough deadline scope frame).symm.trans hresult
    refine .inr ⟨before, e, hfails, hprefix, enough, o, w', hrender, hevents, herror, ?_⟩
    intro texts hstores
    rw [hstores.render hrender, hevents, hfails.written_eq]

end Render

/-! ## A sink that is full in the middle of a body -/

/-- The functions of the examples are careful. -/
theorem Functions.careful_driving : Functions.driving.host.Careful := by
  intro h texts
  have hpoll : ∀ child, (Turn.poll child Turn.driving.proceed).Careful := fun _ =>
    ⟨fun e => ⟨e, rfl, rfl⟩, trivial, trivial⟩
  cases h with
  | none => exact hpoll 0
  | some frame => exact fun child => ⟨⟨Turn.driving.proceed, rfl⟩, hpoll child⟩

/-- Four texts, two of them in the body of a block. -/
def Scope.fourTexts : Scope :=
  .mk [.text "a", .custom ⟨none, [], [], none⟩ "h" [.mk [.text "b", .text "c"]], .text "d"]

/-- A world whose sink takes so many texts. -/
def World.taking (left : Option Nat) : World (Functions.driving.host.limited (.io "full")) :=
  .start ([], left) .empty .builtin false

/-- The sink refuses the third of the texts, which is written by a body. -/
theorem World.render_stops_at_failure_fourTexts :
    let frame := Frame.ofData (.object (.given 0) (.ofList [("h", .function 1)]))
    let seen := ((taking (some 2)).watch 20 none .fourTexts frame).events
    let other := ((taking none).watch 20 none .fourTexts frame).events
    (Functions.driving.host.limited (.io "full")).Careful ∧
      (taking (some 2)).FailsFirst (Functions.driving.host.Lifted (.io "full")) (taking none) ∧
      ((taking (some 2)).render 20 none .fourTexts frame).map (·.2.host.1) = some ["a", "b"] ∧
      ∃ before e, FailsAfter before e seen ∧ before <+: other ∧
        ∃ enough o w', (taking (some 2)).render enough none .fourTexts frame = some (o, w') ∧
          ((taking (some 2)).watch enough none .fourTexts frame).events = seen ∧ IsError e o ∧
          ∀ texts, (Functions.driving.host.limited (.io "full")).Stores texts →
            texts w'.host = texts (taking (some 2)).host ++ written before := by
  intro frame seen other
  have hH := Functions.careful_driving.limited (.io "full")
  have hR := Functions.driving.host.failsFirst_limited (.io "full")
  have h : (taking (some 2)).FailsFirst _ (taking none) := (taking none).failsFirst_limited 2
  have hstored : ((taking (some 2)).render 20 none .fourTexts frame).map (·.2.host.1) =
      some ["a", "b"] := rfl
  refine ⟨hH, h, hstored, ?_⟩
  rcases render_stops_at_failure hH hR h 20 none .fourTexts frame with ⟨-, -, hrel⟩ | hfails
  · -- with room enough the render does not fail
    have hfull : ((taking (some 2)).render 20 none .fourTexts frame).map (·.1) =
        some (.error (.io "full")) := rfl
    have hroom : ((taking none).render 20 none .fourTexts frame).map (·.1) =
        some (.ok ()) := rfl
    generalize (taking (some 2)).render 20 none .fourTexts frame = full at hrel hfull
    generalize (taking none).render 20 none .fourTexts frame = room at hrel hroom
    cases hrel with
    | none => cases hfull
    | some hbeside =>
      have herror := Option.some.inj hfull
      have hsame := (herror.symm.trans hbeside.1).trans (Option.some.inj hroom)
      cases hsame
  · exact hfails

end Stencil
