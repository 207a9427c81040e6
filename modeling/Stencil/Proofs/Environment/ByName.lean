import Stencil.Proofs.Catalog
import Stencil.Proofs.Environment.Watch
import Stencil.Proofs.Frame.Doubled
import Stencil.Proofs.Task.Paired
import Stencil.Proofs.Task.Sound

/-!
# Stencil.Proofs.Environment.ByName — a template by its name, and its source

A template that is rendered by its name sees its data in a frame of that name inside another one;
the same source that is rendered as a text sees them in an outermost frame. To functions and helpers
that do not notice that, the two renders are in step all the same, and fail with the very same errors
(`Environment.renders_by_name`), but that a source that does not compile is known by the name of the
template. A function that looks whether there is a frame around its own can tell which it is
(`Environment.name_shows_in_frames`).
-/

namespace Stencil

/-! ## The same but for the frames -/

/-- Nothing differs but that the outermost frame may stand there twice, and the names of
templates. -/
def Pairing.doubled : Pairing := ⟨id, Eq, Frame.Doubled⟩

theorem Pairing.lawful_doubled : doubled.Lawful where
  refl _ := rfl
  locate {_ _} position h := congrArg (fun e : RenderError => e.locate position) h
  frames := Frame.kinship_doubled

namespace Pairing

/-- Results that stand for one another are equal, as values and errors are. -/
theorem Results.eq_of_doubled {α : Type} {r r' : Except RenderError α}
    (h : doubled.Results Eq r r') : r = r' := by
  cases h with
  | ok h => exact congrArg Except.ok h
  | error h => exact congrArg Except.error h

theorem scopes_doubled (s : Scope) : doubled.Scopes s s := s.relabel_id.symm

/-- A scope that is found, or the error in its place, stands for itself. -/
theorem results_scopes_doubled (r : Except RenderError Scope) :
    doubled.Results doubled.Scopes r r := by
  cases r with
  | ok s => exact .ok (scopes_doubled s)
  | error e => exact .error rfl

variable {P : Pairing}

/-- Requests that stand for one another show frames that do. -/
theorem Asks.frames {q q' : Request} {A : q.Answer → q'.Answer → Prop} (h : P.Asks q q' A) :
    List.Forall₂ P.frames q.frames q'.frames := by
  cases h with
  | write | isHalted | halt | modify | resolve | template => exact .nil
  | declare name h => exact .cons h.frame .nil
  | call i args h => exact .cons h .nil
  | custom i h => exact .cons h.frame .nil
  | enter channel site hs hf => exact .cons hf .nil

theorem Asks.frames_answer {q q' : Request} {A : q.Answer → q'.Answer → Prop} (h : P.Asks q q' A)
    {a : q.Answer} {a' : q'.Answer} (ha : A a a') :
    List.Forall₂ P.frames (Event.answered q a).frames (Event.answered q' a').frames := by
  cases h with
  | resolve name =>
    cases ha with
    | none => exact .nil
    | some h => exact .cons h.frame .nil
  | write | isHalted | halt | modify | declare | template | call | custom | enter => exact .nil

end Pairing

/-- The frames that are seen stand for one another. -/
theorem Watched.Paired.frames {P : Pairing} {α β : Type} {R : α → β → Prop} {x : Watched α}
    {y : Watched β} (h : Watched.Paired P R x y) :
    List.Forall₂ P.frames (x.events.flatMap Event.frames) (y.events.flatMap Event.frames) := by
  have hevents := h.events
  generalize x.events = es at hevents ⊢
  generalize y.events = es' at hevents ⊢
  induction hevents with
  | nil => exact .nil
  | cons hevent _ ih =>
    rw [List.flatMap_cons, List.flatMap_cons]
    refine List.rel_append ?_ ih
    cases hevent with
    | asked h => exact h.frames
    | answered h ha => exact h.frames_answer ha
    | returned | flushed => exact .nil

/-! ## Renders -/

/-- The error of a text, for a render by this name: if the text does not compile, the template of
the name is invalid. -/
def Error.ofTemplate (name : String) : Error → Error
  | template e => .render (.invalidTemplate (normalizeName name) e)
  | render e => .render e

/-- Whether catalogs give out the same. -/
def Catalog.Agree (debug : Bool) (c c' : Catalog) : Prop :=
  ∀ name, (c.get debug name).1 = (c'.get debug name).1

/-- Catalogs that give out the same go on to do so. -/
theorem Catalog.Agree.get {debug : Bool} {c c' : Catalog} (h : c.Agree debug c') (name : String) :
    (c.get debug name).2.Agree debug (c'.get debug name).2 := by
  intro other
  rw [get_get, get_get]
  exact h other

section Rapport

variable {H : Host} (B : H.Bond) (debug : Bool)

/-- In what a render by name and one of the source may differ. -/
def Rapport.doubled : Rapport H where
  toPairing := .doubled
  toBond := B
  catalogs := Catalog.Agree debug
  debug := debug
  debug' := debug

variable {B}

/-- Nothing in a render depends on whether the outermost frame stands there twice, if no function or
helper does. -/
theorem Rapport.lawful_doubled (hB : B.Kept .doubled) : (doubled B debug).Lawful where
  pairing := Pairing.lawful_doubled
  host := hB
  template {c c'} name hc := by
    have hsame : (c.get debug name).1 = (c'.get debug name).1 := hc name
    refine ⟨?_, hc.get name⟩
    show Pairing.doubled.Results Pairing.doubled.Scopes (c.get debug name).1 (c'.get debug name).1
    rw [hsame]
    exact Pairing.results_scopes_doubled _

end Rapport

/-- Whether a render by name ended as that of the source did. -/
structure Rendered.ByName {H : Host} (B : H.Bond) (debug : Bool) (name : String)
    (r r' : Rendered H) : Prop where
  outcome : r.outcome = r'.outcome.mapError (Error.ofTemplate name)
  host : B.state r.host r'.host
  catalog : r.catalog.Agree debug r'.catalog

namespace Environment

variable {H : Host} {B : H.Bond} (e : Environment)

/-- Renders start in worlds that stand for one another. -/
theorem worlds_doubled {c c' : Catalog} (hc : c.Agree e.options.debug c') {s s' : H.State}
    (hs : B.state s s') :
    (Rapport.doubled B e.options.debug).Worlds (e.world c s) (e.world c' s') where
  host := hs
  halted := rfl
  fragments := .nil
  catalog := hc
  modifiers := rfl
  debug := rfl
  debug' := rfl

/-- A scope comes to the same on an outermost frame and on one that has it inside itself again. -/
theorem watchScope_doubled (hB : B.Kept .doubled) (fuel : Nat) (deadline : Option Deadline)
    {c c' : Catalog} (hc : c.Agree e.options.debug c') (scope : Scope) {f f' : Frame}
    (hf : f.Doubled f') {s s' : H.State} (hs : B.state s s') (name : String) :
    Watched.Paired .doubled (Rendered.ByName B e.options.debug name)
      (e.watchScope fuel deadline c scope f s) (e.watchScope fuel deadline c' scope f' s') := by
  have hwatch := World.watch_paired (Rapport.lawful_doubled e.options.debug hB) fuel deadline
    (Pairing.scopes_doubled scope) hf (e.worlds_doubled hc hs)
  refine hwatch.bind ?_
  rintro ⟨o, w⟩ ⟨o', w'⟩ ⟨ho, hw⟩
  cases ho.eq_of_doubled
  refine .pure ⟨?_, hw.host, hw.catalog⟩
  cases o <;> rfl

/-- Rendering a template by the name under which it has just been added, and rendering its source as
a text, come to the same, whatever the source, the name, the data, the options and modifiers and the
other templates are, whenever their time is over, with any functions and helpers that notice neither
the names of templates nor that the outermost frame stands there twice. The two renders can be
watched side by side. They write the same texts, make the same calls, hand out the same blocks and
declare the same fragments, in the same order and with the same answers; they end with the same
outcome, or neither ends; the error is the very same, but that a source that does not compile is an
invalid template of the name. From all frames that are seen on the way every path leads to the same
data. -/
theorem renders_by_name (hB : B.Kept .doubled) (fuel : Nat) (catalog : Catalog)
    (name source : String) (data : Value) {host : H.State} (hhost : B.state host host)
    (polls : Option Nat) :
    let deadline := e.options.timeout.map (Deadline.mk · polls)
    let byName := e.watchNamed fuel deadline (catalog.add name source) name data host
    let asText := e.watchText fuel (catalog.add name source) source data host polls
    byName.result = e.renderNamed fuel deadline (catalog.add name source) name data host ∧
      asText.result = e.renderText fuel (catalog.add name source) source data host polls ∧
      Watched.Paired .doubled (Rendered.ByName B e.options.debug name) byName asText ∧
      List.Forall₂ (fun f f' => ∀ path : String, f.lookup path = f'.lookup path)
        (byName.events.flatMap Event.frames) (asText.events.flatMap Event.frames) := by
  intro deadline byName asText
  have hpaired : Watched.Paired .doubled (Rendered.ByName B e.options.debug name)
      byName asText := by
    have hget := catalog.get_add e.options.debug name source
    have hagree : ((catalog.add name source).get e.options.debug name).2.Agree e.options.debug
        (catalog.add name source) := (catalog.add name source).get_get e.options.debug name
    show Watched.Paired _ _ (e.watchNamed _ _ _ _ _ _) (e.watchText _ _ _ _ _ _)
    unfold watchNamed watchText Environment.compile
    -- a source that has just been added is compiled when it is asked for, like a text
    generalize (catalog.add name source).get e.options.debug name = kept at hget hagree ⊢
    obtain ⟨got, catalog'⟩ := kept
    dsimp only at hget hagree
    cases hcompile : Scope.compileText e.options.debug source with
    | ok scope =>
      rw [hcompile] at hget
      cases hget
      exact e.watchScope_doubled hB fuel _ hagree scope (Frame.doubled_named data name) hhost name
    | error error =>
      rw [hcompile] at hget
      cases hget
      exact .pure ⟨rfl, hhost, hagree⟩
  refine ⟨e.watchNamed_result .., e.watchText_result .., hpaired, ?_⟩
  exact hpaired.frames.imp fun f f' hf path => hf.lookup_eq path

/-- A template with a call, rendered by its name. -/
theorem renders_by_name_call :
    (Host.Bond.same Host.mute.recorded).Kept .doubled ∧
      ∃ r, (ofOptions .default).renderNamed (H := Host.mute.recorded) 9 none
          (Catalog.empty.add "t" Segment.callSource) "t"
          (.object (.given 0) (.ofList [("f", .function 1), ("x", .text "v")])) ((), []) = some r ∧
        r.host.2 = [.called 1 [.text "v"]] := by
  have hkept := Host.Bond.kept_mute .doubled
  refine ⟨hkept, ?_⟩
  let data := Value.object (.given 0) (.ofList [("f", .function 1), ("x", .text "v")])
  let catalog := Catalog.empty.add "t" Segment.callSource
  have hhost : (Host.Bond.same Host.mute.recorded).state ((), []) ((), []) := rfl
  obtain ⟨hnamed, htext, hpaired, -⟩ := renders_by_name (ofOptions .default) hkept 9 .empty "t"
    Segment.callSource data hhost none
  have hrun : ((ofOptions .default).renderText (H := Host.mute.recorded) 9 catalog
      Segment.callSource data ((), [])).map (·.host.2) = some [.called 1 [.text "v"]] := by
    have hcompile : (ofOptions .default).compile Segment.callSource = .ok .callOutput :=
      Scope.compileText_callSource
    unfold renderText
    rw [hcompile]
    rfl
  obtain ⟨r', hr', heffects⟩ := Option.map_eq_some_iff.1 hrun
  obtain ⟨r, hr, hends⟩ := hpaired.exists_left (htext.trans hr')
  exact ⟨r, hnamed.symm.trans hr, (congrArg Prod.snd hends.host).trans heffects⟩

end Environment

/-! ## What can tell the two renders apart -/

/-- A host whose functions tell whether there is a frame around the one that they are given. -/
def Host.looking : Host where
  State := Unit
  Pending := Empty
  Helper := Empty
  write _ _ := (.ok (), ())
  flush _ := (.ok (), ())
  call _ f _ _ := (.ready (.ok (.bool f.parent.isSome)), ())
  poll d _ := nomatch d
  help _ _ _ _ := (none, ())
  turn h _ := nomatch h

namespace Environment

/-- A function that inspects no names, but looks for a frame around its own, finds one when the
template is rendered by its name, and none when its source is rendered as a text. -/
theorem name_shows_in_frames :
    (∀ i data name name' parent args s,
      Host.looking.call i (.mk data name parent) args s =
        Host.looking.call i (.mk data name' parent) args s) ∧
      let e := ofOptions .default
      let catalog := Catalog.empty.add "t" Segment.callSource
      let data := Value.object (.given 0) (.ofList [("f", .function 1), ("x", .text "v")])
      ((e.renderNamed (H := Host.looking.recorded) 9 none catalog "t" data ((), [])).map
        (·.host.2) = some [.called 1 [.text "v"], .wrote "true"]) ∧
      (e.renderText (H := Host.looking.recorded) 9 catalog Segment.callSource data ((), [])).map
        (·.host.2) = some [.called 1 [.text "v"], .wrote "false"] := by
  refine ⟨fun _ _ _ _ _ _ _ => rfl, ?_, ?_⟩
  · -- the source is compiled when the template is asked for
    obtain ⟨catalog, hget⟩ : ∃ catalog, (Catalog.empty.add "t" Segment.callSource).get
        (ofOptions .default).options.debug "t" = (.ok .callOutput, catalog) := by
      refine ⟨_, Prod.ext ((Catalog.empty.get_add false "t" Segment.callSource).trans ?_) rfl⟩
      rw [Scope.compileText_callSource]
      rfl
    unfold renderNamed
    rw [hget]
    rfl
  · have hcompile : (ofOptions .default).compile Segment.callSource = .ok .callOutput :=
      Scope.compileText_callSource
    unfold renderText
    rw [hcompile]
    rfl

end Environment

end Stencil
