import Stencil.Environment.Basic
import Stencil.Proofs.Scope.Details
import Stencil.Proofs.Segment.Parsed
import Stencil.Proofs.Task.Paired

/-!
# Stencil.Proofs.Environment.Details — renders with details of errors and without

Whether details of errors are asked for changes nothing in what a template does. The same segments
either do not compile, for the same fault, or they are rendered in step: with the same texts, calls
and fragments, and with errors that differ in their places and details only
(`Scope.details_change_nothing`).
-/

namespace Stencil

/-- What is left of an error without its place and details: the error that was raised, and of a
template that does not compile the fault. -/
def RenderError.kind (e : RenderError) : RenderError :=
  match e.root with
  | invalidTemplate name source => invalidTemplate name source.bare
  | root => root

theorem RenderError.kind_locate (e : RenderError) (position : Option Position) :
    (e.locate position).kind = e.kind := by
  unfold kind
  rw [root_locate]

/-- Nothing differs but the places and the details of errors. -/
def Pairing.undetailed : Pairing := ⟨fun _ => none, fun e e' => e.kind = e'.kind, Eq⟩

theorem Pairing.lawful_undetailed : undetailed.Lawful where
  refl _ := rfl
  locate {e e'} position h := (e.kind_locate position).trans (h.trans (e'.kind_locate none).symm)
  frames := Frame.kinship_eq

/-! ## Templates -/

/-- The catalog, with all that has been compiled without places for its errors. -/
def Catalog.bare (c : Catalog) : Catalog :=
  ⟨c.sources, c.compiled.map fun (name, scope) => (name, scope.bare)⟩

/-- Stripping details leaves every template under its key. -/
theorem Catalog.lookup_bare (compiled : List (String × Scope)) (key : String) :
    (compiled.map fun (name, scope) => (name, scope.bare)).lookup key =
      (compiled.lookup key).map Scope.bare := by
  induction compiled with
  | nil => rfl
  | cons entry compiled ih =>
    obtain ⟨name, scope⟩ := entry
    rw [List.map_cons, List.lookup_cons, List.lookup_cons, ih]
    cases key == name <;> rfl

/-- Asking for a template without details gives it without places, or the same kind of error, and
keeps the same. -/
theorem Catalog.get_bare (c : Catalog) (name : String) :
    Pairing.undetailed.Results Pairing.undetailed.Scopes (c.get true name).1
        (c.bare.get false name).1 ∧
      (c.bare.get false name).2 = (c.get true name).2.bare := by
  have hcompiled : c.bare.compiled.lookup (normalizeName name) =
      (c.compiled.lookup (normalizeName name)).map Scope.bare := lookup_bare _ _
  have hsources : c.bare.sources = c.sources := rfl
  unfold get
  dsimp only
  rw [hcompiled, hsources]
  -- either both keep the template compiled, or both compile the same source now
  cases c.compiled.lookup (normalizeName name) with
  | some scope => exact ⟨.ok rfl, rfl⟩
  | none =>
    cases c.sources.lookup (normalizeName name) with
    | none => exact ⟨.error rfl, rfl⟩
    | some source =>
      dsimp only [Option.map_none]
      rw [Scope.compileText_bare]
      cases Scope.compileText true source with
      | ok scope => exact ⟨.ok rfl, rfl⟩
      | error e =>
        have hkind : (RenderError.invalidTemplate (normalizeName name) e).kind =
            (RenderError.invalidTemplate (normalizeName name) e.bare).kind := by
          cases e <;> rfl
        exact ⟨.error hkind, rfl⟩

/-! ## Renders -/

section Rapport

variable {H : Host} (B : H.Bond)

/-- In what a render with details and one without may differ. -/
def Rapport.undetailed : Rapport H where
  toPairing := .undetailed
  toBond := B
  catalogs c c' := c' = c.bare
  debug := true
  debug' := false

variable {B}

/-- Nothing in a render depends on details of errors, if no function or helper does. -/
theorem Rapport.lawful_undetailed (hB : B.Kept .undetailed) : (undetailed B).Lawful where
  pairing := Pairing.lawful_undetailed
  host := hB
  template {c _} name hc := by
    cases hc
    exact c.get_bare name

/-- A render with details and one without start in worlds that stand for one another. -/
theorem Rapport.worlds_undetailed (catalog : Catalog) (modifiers : Modifiers) {s s' : H.State}
    (hs : B.state s s') :
    (undetailed B).Worlds (World.start s catalog modifiers true)
      (World.start s' catalog.bare modifiers false) where
  host := hs
  halted := rfl
  fragments := .nil
  catalog := rfl
  modifiers := rfl
  debug := rfl
  debug' := rfl

end Rapport

/-- Whether two renders ended in the same way, but for the places and details of errors. -/
structure World.SameEnd {H : Host} (B : H.Bond) (x y : Outcome × World H) : Prop where
  outcome : Pairing.undetailed.Results Eq x.1 y.1
  host : B.state x.2.host y.2.host

/-- A directive that calls a function without arguments. -/
def Segment.callAlone : List Segment :=
  [⟨.output, .start, none, none, some [.call "f" [] none], [], false, false⟩]

/-- What `Segment.callAlone` is compiled to without details. -/
def Scope.callAlone : Scope :=
  .mk [.output ⟨none, [⟨none, "f", [], none, none⟩], [], none⟩ [.slot 0]]

namespace Scope

/-- Asking for details of errors never changes what a template does. With details and without, the
same segments do not compile for the same fault, or they compile. Then, with the same templates,
modifiers and data, and with any functions and helpers that do not look at the places and details of
errors, the two renders can be watched side by side: they write the same texts, make the same calls,
hand out the same blocks and declare the same fragments, in the same order and with the same
answers, and end in the same way, or with errors that are the same but for their places and details;
or neither ends. Templates that have been compiled before are kept with places in one of the
catalogs and without in the other one. -/
theorem details_change_nothing (segments : List Segment) :
    (∃ e e', compile true segments = .error e ∧ compile false segments = .error e' ∧
      e.fault = e'.fault) ∨
    ∃ scope scope', compile true segments = .ok scope ∧ compile false segments = .ok scope' ∧
      ∀ (H : Host) (B : H.Bond), B.Kept .undetailed →
        ∀ (catalog : Catalog) (modifiers : Modifiers) (fuel : Nat) (deadline : Option Deadline)
          (frame : Frame) (s s' : H.State), B.state s s' →
          let on : World H := World.start s catalog modifiers true
          let off : World H := World.start s' catalog.bare modifiers false
          Watched.Paired .undetailed (World.SameEnd B) (on.watch fuel deadline scope frame)
              (off.watch fuel deadline scope' frame) ∧
            (on.watch fuel deadline scope frame).result =
              on.render fuel deadline scope frame ∧
            (off.watch fuel deadline scope' frame).result =
              off.render fuel deadline scope' frame := by
  have hbare : compile false segments = ((compile true segments).map bare).mapError .bare :=
    compile_bare segments
  -- compiling fails with details if it does without; otherwise the two programs differ only in
  -- places
  cases hscope : compile true segments with
  | error e =>
    rw [hscope] at hbare
    exact .inl ⟨e, e.bare, rfl, hbare, rfl⟩
  | ok scope =>
    rw [hscope] at hbare
    refine .inr ⟨scope, scope.bare, rfl, hbare, ?_⟩
    intro H B hB catalog modifiers fuel deadline frame s s' hs on off
    have hscopes : (Rapport.undetailed B).Scopes scope scope.bare := rfl
    have hframes : (Rapport.undetailed B).frames frame frame := rfl
    have hwatch := World.watch_paired (Rapport.lawful_undetailed hB) fuel deadline hscopes hframes
      (Rapport.worlds_undetailed catalog modifiers hs)
    exact ⟨hwatch.mono fun _ _ h => ⟨h.1, h.2.host⟩, World.watch_result .., World.watch_result ..⟩

/-- A call that fails with details fails without them, in the same way. -/
theorem details_change_nothing_failing :
    (Host.Bond.same Host.failing).Kept .undetailed ∧
      ∃ scope, compile true Segment.callAlone = .ok scope ∧
        ∃ e w, (World.start (H := Host.failing) () .empty .builtin true).render 9 none scope
            (.ofData (.object (.given 0) (.ofList [("f", .function 1)]))) = some (.error e, w) ∧
          e.kind = .callback "boom" := by
  have hkept := Host.Bond.kept_failing Pairing.lawful_undetailed
  refine ⟨hkept, ?_⟩
  have hcompile : compile false Segment.callAlone = .ok .callAlone := by cbv
  obtain ⟨e, e', -, he', -⟩ | ⟨scope, scope', hscope, hscope', hrenders⟩ :=
    details_change_nothing Segment.callAlone
  · cases hcompile.symm.trans he'
  cases hcompile.symm.trans hscope'
  refine ⟨scope, hscope, ?_⟩
  obtain ⟨hpaired, hon, hoff⟩ := hrenders Host.failing _ hkept .empty .builtin 9 none
    (.ofData (.object (.given 0) (.ofList [("f", .function 1)]))) () () rfl
  have hrun : ((World.start (H := Host.failing) () .empty .builtin false).render 9 none .callAlone
      (.ofData (.object (.given 0) (.ofList [("f", .function 1)])))).map (·.1) =
        some (.error (.callback "boom")) := rfl
  obtain ⟨⟨_, w'⟩, hoff', rfl⟩ := Option.map_eq_some_iff.1 hrun
  obtain ⟨⟨o, w⟩, hon', hends⟩ := hpaired.exists_left (hoff.trans hoff')
  obtain ⟨e, he, hkind⟩ : ∃ e, o = .error e ∧ e.kind = .callback "boom" := by
    cases hends.outcome with
    | error h => exact ⟨_, rfl, h⟩
  subst he
  exact ⟨e, w, hon.symm.trans hon', hkind⟩

end Scope

end Stencil
