import Stencil.Proofs.Catalog
import Stencil.Proofs.Scope.Rebuild
import Stencil.Proofs.Scope.Similar
import Stencil.Proofs.Task.Similar

/-!
# Stencil.Proofs.Task.Alike — renders of scopes that are alike

A catalog that has some sources, and has compiled nothing else, gives out scopes that are like those
that its sources are compiled to, whenever that was done and whether or not details of errors were
asked for (`Catalog.Holds`). In such catalogs scopes that are alike come to the same when they are
rendered (`World.render_alike`).
-/

namespace Stencil

/-! ## Catalogs that have the same sources -/

/-- Whether a source is compiled to a scope, be details of errors asked for or not. -/
def Scope.Compiles (source : String) (s : Scope) : Prop :=
  ∃ debug, Scope.compileText debug source = .ok s

/-- Two programs compiled from one source, whatever their settings, are alike. -/
theorem Scope.Compiles.like {T : String → Scope → Prop} {source : String} {s s' : Scope}
    (h : Compiles source s) (h' : Compiles source s') : s.Like T s' := by
  obtain ⟨debug, hdebug⟩ := h
  obtain ⟨debug', hdebug'⟩ := h'
  obtain ⟨s'', hs'', hlike⟩ := compileText_like debug debug' source s hdebug
  cases hdebug'.symm.trans hs''
  exact hlike

namespace Catalog

variable {sources : String → Option String} {c c' : Catalog}

/-- Whether a catalog has these sources, each under its key, and has compiled nothing else. -/
structure Holds (sources : String → Option String) (c : Catalog) : Prop where
  source (key : String) : c.sources.lookup key = sources key
  compiled {key : String} {s : Scope} : c.compiled.lookup key = some s →
    ∃ source, sources key = some source ∧ Scope.Compiles source s

/-- A catalog that is asked for a template keeps its sources. -/
theorem Holds.get (h : c.Holds sources) (debug : Bool) (name : String) :
    (c.get debug name).2.Holds sources := by
  obtain heq | ⟨source, scope, -, hsource, hscope, heq⟩ := c.get_cases debug name
  · rw [heq]
    exact h
  rw [heq]
  refine ⟨h.source, fun {key s} hkey => ?_⟩
  rw [List.lookup_cons] at hkey
  cases hsame : key == normalizeName name with
  | true =>
    rw [hsame] at hkey
    cases hkey
    exact ⟨source, (h.source key).symm.trans (beq_iff_eq.1 hsame ▸ hsource), debug, hscope⟩
  | false =>
    rw [hsame] at hkey
    exact h.compiled hkey

/-- What is given out is what the source is compiled to, or the error that says why not. -/
theorem Holds.get_ok (h : c.Holds sources) {debug : Bool} {name : String} {s : Scope}
    (hget : (c.get debug name).1 = .ok s) :
    ∃ source, sources (normalizeName name) = some source ∧ Scope.Compiles source s := by
  unfold Catalog.get at hget
  dsimp only at hget
  split at hget
  · next hcompiled =>
    cases hget
    exact h.compiled hcompiled
  · cases hget
  · next source _ hsource =>
    rw [h.source] at hsource
    split at hget
    · next hscope =>
      cases hget
      exact ⟨source, hsource, debug, hscope⟩
    · cases hget

/-- A template cannot be looked up only if it was never added or its latest source does not
compile, and the error says which. -/
theorem Holds.get_error (h : c.Holds sources) {debug : Bool} {name : String} {e : RenderError}
    (hget : (c.get debug name).1 = .error e) :
    (sources (normalizeName name) = none ∧ e = .templateNotFound (normalizeName name)) ∨
      ∃ source e', sources (normalizeName name) = some source ∧
        Scope.compileText debug source = .error e' ∧
        e = .invalidTemplate (normalizeName name) e' := by
  unfold Catalog.get at hget
  dsimp only at hget
  split at hget
  · cases hget
  · next hsource =>
    rw [h.source] at hsource
    cases hget
    exact .inl ⟨hsource, rfl⟩
  · next source _ hsource =>
    rw [h.source] at hsource
    split at hget
    · cases hget
    · next e' he' =>
      cases hget
      exact .inr ⟨source, e', hsource, he', rfl⟩

/-- A template whose source compiles is given out. -/
theorem Holds.exists_get (h : c.Holds sources) (debug : Bool) {name source : String} {s : Scope}
    (hsource : sources (normalizeName name) = some source) (hs : Scope.Compiles source s) :
    ∃ s', (c.get debug name).1 = .ok s' ∧ Scope.Compiles source s' := by
  cases hget : (c.get debug name).1 with
  | ok s' =>
    obtain ⟨source', hsource', hs'⟩ := h.get_ok hget
    cases hsource.symm.trans hsource'
    exact ⟨s', rfl, hs'⟩
  | error e =>
    obtain ⟨hnone, -⟩ | ⟨source', e', hsource', he', -⟩ := h.get_error hget
    · cases hsource.symm.trans hnone
    · -- the source compiles, so it does in this catalog
      cases hsource.symm.trans hsource'
      obtain ⟨debug', hdebug'⟩ := hs
      obtain ⟨s'', hs'', -⟩ :=
        Scope.compileText_like (T := fun _ _ => False) debug' debug source s hdebug'
      cases hs''.symm.trans he'

/-- Catalogs with the same sources give out the same, but for the places of errors. -/
theorem Holds.get_matches {T : String → Scope → Prop} (h : c.Holds sources)
    (h' : c'.Holds sources) (debug : Bool) (name : String) :
    Matches (fun s s' => s.Like T s' ∧ ∃ source, sources (normalizeName name) = some source ∧
      Scope.Compiles source s) (c.get debug name).1 (c'.get debug name).1 := by
  cases hget : (c.get debug name).1 with
  | ok s =>
    obtain ⟨source, hsource, hs⟩ := h.get_ok hget
    obtain ⟨s', hget', hs'⟩ := h'.exists_get debug hsource hs
    rw [hget']
    exact .ok ⟨hs.like hs', source, hsource, hs⟩
  | error e =>
    cases hget' : (c'.get debug name).1 with
    | ok s' =>
      obtain ⟨source, hsource, hs'⟩ := h'.get_ok hget'
      obtain ⟨s, hs, -⟩ := h.exists_get debug hsource hs'
      -- one of the two cannot fail where the other compiles the same source
      cases hget.symm.trans hs
    | error e' =>
      refine .error ?_
      obtain ⟨hnone, rfl⟩ | ⟨source, e₁, hsource, he₁, rfl⟩ := h.get_error hget
      · obtain ⟨-, rfl⟩ | ⟨source, _, hsource, -⟩ := h'.get_error hget'
        · rfl
        · cases hnone.symm.trans hsource
      · obtain ⟨hnone, -⟩ | ⟨source', e₂, hsource', he₂, rfl⟩ := h'.get_error hget'
        · cases hnone.symm.trans hsource
        · cases hsource.symm.trans hsource'
          cases he₁.symm.trans he₂
          rfl

end Catalog

/-! ## Worlds whose templates are alike -/

/-- The templates whose steps may stand in place of a step that includes them: what the sources of
these names are compiled to. -/
def Scope.Placed (sources : String → Option String) (P : String → Prop) (name : String)
    (s : Scope) : Prop :=
  P name ∧ ∃ source, sources (normalizeName name) = some source ∧ Scope.Compiles source s

/-- What is known of the templates: how far out those look that may be rendered within some reach,
and that those whose steps may stand in place of an inclusion look no further out than their own
frame, which may then be the one around it. -/
structure Scope.Known (F : Reach → Frame → Frame → Prop) (N : Reach → String → Prop)
    (sources : String → Option String) (P : String → Prop) : Prop where
  frames : Frame.Kinship F
  inReach {r : Reach} {name source : String} {s : Scope} : N r name →
    sources (normalizeName name) = some source → Scope.Compiles source s → s.InReach N r
  placed {name : String} : P name → N (.hops 0) name
  named {name : String} : P name → ∀ {r : Reach} {f f' : Frame}, F r f f' →
    F (.hops 0) (f.named name) f'

section Alike

variable {H : Host} (L : H.Likeness) {F : Reach → Frame → Frame → Prop}
  {N : Reach → String → Prop} {sources : String → Option String} {P : String → Prop}

/-- What may stand for what in renders with these sources. -/
def Scope.correspondence (F : Reach → Frame → Frame → Prop) (N : Reach → String → Prop)
    (sources : String → Option String) (P : String → Prop) : Correspondence H where
  toKinship := Scope.kinship F N (Scope.Placed sources P)
  toLikeness := L
  catalogs c c' := c.Holds sources ∧ c'.Holds sources

variable {L}

/-- Includes are replaced by what the templates known from the start hold. -/
theorem Scope.Known.inPlace (h : Scope.Known F N sources P) :
    Scope.InPlace F N (Scope.Placed sources P) where
  within hT := by
    obtain ⟨hP, source, hsource, hs⟩ := hT
    exact h.inReach (h.placed hP) hsource hs
  named hT := h.named hT.1

/-- Two catalogs that hold the same sources answer alike, and what they answer runs alike, as
long as every template known keeps within its reach. -/
theorem Scope.Known.lawful (h : Scope.Known F N sources P) (hL : L.Kept F) :
    (Scope.correspondence L F N sources P).Lawful where
  host := hL
  template {c c' r name} debug hname hc := by
    have hmatches := hc.1.get_matches (T := Scope.Placed sources P) hc.2 debug name
    refine ⟨hmatches.mono ?_, hc.1.get debug name, hc.2.get debug name⟩
    rintro s s' ⟨hlike, source, hsource, hs⟩
    exact ⟨hlike, h.inReach hname hsource hs⟩
  left {c c' name} debug hleft hc := by
    obtain ⟨s, hP, source, hsource, hs⟩ := hleft
    obtain ⟨s', hget, hs'⟩ := hc.1.exists_get debug hsource hs
    exact ⟨s', ⟨hP, source, hsource, hs'⟩, hget, hc.1.get debug name, hc.2⟩
  right _ hright _ := by
    obtain ⟨_, ⟨⟩⟩ := hright
  now {r s s' f f'} channel site hs hf := by
    obtain ⟨⟨hlike⟩, hreach⟩ := hs
    refine (hlike.takeWhile).similar_runSteps h.frames h.inPlace ?_ hf channel site 0
    exact stepsInReach_iff.2 fun s hs =>
      stepsInReach_iff.1 hreach s (List.takeWhile_sublist _ |>.subset hs)
  later {r s s' f f'} channel site hs hf := by
    obtain ⟨⟨hlike⟩, hreach⟩ := hs
    have hlater := hlike.dropWhile
    -- as many steps have been run at once, so the others are at the same sites
    have hnow : (Scope.mk _).now.length = (Scope.mk _).now.length := hlike.takeWhile.length_eq
    refine ⟨hlater.eq_nil_iff, ?_⟩
    rw [← hnow]
    refine hlater.similar_runSteps h.frames h.inPlace ?_ hf channel site _
    exact stepsInReach_iff.2 fun s hs =>
      stepsInReach_iff.1 hreach s (List.dropWhile_sublist _ |>.subset hs)

end Alike

end Stencil
