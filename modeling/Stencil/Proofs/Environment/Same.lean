import Stencil.Environment.Basic
import Stencil.Proofs.Task.Alike

/-!
# Stencil.Proofs.Environment.Same — renders that come to the same

Two renders come to the same when one of them ends if the other one does, with the same outcome but
for the places of errors, and in states of the host that stand for one another. Scopes that are
alike, rendered in catalogs that have the same sources, do (`Environment.renderScope_same`).
-/

namespace Stencil

/-- The error without its place. -/
def Error.root : Error → Error
  | template e => .template e
  | render e => .render e.root

section Same

variable {H : Host} (L : H.Likeness)

/-- Whether two renders ended in the same way. -/
structure Rendered.Same (r r' : Rendered H) : Prop where
  outcome : r.outcome.mapError Error.root = r'.outcome.mapError Error.root
  host : L.state r.host r'.host

/-- Whether two renders, each given as many steps as it needs, end in the same way, if either ends
at all. -/
structure Rendered.SameEnd (x y : Nat → Option (Rendered H)) : Prop where
  left {n : Nat} {r : Rendered H} : x n = some r → ∃ m r', y m = some r' ∧ r.Same L r'
  right {n : Nat} {r' : Rendered H} : y n = some r' → ∃ m r, x m = some r ∧ r.Same L r'

variable {L}

/-- Outcomes that match are the same but for the places of errors. -/
theorem Matches.mapError_root {o o' : Outcome} (h : Matches Eq o o') :
    (o.mapError Error.render).mapError Error.root =
      (o'.mapError Error.render).mapError Error.root := by
  cases h with
  | ok => rfl
  | error he => exact congrArg (fun e => Except.error (Error.render e)) he

namespace Environment

variable (e : Environment) {c c' : Catalog} {s s' : H.State} {deadline : Option Deadline}

section Renders

variable {F : Reach → Frame → Frame → Prop} {N : Reach → String → Prop}
  {sources : String → Option String} {P : String → Prop}

/-- Renders start in worlds that correspond. -/
theorem worlds_start (hc : c.Holds sources) (hc' : c'.Holds sources) (hs : L.state s s') :
    (Scope.correspondence L F N sources P).Worlds (e.world c s) (e.world c' s') where
  host := hs
  halted := rfl
  fragments := .nil
  catalog := ⟨hc, hc'⟩
  modifiers := rfl
  debug := rfl

/-- Scopes that are alike come to the same in catalogs that have the same sources. -/
theorem renderScope_same (hL : L.Kept F) (h : Scope.Known F N sources P) (hc : c.Holds sources)
    (hc' : c'.Holds sources) {scope scope' : Scope} {r : Reach}
    (hlike : scope.Like (Scope.Placed sources P) scope') (hreach : scope.InReach N r)
    {f f' : Frame} (hf : F r f f') (hs : L.state s s') :
    Rendered.SameEnd L (fun n => e.renderScope n deadline c scope f s)
      (fun n => e.renderScope n deadline c' scope' f' s') where
  left {n r} hr := by
    obtain ⟨⟨o, w⟩, hrender, rfl⟩ := Option.map_eq_some_iff.1 hr
    obtain ⟨m, o', w', hrender', ho, hw⟩ := World.render_similar (h.lawful hL) deadline
      ⟨hlike, hreach⟩ hf (e.worlds_start hc hc' hs) hrender
    exact ⟨m, _, Option.map_eq_some_iff.2 ⟨_, hrender', rfl⟩, ho.mapError_root, hw.host⟩
  -- the correspondence is symmetric, so the other direction is the same argument
  right {n r'} hr' := by
    obtain ⟨⟨o', w'⟩, hrender', rfl⟩ := Option.map_eq_some_iff.1 hr'
    have hflip : (Scope.correspondence L F N sources P).flip.scopes r scope' scope :=
      ⟨hlike, hreach⟩
    obtain ⟨m, o, w, hrender, ho, hw⟩ := World.render_similar (h.lawful hL).flip deadline hflip
      hf (e.worlds_start hc hc' hs).flip hrender'
    exact ⟨m, _, Option.map_eq_some_iff.2 ⟨_, hrender, rfl⟩, ho.symm.mapError_root, hw.host⟩

end Renders

end Environment

end Same

end Stencil
