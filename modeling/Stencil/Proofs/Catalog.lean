import Stencil.Catalog

/-!
# Stencil.Proofs.Catalog — asking for templates

A catalog that has been asked for a template keeps what it has compiled. That is all it does: it
gives out the same templates as before (`Catalog.get_get`). A template that has just been added is
compiled when it is asked for (`Catalog.get_add`).
-/

namespace Stencil.Catalog

variable (c : Catalog) (debug : Bool)

/-- What is compiled when a template is asked for is kept under its name, or nothing is. -/
theorem get_cases (name : String) :
    (c.get debug name).2 = c ∨
      ∃ source scope, c.compiled.lookup (normalizeName name) = none ∧
        c.sources.lookup (normalizeName name) = some source ∧
        Scope.compileText debug source = .ok scope ∧
        (c.get debug name).2 =
          { c with compiled := (normalizeName name, scope) :: c.compiled } := by
  unfold get
  dsimp only
  -- what is kept is given out, what is unknown is refused, and a source is compiled
  split
  · exact .inl rfl
  · exact .inl rfl
  · next source hcompiled hsource =>
    split
    · next scope hscope => exact .inr ⟨source, scope, hcompiled, hsource, hscope, rfl⟩
    · exact .inl rfl

/-- Asking for a template changes nothing in what is given out. -/
theorem get_get (name other : String) :
    ((c.get debug name).2.get debug other).1 = (c.get debug other).1 := by
  obtain h | ⟨source, scope, hcompiled, hsource, hscope, h⟩ := c.get_cases debug name
  · rw [h]
  rw [h]
  -- only the template that has just been compiled is found elsewhere now, and it is the same
  by_cases heq : normalizeName other = normalizeName name
  · unfold get
    dsimp only
    rw [heq, List.lookup_cons_self, hcompiled, hsource]
    dsimp only
    rw [hscope]
  · unfold get
    dsimp only
    rw [List.lookup_cons, beq_false_of_ne heq]
    dsimp only
    rcases c.compiled.lookup (normalizeName other) with _ | kept
    · rcases c.sources.lookup (normalizeName other) with _ | text
      · rfl
      · dsimp only
        cases Scope.compileText debug text <;> rfl
    · rfl

/-- Nothing is found under the name that has been taken out; all else is as before. -/
theorem lookup_without {α : Type} (entries : List (String × α)) (name key : String) :
    (without entries name).lookup key = if key = name then none else entries.lookup key := by
  induction entries with
  | nil => exact (ite_self none).symm
  | cons entry entries ih =>
    obtain ⟨kept, a⟩ := entry
    unfold without at ih ⊢
    by_cases hkept : kept = name
    · rw [List.filter_cons_of_neg (by simp [hkept]), ih, List.lookup_cons, hkept]
      split
      · rfl
      · next hkey => rw [beq_false_of_ne hkey]
    · rw [List.filter_cons_of_pos (by simp [hkept]), List.lookup_cons, List.lookup_cons, ih]
      split
      · next heq => rw [if_neg (beq_iff_eq.1 heq ▸ hkept)]
      · rfl

/-- A template that has just been added is compiled when it is asked for. -/
theorem get_add (name source : String) :
    ((c.add name source).get debug name).1 =
      (Scope.compileText debug source).mapError (.invalidTemplate (normalizeName name)) := by
  have hcompiled : (c.add name source).compiled.lookup (normalizeName name) = none := by
    show (without c.compiled (normalizeName name)).lookup (normalizeName name) = none
    rw [lookup_without, if_pos rfl]
  have hsource : (c.add name source).sources.lookup (normalizeName name) = some source := by
    show List.lookup _ ((_, source) :: without c.sources _) = _
    rw [List.lookup_cons_self]
  unfold get
  dsimp only
  rw [hcompiled, hsource]
  dsimp only
  cases Scope.compileText debug source <;> rfl

end Stencil.Catalog
