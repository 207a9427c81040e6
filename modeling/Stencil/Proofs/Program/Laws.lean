import Stencil.Program.Basic

/-!
# Stencil.Proofs.Program.Laws — reasoning about programs

Programs, and so actions, are a lawful monad. `Program.Always` speaks of every result that a
program may come to, whatever its requests are answered with; two continuations that agree on
these results can be exchanged (`Program.bind_congr_of_always`).
-/

namespace Stencil

namespace Program

variable {α β : Type}

instance : LawfulMonad Program :=
  LawfulMonad.mk' Program (fun p => bind_pure p) (fun _ _ => rfl) (fun p f g => bind_assoc p f g)

/-- Whether every result of the program is like this. -/
def Always (P : α → Prop) : Program α → Prop
  | done a => P a
  | ask _ k => ∀ a, (k a).Always P

/-- What holds of all results of the first part is known to the second. -/
theorem Always.bind {P : α → Prop} {Q : β → Prop} {p : Program α} {f : α → Program β}
    (hp : p.Always P) (hf : ∀ a, P a → (f a).Always Q) : (p.bind f).Always Q := by
  induction p with
  | done a => exact hf a hp
  | ask q k ih => exact fun a => ih a (hp a)

theorem Always.mono {P Q : α → Prop} {p : Program α} (hp : p.Always P) (h : ∀ a, P a → Q a) :
    p.Always Q := by
  induction p with
  | done a => exact h a hp
  | ask q k ih => exact fun a => ih a (hp a)

/-- Only the results that a program may come to matter to what follows it. -/
theorem bind_congr_of_always {P : α → Prop} {p : Program α} {f g : α → Program β}
    (hp : p.Always P) (hfg : ∀ a, P a → f a = g a) : p.bind f = p.bind g := by
  induction p with
  | done a => exact hfg a hp
  | ask q k ih =>
    rw [ask_bind, ask_bind]
    congr 1
    funext a
    exact ih a (hp a)

end Program

namespace Action

variable {α β : Type}

/-- Whether every value that the action may come to is like this, if it does not fail. -/
def Always (P : α → Prop) (x : Action α) : Prop :=
  Program.Always (fun r => ∀ a, r = .ok a → P a) x

/-- A value that is returned is the only result. -/
theorem always_pure {P : α → Prop} {a : α} (h : P a) : Always P (pure a : Action α) := by
  intro b hb
  cases hb
  exact h

/-- What holds of all results of the first part, if it succeeds, is known to the second. -/
theorem Always.bind {P : α → Prop} {Q : β → Prop} {x : Action α} {f : α → Action β}
    (hx : Always P x) (hf : ∀ a, P a → Always Q (f a)) : Always Q (x >>= f) := by
  refine Program.Always.bind hx fun r hr => ?_
  cases r with
  | ok a => exact hf a (hr a rfl)
  | error e =>
    intro b hb
    cases hb

/-- What is always so of a part of the value is so of the value. -/
theorem Always.of_bind_pure {P : β → Prop} {x : Action α} {g : α → β}
    (h : Always P (x >>= fun a => pure (g a))) : Always (fun a => P (g a)) x := by
  unfold Always at h ⊢
  induction x with
  | done r =>
    rintro a rfl
    exact h (g a) rfl
  | ask q k ih => exact fun answer => ih answer (h answer)

theorem always_true (x : Action α) : Always (fun _ => True) x := by
  unfold Always
  induction x with
  | done r => exact fun _ _ => trivial
  | ask q k ih => exact ih

/-- Only the values that an action may come to matter to what follows it. -/
theorem bind_congr_of_always {P : α → Prop} {x : Action α} {f g : α → Action β}
    (hx : Always P x) (hfg : ∀ a, P a → f a = g a) : (x >>= f) = (x >>= g) := by
  refine Program.bind_congr_of_always hx fun r hr => ?_
  cases r with
  | ok a => exact hfg a (hr a rfl)
  | error e => rfl

end Action

end Stencil
