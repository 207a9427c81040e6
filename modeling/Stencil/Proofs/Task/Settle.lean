import Stencil.Proofs.Task.Watch

/-!
# Stencil.Proofs.Task.Settle — more steps change nothing that is seen

What is seen of a poll or of a run that has come to its end is seen of it with every greater number
of steps (`Task.settles_watch`, `Task.settles_watchRun`). So what is enough for each of two parts is
enough for both together (`Watched.Settles.exists_bind`).
-/

namespace Stencil

namespace Watched

variable {α β : Type}

/-- Whether what comes of the first comes of the second as well. -/
def Approximates (x y : Watched α) : Prop := ∀ es a, x = ⟨es, some a⟩ → y = ⟨es, some a⟩

/-- Whether more steps change nothing that has come of fewer. -/
def Settles (x : Nat → Watched α) : Prop := ∀ m n, m ≤ n → (x m).Approximates (x n)

theorem Approximates.refl (x : Watched α) : x.Approximates x := fun _ _ h => h

theorem Approximates.stuck (x : Watched α) : Watched.stuck.Approximates x := by
  intro es a h
  have hnone := congrArg Watched.result h
  cases hnone

theorem Approximates.bind {x y : Watched α} {f g : α → Watched β} (h : x.Approximates y)
    (hfg : ∀ a, (f a).Approximates (g a)) : (x.bind f).Approximates (y.bind g) := by
  intro es b hb
  rcases exists_of_bind hb with ⟨first, a, next, hx, hf, rfl⟩
  exact bind_of_eq (h _ _ hx) (hfg a _ _ hf)

theorem Settles.const (x : Watched α) : Settles fun _ => x := fun _ _ _ => .refl x

/-- A sequence settles if each member approximates the next one. -/
theorem Settles.of_succ {x : Nat → Watched α} (h : ∀ n, (x n).Approximates (x (n + 1))) :
    Settles x := by
  intro m n hmn
  induction hmn with
  | refl => exact .refl _
  | step _ ih => exact fun es a ha => h _ es a (ih es a ha)

theorem Settles.bind {x : Nat → Watched α} {f : Nat → α → Watched β} (hx : Settles x)
    (hf : ∀ a, Settles fun n => f n a) : Settles fun n => (x n).bind (f n) :=
  fun m n hmn => (hx m n hmn).bind fun a => hf a m n hmn

/-- What is enough for each of two parts is enough for both together. -/
theorem Settles.exists_bind {x : Nat → Watched α} {f : Nat → α → Watched β} (hx : Settles x)
    (hf : ∀ a, Settles fun m => f m a) {m k : Nat} {es es' : List Event} {a : α} {b : β}
    (hm : x m = ⟨es, some a⟩) (hk : f k a = ⟨es', some b⟩) :
    ∃ l, (x l).bind (f l) = ⟨es ++ es', some b⟩ := by
  have hfirst := hx m (max m k) (Nat.le_max_left m k) _ _ hm
  have hnext := hf a k (max m k) (Nat.le_max_right m k) _ _ hk
  exact ⟨max m k, bind_of_eq hfirst hnext⟩

end Watched

namespace Task

variable {H : Host} [Evaluator]

/-- A turn polls its bodies the better the more can be polled. -/
theorem approximates_watchTurn {f g : Task H → World H → Watched (Polled H)}
    (hfg : ∀ t w, (f t w).Approximates (g t w)) (block : CustomBlock) (turn : Turn H.Helper)
    (children : List (Task H)) (woken : Bool) (w : World H) :
    (watchTurn f block turn children woken w).Approximates
      (watchTurn g block turn children woken w) := by
  -- on the instructions of the turn, of which only a poll is different on the two sides
  induction turn generalizing children woken w with
  | finish r => exact .refl _
  | wait woken' h => exact .refl _
  | write text k ih => exact .bind (.refl _) fun r => ih r.1 children woken r.2
  | halt k ih => exact .bind (.refl _) fun r => ih children woken r.2
  | isHalted k ih => exact .bind (.refl _) fun r => ih r.1 children woken r.2
  | start i frame k ih => exact .bind (.refl _) fun r => ih _ _ woken r.2
  | poll i k ih =>
    unfold watchTurn
    cases children[i]? with
    | none => exact ih _ children woken w
    | some child => exact .bind (hfg child w) fun p => ih _ _ _ p.world

/-- Only helpers can tell how far bodies are polled. -/
theorem approximates_watchStep {f g : Task H → World H → Watched (Polled H)}
    (hfg : ∀ t w, (f t w).Approximates (g t w)) (t : Task H) (w : World H) :
    (watchStep f t w).Approximates (watchStep g t w) := by
  cases t with
  | finished r => exact .refl _
  | calling d k returns => exact .refl _
  | helping h block children returns =>
    exact (approximates_watchTurn hfg block _ children false _).bind fun _ => .refl _
  | running action returns =>
    cases action with
    | ask q k => exact .refl _
    | done r =>
      cases returns with
      | nil => exact .refl _
      | cons k returns => exact .refl _

/-- One more step changes nothing that has come of a poll. -/
theorem approximates_watch (n : Nat) (t : Task H) (w : World H) :
    (watch n t w).Approximates (watch (n + 1) t w) := by
  induction n generalizing t w with
  | zero => exact .stuck _
  | succ n ih =>
    refine (approximates_watchStep ih t w).bind ?_
    rintro (⟨t', w'⟩ | p)
    · exact ih t' w'
    · exact .refl _

/-- More steps change nothing that has come of a poll. -/
theorem settles_watch (t : Task H) (w : World H) : Watched.Settles fun n => watch n t w :=
  .of_succ fun n => approximates_watch n t w

theorem settles_watchTurn (block : CustomBlock) (turn : Turn H.Helper) (children : List (Task H))
    (woken : Bool) (w : World H) :
    Watched.Settles fun n => watchTurn (watch n) block turn children woken w :=
  fun m n hmn => approximates_watchTurn (fun t w => settles_watch t w m n hmn) block turn children
    woken w

theorem settles_watchStep (t : Task H) (w : World H) :
    Watched.Settles fun n => watchStep (watch n) t w :=
  fun m n hmn => approximates_watchStep (fun t w => settles_watch t w m n hmn) t w

/-- More steps change nothing that has come of a run. -/
theorem settles_watchRun (deadline : Option Deadline) (t : Task H) (w : World H) :
    Watched.Settles fun n => watchRun deadline n t w := by
  refine .of_succ fun n => ?_
  induction n generalizing deadline t w with
  | zero => exact .stuck _
  | succ n ih =>
    refine (approximates_watch n t w).bind ?_
    rintro ⟨t', woken, w'⟩
    dsimp only
    split
    · exact .refl _
    split
    · exact ih _ t' w'
    · exact .refl _

end Task

end Stencil
