import Stencil.Proofs.Program.Propagate
import Stencil.Proofs.Task.Settle

/-!
# Stencil.Proofs.Task.FailStop — a failure is the last thing to be seen

What is seen may end with a failure (`Watched.FailStop`), and if it is only as far as some number of
steps goes, there may be a greater number in which an end is reached and nothing more is seen
(`Watched.Ceases`). Both hold of what is put together from two parts, if the second part does nothing
but end after a failure in the first one (`Watched.Ceases.bind`). It takes helpers that are careful:
they pass on the errors they meet, and poll a body as soon as they have started it.
-/

namespace Stencil

/-! ## Careful helpers -/

/-- Whether all that a helper has left to do is to fail with this error, in some place. -/
def Turn.GivesUp {Helper : Type} (e : RenderError) (turn : Turn Helper) : Prop :=
  ∃ e', turn = .finish (.error e') ∧ e'.root = e.root

/-- Whether a helper in its turn passes on every error it meets, and polls a body as soon as it
has started it. -/
def Turn.Careful {Helper : Type} : Turn Helper → Prop
  | .finish _ | .wait .. => True
  | .write _ k => (∀ e, (k (.error e)).GivesUp e) ∧ (k (.ok ())).Careful
  | .halt k => k.Careful
  | .isHalted k => ∀ b, (k b).Careful
  | .start _ _ k => ∀ i, (∃ k', k i = .poll i k') ∧ (k i).Careful
  | .poll _ k =>
    (∀ e, (k (some (.error e))).GivesUp e) ∧ (k (some (.ok ()))).Careful ∧ (k none).Careful

/-- Whether all helpers are careful. -/
def Host.Careful (H : Host) : Prop := ∀ h s, (H.turn h s).1.Careful

/-! ## Events that are failures -/

/-- The error that an event consists in. -/
def Event.failure? : Event → Option RenderError
  | .asked _ => none
  | .answered q a => q.failure? a
  | .returned r => Stencil.failure? r
  | .flushed r => Stencil.failure? r

/-- Whether the event is a failure. -/
def Event.IsFailure (ev : Event) : Prop := ∃ e, ev.failure? = some e

namespace Watched

variable {α β : Type}

/-- Whether a failure is the last thing to be seen. What comes of it is like `P` as long as there
is none, and otherwise like `Q` says for the error. -/
def FailStop (P : α → Prop) (Q : RenderError → α → Prop) (x : Watched α) : Prop :=
  ((∀ ev ∈ x.events, ev.failure? = none) ∧ ∀ a, x.result = some a → P a) ∨
    ∃ before ev e, x.events = before ++ [ev] ∧ (∀ b ∈ before, b.failure? = none) ∧
      ev.failure? = some e ∧ ∀ a, x.result = some a → Q e a

variable {P : α → Prop} {Q : RenderError → α → Prop} {P' : β → Prop}
  {Q' : RenderError → β → Prop}

/-- Whether a failure is seen. -/
def Fails (x : Watched α) : Prop := ∃ ev ∈ x.events, ev.IsFailure

/-- What has failed stopped at the failure. -/
theorem FailStop.of_fails {x : Watched α} (h : x.FailStop P Q) (hx : x.Fails) {a : α}
    (ha : x.result = some a) : ∃ e, Q e a := by
  rcases h with ⟨hnone, -⟩ | ⟨-, -, e, -, -, -, hresult⟩
  · rcases hx with ⟨ev, hev, e, he⟩
    rw [hnone ev hev] at he
    cases he
  · exact ⟨e, hresult a ha⟩

/-- What comes of it depends on the failure that is the last thing to be seen. -/
theorem FailStop.of_last {x : Watched α} (h : x.FailStop P Q) {before : List Event} {ev : Event}
    {e : RenderError} (hx : x.events = before ++ [ev]) (he : ev.failure? = some e) {a : α}
    (ha : x.result = some a) : Q e a := by
  rcases h with ⟨hnone, -⟩ | ⟨before', ev', e', hevents, -, he', hresult⟩
  · have hmem : ev ∈ x.events := by
      rw [hx]
      exact List.mem_append_right before List.mem_cons_self
    rw [hnone ev hmem] at he
    cases he
  · rw [hx] at hevents
    rcases List.append_inj' hevents rfl with ⟨-, hlast⟩
    cases hlast
    rw [he] at he'
    cases he'
    exact hresult a ha

/-- What has not failed gives a result as promised. -/
theorem FailStop.of_not_fails {x : Watched α} (h : x.FailStop P Q) (hx : ¬ x.Fails) {a : α}
    (ha : x.result = some a) : P a := by
  rcases h with ⟨-, hresult⟩ | ⟨before, ev, e, hevents, -, he, -⟩
  · exact hresult a ha
  · have hmem : ev ∈ x.events := by
      rw [hevents]
      exact List.mem_append_right before List.mem_cons_self
    exact absurd ⟨ev, hmem, e, he⟩ hx

theorem FailStop.pure {a : α} (h : P a) : (Watched.pure a).FailStop P Q := by
  refine .inl ⟨fun _ h => (nomatch h), fun b hb => ?_⟩
  cases hb
  exact h

theorem FailStop.stuck : (Watched.stuck : Watched α).FailStop P Q :=
  .inl ⟨fun _ h => (nomatch h), fun _ h => (nomatch h)⟩

/-- Events that are no failures do not fail. -/
theorem FailStop.see {events : List Event} {Q : RenderError → Unit → Prop}
    (h : ∀ ev ∈ events, ev.failure? = none) : (Watched.see events).FailStop (fun _ => True) Q :=
  .inl ⟨h, fun _ _ => trivial⟩

/-- After a failure nothing may be seen any more. -/
theorem FailStop.bind {x : Watched α} (h : x.FailStop P Q) {f : α → Watched β}
    (hok : ∀ a, P a → (f a).FailStop P' Q')
    (herror : ∀ e a, Q e a → (f a).events = [] ∧ ∀ b, (f a).result = some b → Q' e b) :
    (x.bind f).FailStop P' Q' := by
  obtain ⟨events, result⟩ := x
  obtain ⟨hnone, hresult⟩ | ⟨before, ev, e, rfl, hbefore, he, hresult⟩ := h
  · cases result with
    | none => exact .inl ⟨hnone, fun _ h => (nomatch h)⟩
    | some a =>
      obtain ⟨hnone', hresult'⟩ | ⟨before, ev, e, hevents, hbefore, he, hresult'⟩ :=
        hok a (hresult a rfl)
      · refine .inl ⟨fun ev hev => ?_, hresult'⟩
        rcases List.mem_append.1 hev with hev | hev
        · exact hnone ev hev
        · exact hnone' ev hev
      · -- nothing failed before, so the failure is in what follows
        refine .inr ⟨events ++ before, ev, e, ?_, fun b hb => ?_, he, hresult'⟩
        · dsimp only [Watched.bind]
          rw [hevents, List.append_assoc]
        · rcases List.mem_append.1 hb with hb | hb
          · exact hnone b hb
          · exact hbefore b hb
  · cases result with
    | none => exact .inr ⟨before, ev, e, rfl, hbefore, he, fun _ h => (nomatch h)⟩
    | some a =>
      obtain ⟨hevents, hresult'⟩ := herror e a (hresult a rfl)
      refine .inr ⟨before, ev, e, ?_, hbefore, he, hresult'⟩
      dsimp only [Watched.bind]
      rw [hevents, List.append_nil]

/-! ## Coming to an end after a failure -/

/-- Whether an end is reached in which nothing is seen, and all that comes of it is like this. -/
structure Quiet (P : α → Prop) (x : Nat → Watched α) : Prop where
  events (n : Nat) : (x n).events = []
  result {n : Nat} {a : α} : (x n).result = some a → P a
  ends : ∃ n a, (x n).result = some a

/-- Whether a failure within so many steps is the last thing to be seen, and an end is reached, if
not in these then in some more. -/
structure Ceases (P : α → Prop) (Q : RenderError → α → Prop) (x : Nat → Watched α) (n : Nat) :
    Prop where
  failStop : (x n).FailStop P Q
  ends : (x n).Fails → ∃ m a e, x m = ⟨(x n).events, some a⟩ ∧ Q e a

theorem Quiet.pure {P : α → Prop} {a : α} (h : P a) : Quiet P fun _ => Watched.pure a where
  events _ := rfl
  result {n b} hb := by
    cases hb
    exact h
  ends := ⟨0, a, rfl⟩

/-- What can do no more than end quietly. -/
theorem Quiet.exists_eq {P : α → Prop} {x : Nat → Watched α} (h : Quiet P x) :
    ∃ n a, x n = ⟨[], some a⟩ ∧ P a := by
  obtain ⟨n, a, ha⟩ := h.ends
  exact ⟨n, a, by rw [← h.events n, ← ha], h.result ha⟩

namespace Ceases

/-- What does not depend on the number of steps, and comes to something. -/
theorem const {x : Watched α} (h : x.FailStop P Q) {a : α} (ha : x.result = some a) (n : Nat) :
    Ceases P Q (fun _ => x) n where
  failStop := h
  ends hfails := by
    obtain ⟨e, he⟩ := h.of_fails hfails ha
    exact ⟨n, a, e, congrArg (Watched.mk x.events) ha, he⟩

theorem pure {a : α} (h : P a) (n : Nat) : Ceases P Q (fun _ => Watched.pure a) n :=
  const (.pure h) rfl n

theorem silent {x : Nat → Watched α} {n : Nat} (h : (x n).events = [])
    (hP : ∀ a, (x n).result = some a → P a) : Ceases P Q x n := by
  have hnone : ∀ ev, ev ∉ (x n).events := fun ev hev => (nomatch h ▸ hev)
  exact ⟨.inl ⟨fun ev hev => absurd hev (hnone ev), hP⟩, fun ⟨ev, hev, _⟩ =>
    absurd hev (hnone ev)⟩

theorem stuck {x : Nat → Watched α} {n : Nat} (h : x n = .stuck) : Ceases P Q x n :=
  silent (congrArg Watched.events h) fun _ ha =>
    nomatch (congrArg Watched.result h).symm.trans ha

/-- A step more does not hinder it. -/
theorem succ {x : Nat → Watched α} {n : Nat} (h : Ceases P Q (fun m => x (m + 1)) n) :
    Ceases P Q x (n + 1) where
  failStop := h.failStop
  ends hfails := by
    obtain ⟨m, hm⟩ := h.ends hfails
    exact ⟨m + 1, hm⟩

/-- After a failure in the first of two parts nothing may be left to do but to end quietly. -/
theorem bind {x : Nat → Watched α} {f : Nat → α → Watched β} {n : Nat} (hx : Ceases P Q x n)
    (hsettles : Settles x) (hf : ∀ a, Settles fun m => f m a)
    (hok : ∀ a, P a → Ceases P' Q' (fun m => f m a) n)
    (herror : ∀ e a, Q e a → Quiet (Q' e) fun m => f m a) :
    Ceases P' Q' (fun m => (x m).bind (f m)) n where
  failStop := hx.failStop.bind (fun a ha => (hok a ha).failStop) fun e a he =>
    ⟨(herror e a he).events n, fun _ => (herror e a he).result⟩
  ends := by
    intro hfails
    by_cases hfirst : (x n).Fails
    · obtain ⟨m, a, e, hm, he⟩ := hx.ends hfirst
      obtain ⟨k, b, hk, hb⟩ := (herror e a he).exists_eq
      have hevents : ((x n).bind (f n)).events = (x n).events := by
        cases hresult : (x n).result with
        | none => exact events_bind_none hresult _
        | some a' =>
          obtain ⟨e', he'⟩ := hx.failStop.of_fails hfirst hresult
          rw [events_bind_some hresult, (herror e' a' he').events n, List.append_nil]
      obtain ⟨l, hl⟩ := hsettles.exists_bind hf hm hk
      rw [List.append_nil] at hl
      rw [hevents]
      exact ⟨l, b, e, hl, hb⟩
    · -- the failure is in the second part
      obtain ⟨ev, hev, he⟩ := hfails
      cases hresult : (x n).result with
      | none =>
        rw [events_bind_none hresult] at hev
        exact absurd ⟨ev, hev, he⟩ hfirst
      | some a =>
        rw [events_bind_some hresult] at hev ⊢
        have hnext : (f n a).Fails := by
          rcases List.mem_append.1 hev with hev | hev
          · exact absurd ⟨ev, hev, he⟩ hfirst
          · exact ⟨ev, hev, he⟩
        obtain ⟨k, b, e', hk, hb⟩ := (hok a (hx.failStop.of_not_fails hfirst hresult)).ends hnext
        have hn : x n = ⟨(x n).events, some a⟩ := by rw [← hresult]
        obtain ⟨l, hl⟩ := hsettles.exists_bind hf hn hk
        exact ⟨l, b, e', hl, hb⟩

/-- Two parts that do not depend on the number of steps. -/
theorem step {x : Watched α} (hx : x.FailStop P Q) {a : α} (ha : x.result = some a)
    {f : α → Watched β} {n : Nat} (hok : ∀ a, P a → Ceases P' Q' (fun _ => f a) n)
    (herror : ∀ e a, Q e a → Quiet (Q' e) fun _ => f a) : Ceases P' Q' (fun _ => x.bind f) n :=
  (const hx ha n).bind (.const _) (fun _ => .const _) hok herror

end Ceases

end Watched

end Stencil
