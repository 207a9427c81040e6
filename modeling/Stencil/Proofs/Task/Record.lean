import Stencil.Proofs.Task.Correspond

/-!
# Stencil.Proofs.Task.Record — what a render does to its surroundings

A host that keeps a record of what is written, called and handed out (`Host.recorded`) does what it
does without. States with the same record stand for one another if the states proper do.
-/

namespace Stencil

/-- What a render does to its surroundings. -/
inductive Effect where
  /-- A text is handed to the sink. -/
  | wrote (text : String)
  | called (f : Nat) (args : List Value)
  /-- A block with so many bodies is handed to a function. -/
  | handed (f bodies : Nat)

/-- The host with a record of what is done, in order. -/
def Host.recorded (H : Host) : Host where
  State := H.State × List Effect
  Pending := H.Pending
  Helper := H.Helper
  write text s := ((H.write text s.1).1, (H.write text s.1).2, s.2 ++ [.wrote text])
  flush s := ((H.flush s.1).1, (H.flush s.1).2, s.2)
  call f frame args s :=
    ((H.call f frame args s.1).1, (H.call f frame args s.1).2, s.2 ++ [.called f args])
  poll d s := ((H.poll d s.1).1, (H.poll d s.1).2, s.2)
  help f frame bodies s :=
    ((H.help f frame bodies s.1).1, (H.help f frame bodies s.1).2, s.2 ++ [.handed f bodies])
  turn h s := ((H.turn h s.1).1, (H.turn h s.1).2, s.2)

variable {H : Host} {L : H.Likeness} {F : Reach → Frame → Frame → Prop}

/-- States stand for one another if they do without the record, and the record is the same. -/
def Host.Likeness.recorded (L : H.Likeness) : H.recorded.Likeness where
  state s s' := L.state s.1 s'.1 ∧ s.2 = s'.2
  pending := L.pending
  helper := L.helper

/-- What two helpers do alike they do alike when it is recorded. -/
theorem Turn.Similar.recorded {r : Reach} {t t' : Turn H.Helper} (h : Turn.Similar L F r t t') :
    Turn.Similar (H := H.recorded) L.recorded F r t t' := by
  induction h with
  | finish h => exact .finish h
  | wait woken h => exact .wait woken h
  | write text _ ih => exact .write text ih
  | halt _ ih => exact .halt ih
  | isHalted _ ih => exact .isHalted ih
  | start i hf _ ih => exact .start i hf ih
  | poll child _ ih => exact .poll child ih

/-- What a host cannot tell apart, it cannot tell apart when it keeps a record. -/
theorem Host.Likeness.Kept.recorded (h : L.Kept F) : L.recorded.Kept F where
  write {s s'} text hs := by
    obtain ⟨hresult, hstate⟩ := h.write text hs.1
    exact ⟨hresult, hstate, congrArg (· ++ [Effect.wrote text]) hs.2⟩
  flush {s s'} hs := by
    obtain ⟨hresult, hstate⟩ := h.flush hs.1
    exact ⟨hresult, hstate, hs.2⟩
  call {s s' r f f'} i args hf hs := by
    obtain ⟨hresult, hstate⟩ := h.call i args hf hs.1
    exact ⟨hresult, hstate, congrArg (· ++ [Effect.called i args]) hs.2⟩
  poll {s s' d d'} hd hs := by
    obtain ⟨hresult, hstate⟩ := h.poll hd hs.1
    exact ⟨hresult, hstate, hs.2⟩
  help {s s' r f f'} i bodies hf hs := by
    obtain ⟨hresult, hstate⟩ := h.help i bodies hf hs.1
    exact ⟨hresult, hstate, congrArg (· ++ [Effect.handed i bodies]) hs.2⟩
  turn {s s' r x x'} hh hs := by
    obtain ⟨hturn, hstate⟩ := h.turn hh hs.1
    exact ⟨hturn.recorded, hstate, hs.2⟩

/-! ## Nothing but the record -/

/-- A host that keeps nothing, with functions that give nothing. -/
def Host.mute : Host where
  State := Unit
  Pending := Empty
  Helper := Empty
  write _ _ := (.ok (), ())
  flush _ := (.ok (), ())
  call _ _ _ _ := (.ready (.ok .undefined), ())
  poll d _ := nomatch d
  help _ _ _ _ := (none, ())
  turn h _ := nomatch h

/-- The same with functions that fail. -/
def Host.failing : Host where
  State := Unit
  Pending := Empty
  Helper := Empty
  write _ _ := (.ok (), ())
  flush _ := (.ok (), ())
  call _ _ _ _ := (.ready (.error (.callback "boom")), ())
  poll d _ := nomatch d
  help _ _ _ _ := (none, ())
  turn h _ := nomatch h

/-- All of it is the same. -/
def Host.Likeness.mute : Host.mute.Likeness := ⟨fun _ _ => True, fun _ _ => True, fun _ _ _ => True⟩

/-- A host that asks for nothing keeps every likeness. -/
theorem Host.Likeness.kept_mute (F : Reach → Frame → Frame → Prop) : mute.Kept F where
  write _ _ := ⟨.ok rfl, trivial⟩
  flush _ := ⟨.ok rfl, trivial⟩
  call _ _ _ _ := ⟨.ready (.ok rfl), trivial⟩
  poll {_ _ d _} _ _ := nomatch d
  help _ _ _ _ := ⟨.none, trivial⟩
  turn {_ _ _ h _} _ _ := nomatch h

end Stencil
