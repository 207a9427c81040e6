import Stencil.Proofs.Program.Through
import Stencil.Proofs.Task.Passage
import Stencil.Proofs.Task.Session

/-!
# Stencil.Proofs.Task.Behind — a sink behind blocks

Of a text that is sent through blocks with modifiers the sink is handed what the modifiers of all
these blocks make of it, the innermost first, unless nothing is left on the way, or a modifier fails
(`World.runNow_write`). So a program inside blocks comes to what it comes to outside of them if the
sink itself stands behind the blocks (`World.runNow_through`).
-/

namespace Stencil

/-- What is left of a text that is not empty when it has gone through blocks with these modifiers,
the innermost first: nothing as soon as it has become empty. -/
def Modifiers.passAll (modifiers : Modifiers) : Channel → String →
    Except RenderError (Option String)
  | [], text => .ok (some text)
  | chain :: outer, text => do
    let passed ← modifiers.pass chain text
    if passed = "" then .ok none else modifiers.passAll outer passed

/-- A text that is dropped nowhere on its way out is not empty when it arrives. -/
theorem Modifiers.ne_empty_of_passAll {modifiers : Modifiers} {way : Channel} {text out : String}
    (htext : text ≠ "") (h : modifiers.passAll way text = .ok (some out)) : out ≠ "" := by
  induction way generalizing text with
  | nil =>
    cases h
    exact htext
  | cons chain outer ih =>
    rw [passAll] at h
    cases hpass : modifiers.pass chain text with
    | error e =>
      rw [hpass] at h
      cases h
    | ok passed =>
      rw [hpass] at h
      by_cases hpassed : passed = ""
      · cases (if_pos hpassed).symm.trans h
      · exact ih hpassed ((if_neg hpassed).symm.trans h)

/-! ## Texts -/

namespace World

variable {H : Host} {w : World H}

/-- A text that is written in a block whose modifiers may be none at all. -/
theorem runNow_write_cons (hw : w.halted = false) (chain : List AppliedModifier)
    (outer : Channel) (text : String) :
    w.runNow (Channel.write (chain :: outer) text) =
      match w.modifiers.pass chain text with
      | .ok passed => w.runNow (outer.write passed)
      | .error e => some (.error e, w) := by
  cases chain with
  | cons m chain => exact runNow_write_wrap hw (m :: chain) outer text
  | nil =>
    rw [Modifiers.pass_nil]
    by_cases hempty : text = ""
    · subst hempty
      exact (runNow_write_empty hw _).trans (runNow_write_empty hw outer).symm
    · rw [Channel.write_cons]
      show w.runNow (if w.halted = true then throw .aborted else _ : Action Unit) = _
      rw [hw, if_neg (by decide), if_neg hempty]
      rfl

/-- A text that is sent on its way is handed to the sink as what is left of it. -/
theorem runNow_write (hw : w.halted = false) (way : Channel) {text : String}
    (htext : text ≠ "") :
    w.runNow (way.write text) =
      match w.modifiers.passAll way text with
      | .ok (some out) => some (w.write out)
      | .ok none => some (.ok (), w)
      | .error e => some (.error e, w) := by
  induction way generalizing text with
  | nil => rfl
  | cons chain outer ih =>
    rw [runNow_write_cons hw, Modifiers.passAll]
    cases w.modifiers.pass chain text with
    | error e => rfl
    | ok passed =>
      by_cases hpassed : passed = ""
      · subst hpassed
        exact runNow_write_empty hw outer
      · show w.runNow (Channel.write outer passed) =
          match (if passed = "" then .ok none else w.modifiers.passAll outer passed) with
          | .ok (some out) => some (w.write out)
          | .ok none => some (.ok (), w)
          | .error e => some (.error e, w)
        rw [if_neg hpassed]
        exact ih hpassed

end World

/-! ## The sink behind the blocks -/

/-- The host with its sink behind blocks. -/
@[reducible] def Host.behind (H : Host) (modifiers : Modifiers) (way : Channel) : Host :=
  { H with
    write := fun text s =>
      match modifiers.passAll way text with
      | .ok (some out) => H.write out s
      | .ok none => (.ok (), s)
      | .error e => (.error e, s) }

section Behind

variable {H : Host} {modifiers : Modifiers} {way : Channel}

/-- The world with the blocks taken away from its sink. -/
def World.front (v : World (H.behind modifiers way)) : World H :=
  ⟨v.host, v.halted, v.fragments, v.catalog, v.modifiers, v.debug⟩

namespace World

variable {v v' : World (H.behind modifiers way)}

/-- No request changes the modifiers a render knows. -/
theorem answer_modifiers {H : Host} {w w' : World H} {q : Request} {a : q.Answer}
    (h : w.answer? q = some (a, w')) : w'.modifiers = w.modifiers := by
  cases q with
  | call | custom | enter => cases h
  | isHalted | halt | modify | declare | resolve | template =>
    cases h
    rfl
  | write text =>
    have hwrite : w.write text = (a, w') := Option.some.inj h
    unfold write at hwrite
    split at hwrite
    · cases hwrite
      rfl
    split at hwrite
    · cases hwrite
      rfl
    · cases hwrite
      rfl

theorem runNow_modifiers {H : Host} {w w' : World H} {α : Type} {p : Program α} {a : α}
    (h : w.runNow p = some (a, w')) : w'.modifiers = w.modifiers := by
  induction p generalizing w with
  | done b =>
    cases h
    rfl
  | ask q k ih =>
    rw [runNow] at h
    split at h
    · next b w₁ hq => exact (ih b h).trans (answer_modifiers hq)
    · cases h

/-- What neither writes nor waits is answered in the same way. -/
theorem answer_front {q : Request} (h : q.isSilent = true) :
    v.front.answer? q = (v.answer? q).map fun r => (r.1, r.2.front) := by
  cases q with
  | write | custom | enter => cases h
  | isHalted | halt | modify | declare | resolve | template | call => rfl

/-- A request that writes nothing is answered in front of the way as it is behind it. -/
theorem front_answer {q : Request} (h : q.isSilent = true) {a : q.Answer}
    (hq : v.answer? q = some (a, v')) : v.front.answer? q = some (a, v'.front) := by
  rw [answer_front h, hq]
  rfl

/-- A text that is sent through the blocks comes to what comes of it when the sink stands behind
them. -/
theorem runNow_write_front (hv : v.modifiers = modifiers) (text : String) :
    v.front.runNow (way.write text) = some ((v.write text).1, (v.write text).2.front) := by
  unfold write
  by_cases hhalted : v.halted = true
  · have hstopped : v.front.halted = true := hhalted
    rw [if_pos hhalted]
    exact runNow_write_of_halted hstopped way text
  rw [if_neg hhalted]
  have hrunning : v.front.halted = false := Bool.eq_false_iff.2 hhalted
  -- an empty text is dropped on either side before the modifiers see it
  by_cases hempty : text = ""
  · rw [if_pos hempty, hempty]
    exact runNow_write_empty hrunning way
  rw [if_neg hempty, runNow_write hrunning way hempty]
  have hmodifiers : v.front.modifiers = modifiers := hv
  rw [hmodifiers]
  dsimp only
  cases hpass : modifiers.passAll way text with
  | error e => rfl
  | ok passed =>
    cases passed with
    | none => rfl
    | some out =>
      have hout : out ≠ "" := Modifiers.ne_empty_of_passAll hempty hpass
      dsimp only
      unfold write
      rw [if_neg (ne_true_of_eq_false hrunning), if_neg hout]
      rfl

/-- A program inside the blocks comes to what it comes to when the sink stands behind them. -/
theorem runNow_through {α : Type} (p : Program α) (hv : v.modifiers = modifiers) :
    v.front.runNow (p.through way) = (v.runNow p).map fun r => (r.1, r.2.front) := by
  induction p generalizing v with
  | done a => rfl
  | ask q k ih =>
    by_cases hsilent : q.isSilent = true
    · rw [Program.through_ask hsilent, runNow, runNow, answer_front hsilent]
      cases hq : v.answer? q with
      | none => rfl
      | some r => exact ih r.1 ((answer_modifiers hq).trans hv)
    · cases q with
      | isHalted | halt | modify | declare | resolve | template | call =>
        exact absurd rfl hsilent
      | custom | enter => rfl
      | write text =>
        have hanswer : v.answer? (.write text) = some (v.write text) := rfl
        rw [Program.through, runNow_bind, runNow_write_front hv, runNow_ask hanswer]
        exact ih _ ((answer_modifiers hanswer).trans hv)

end World

end Behind

end Stencil
