import Stencil.Proofs.Task.Watch

/-!
# Stencil.Proofs.Task.Trace — what is seen of a render and what it leaves

A relation between a world, what is seen of a render, and the world that it leaves, holds of every
render if it holds of every step (`World.Traces.watch`). A sink that stores texts, for one, has
stored just those that were seen to be written (`Host.Stores.traces`).
-/

namespace Stencil

/-! ## What a world keeps track of -/

section Trace

variable {H : Host} {α β : Type}

/-- Whether what is seen leads from this world to that of the result in such a way. -/
def Watched.Leads (K : List Event → World H → World H → Prop) (w : World H)
    (world : α → World H) (x : Watched α) : Prop :=
  ∀ a, x.result = some a → K x.events w (world a)

/-- Whether a relation between a world, what is seen, and the world after it holds of every step,
and so of all that is put together from steps. -/
structure World.Traces (K : List Event → World H → World H → Prop) : Prop where
  refl (w : World H) : K [] w w
  trans {w w' w'' : World H} {es es' : List Event} : K es w w' → K es' w' w'' → K (es ++ es') w w''
  asked (w : World H) (q : Request) : K [.asked q] w w
  answer (w : World H) (q : Request) : (w.watchAnswer q).Leads K w (·.2)
  call (w : World H) (f : Nat) (frame : Frame) (args : List Value) :
    (w.watchCall f frame args).Leads K w (·.2)
  poll (w : World H) (d : H.Pending) : (w.watchPoll d).Leads K w (·.2)
  help (w : World H) (f : Nat) (block : CustomBlock) : (w.watchHelp f block).Leads K w (·.2)
  turn (w : World H) (h : H.Helper) : K [] w (w.nextTurn h).2

namespace World.Traces

variable {K : List Event → World H → World H → Prop} (hK : Traces K) {w : World H}
include hK

theorem pure {a : α} {world : α → World H} (h : world a = w) :
    (Watched.pure a).Leads K w world := by
  intro b hb
  cases hb
  rw [h]
  exact hK.refl w

/-- What is kept by two computations is kept by their sequence. -/
theorem bind {x : Watched α} {world : α → World H} (hx : x.Leads K w world)
    {f : α → Watched β} {world' : β → World H}
    (hf : ∀ a, (f a).Leads K (world a) world') : (x.bind f).Leads K w world' := by
  obtain ⟨events, _ | a⟩ := x
  · exact fun _ h => (nomatch h)
  · exact fun b hb => hK.trans (hx a rfl) (hf a b hb)

/-- What is kept by every answer is kept by a program that is run at once. -/
theorem watchNow (p : Program α) : (w.watchNow p).Leads K w (·.2) := by
  induction p generalizing w with
  | done a => exact hK.pure rfl
  | ask q k ih => exact hK.bind (hK.answer w q) fun r => ih r.1

variable [Evaluator]

/-- It is kept by the start of a program. -/
theorem watchStart (scope : Scope) (channel : Channel) (frame : Frame) (site : Site) :
    (Task.watchStart scope channel frame site w).Leads K w (·.2) :=
  hK.bind (hK.watchNow _) fun _ => hK.pure rfl

/-- It is kept by the start of a body. -/
theorem watchBody (block : CustomBlock) (i : Nat) (frame : Frame) (child : Nat) :
    (Task.watchBody block i frame child w).Leads K w (·.2) := by
  unfold Task.watchBody
  cases block.bodies[i]? with
  | none => exact hK.pure rfl
  | some body => exact hK.watchStart body block.channel frame _

/-- It is kept by a turn of a helper, if it is by the polls of its bodies. -/
theorem watchTurn {f : Task H → World H → Watched (Polled H)}
    (hf : ∀ t w, (f t w).Leads K w (·.world)) (block : CustomBlock) (turn : Turn H.Helper)
    (children : List (Task H)) (woken : Bool) :
    (Task.watchTurn f block turn children woken w).Leads K w (·.world) := by
  -- on the instructions of the turn
  induction turn generalizing children woken w with
  | finish r => exact hK.pure rfl
  | wait woken' h => exact hK.pure rfl
  | write text k ih => exact hK.bind (hK.watchNow _) fun r => ih r.1 children woken
  | halt k ih => exact hK.bind (hK.answer w _) fun r => ih children woken
  | isHalted k ih => exact hK.bind (hK.answer w _) fun r => ih r.1 children woken
  | start i frame k ih =>
    exact hK.bind (hK.watchBody block i frame children.length) fun r => ih _ _ woken
  | poll i k ih =>
    unfold Task.watchTurn
    cases children[i]? with
    | none => exact ih _ children woken
    | some child => exact hK.bind (hf child w) fun p => ih _ _ _

/-- The world that a step has led to. -/
def world : (Task H × World H) ⊕ Polled H → World H := Sum.elim (·.2) (·.world)

/-- What holds of what a step is made of holds of the step, if it holds of polls of bodies. -/
theorem watchStep {f : Task H → World H → Watched (Polled H)}
    (hf : ∀ t w, (f t w).Leads K w (·.world)) (t : Task H) :
    (Task.watchStep f t w).Leads K w world := by
  -- by the state of the task that is polled
  cases t with
  | finished r => exact hK.pure rfl
  | running action returns =>
    cases action with
    | done r =>
      cases returns with
      | nil => exact hK.pure rfl
      | cons k returns => exact hK.pure rfl
    | ask q k =>
      by_cases hinstant : q.isInstant = true
      · rw [Task.watchStep_ask hinstant]
        exact hK.bind (hK.answer w q) fun r => hK.pure rfl
      · cases q with
        | write | isHalted | halt | modify | declare | resolve | template =>
          exact absurd rfl hinstant
        | call f frame args =>
          refine hK.bind (hK.call w f frame args) ?_
          rintro ⟨r | ⟨woken, d⟩, w'⟩
          · exact hK.pure rfl
          · exact hK.pure rfl
        | custom f block =>
          refine hK.bind (hK.help w f block) ?_
          rintro ⟨_ | h, w'⟩
          · exact hK.pure rfl
          · exact hK.pure rfl
        | enter body channel frame site =>
          have hseen : (Watched.see [.asked (.enter body channel frame site)]).Leads K w
              fun _ => w := fun _ _ => hK.asked w _
          exact hK.bind hseen fun _ => hK.pure rfl
  | calling d k returns =>
    refine hK.bind (hK.poll w d) ?_
    rintro ⟨r | ⟨woken, d'⟩, w'⟩
    · exact hK.pure rfl
    · exact hK.pure rfl
  | helping h block children returns =>
    have hturn := hK.watchTurn (w := (w.nextTurn h).2) hf block (w.nextTurn h).1 children false
    refine fun p hp => hK.trans (hK.turn w h) (hK.bind hturn ?_ p hp)
    rintro ⟨h' | r, children', woken, w'⟩
    · exact hK.pure rfl
    · exact hK.pure rfl

/-- What holds of every step holds of a poll. -/
theorem watch (n : Nat) (t : Task H) : (Task.watch n t w).Leads K w (·.world) := by
  induction n generalizing t w with
  | zero => exact fun _ h => (nomatch h)
  | succ n ih =>
    refine hK.bind (hK.watchStep (fun t w => ih t) t) ?_
    rintro (⟨t', w'⟩ | p)
    · exact ih t'
    · exact hK.pure rfl

/-- It is kept by a whole run, if it is when the render is given up. -/
theorem watchRun (hhalt : ∀ w : World H, K [] w w.halt) (deadline : Option Deadline) (n : Nat)
    (t : Task H) : (Task.watchRun deadline n t w).Leads K w (·.2) := by
  induction n generalizing deadline t w with
  | zero => exact fun _ h => (nomatch h)
  | succ n ih =>
    refine hK.bind (hK.watch n t) ?_
    rintro ⟨t', woken, w'⟩
    dsimp only
    split
    · exact hK.pure rfl
    split
    · exact ih _ t'
    · -- the render is given up, and stopped
      intro r hr
      obtain ⟨milliseconds, -, rfl⟩ := Task.expire_eq_some_iff.1 hr
      exact hhalt w'

/-- What holds of every step holds of a render. -/
theorem render (hhalt : ∀ w : World H, K [] w w.halt)
    (hflush : ∀ w : World H, K [.flushed w.flush.1] w w.flush.2) (fuel : Nat)
    (deadline : Option Deadline) (scope : Scope) (frame : Frame) :
    (w.watch fuel deadline scope frame).Leads K w (·.2) := by
  refine hK.bind (hK.watchStart scope [] frame (.start 0)) fun started => ?_
  refine hK.bind (hK.watchRun hhalt deadline fuel started.1) ?_
  rintro ⟨e | u, w'⟩
  · exact hK.pure rfl
  · intro r hr
    cases hr
    exact hflush w'

end World.Traces

end Trace

/-! ## Stored texts -/

/-- The text that has been handed to the sink, which has taken it. -/
def Event.text? : Event → Option String
  | .answered (.write text) r =>
    match (r : Outcome) with
    | .ok () => if text = "" then none else some text
    | .error _ => none
  | _ => none

/-- The texts that the sink has taken. -/
def written (events : List Event) : List String := events.filterMap Event.text?

/-- Whether the sink of the host stores the texts that it takes, and nothing else touches them. -/
structure Host.Stores (H : Host) (texts : H.State → List String) : Prop where
  write (text : String) (s : H.State) : texts (H.write text s).2 =
    match (H.write text s).1 with
    | .ok () => texts s ++ [text]
    | .error _ => texts s
  flush (s : H.State) : texts (H.flush s).2 = texts s
  call (f : Nat) (frame : Frame) (args : List Value) (s : H.State) :
    texts (H.call f frame args s).2 = texts s
  poll (d : H.Pending) (s : H.State) : texts (H.poll d s).2 = texts s
  help (f : Nat) (frame : Frame) (bodies : Nat) (s : H.State) :
    texts (H.help f frame bodies s).2 = texts s
  turn (h : H.Helper) (s : H.State) : texts (H.turn h s).2 = texts s

/-- What is written in two stretches, one behind the other. -/
theorem written_append (xs ys : List Event) : written (xs ++ ys) = written xs ++ written ys :=
  List.filterMap_append

/-- The sink is handed every text that is not empty, as long as the render has not been stopped. -/
theorem World.write_eq {H : Host} (w : World H) (text : String) :
    w.write text = (.error .aborted, w) ∨ (text = "" ∧ w.write text = (.ok (), w)) ∨
      (text ≠ "" ∧ w.write text =
        ((H.write text w.host).1, { w with host := (H.write text w.host).2 })) := by
  unfold World.write
  by_cases hhalted : w.halted = true
  · exact .inl (if_pos hhalted)
  rw [if_neg hhalted]
  by_cases hempty : text = ""
  · exact .inr (.inl ⟨hempty, if_pos hempty⟩)
  · exact .inr (.inr ⟨hempty, if_neg hempty⟩)

/-- A host that stores what is written has one text more after a write that shows one. -/
theorem Host.Stores.written_write {H : Host} {texts : H.State → List String} (h : H.Stores texts)
    (w : World H) (text : String) :
    texts (w.write text).2.host =
      texts w.host ++ written [.asked (.write text), .answered (.write text) (w.write text).1] := by
  -- the text is not looked at, is empty, or is offered to the sink, which may refuse it
  obtain heq | ⟨rfl, heq⟩ | ⟨hempty, heq⟩ := w.write_eq text
  · rw [heq]
    exact (List.append_nil _).symm
  · rw [heq]
    exact (List.append_nil _).symm
  · rw [heq]
    have hwrite := h.write text w.host
    dsimp only
    generalize H.write text w.host = r at hwrite ⊢
    obtain ⟨e | u, s⟩ := r
    · exact hwrite.trans (List.append_nil _).symm
    · have htext : (Event.answered (.write text) (.ok ())).text? = some text := if_neg hempty
      rw [written, List.filterMap_cons_none rfl, List.filterMap_cons_some htext]
      exact hwrite

/-- What a function returns is not written by that. -/
theorem written_resultEvents {Pending : Type} (r : Progressed Pending) :
    written (World.resultEvents r) = [] := by
  cases r <;> rfl

/-- What is stored is what was stored before, and what is seen to be written. -/
theorem Host.Stores.traces {H : Host} {texts : H.State → List String} (h : H.Stores texts) :
    World.Traces (H := H) fun es w w' => texts w'.host = texts w.host ++ written es where
  refl w := (List.append_nil _).symm
  trans {w w' w'' es es'} h₁ h₂ := by rw [h₂, h₁, written_append, List.append_assoc]
  asked w q := (List.append_nil _).symm
  answer w q a ha := by
    unfold World.watchAnswer at ha ⊢
    cases q with
    | call | custom | enter => cases ha
    | isHalted | halt | modify | declare | resolve | template =>
      cases ha
      exact (List.append_nil _).symm
    | write text =>
      cases ha
      exact h.written_write w text
  call w f frame args a ha := by
    cases ha
    have hnone := written_resultEvents (H.call f frame args w.host).1
    exact (h.call f frame args w.host).trans ((congrArg _ hnone).trans (List.append_nil _)).symm
  poll w d a ha := by
    cases ha
    have hnone := written_resultEvents (H.poll d w.host).1
    exact (h.poll d w.host).trans ((congrArg _ hnone).trans (List.append_nil _)).symm
  help w f block a ha := by
    cases ha
    exact (h.help f block.frame block.bodies.length w.host).trans (List.append_nil _).symm
  turn w helper := (h.turn helper w.host).trans (List.append_nil _).symm

/-- What a render leaves stored. -/
theorem Host.Stores.render {H : Host} [Evaluator] {texts : H.State → List String}
    (h : H.Stores texts) {fuel : Nat} {deadline : Option Deadline} {scope : Scope} {frame : Frame}
    {w w' : World H} {o : Outcome} (hrender : w.render fuel deadline scope frame = some (o, w')) :
    texts w'.host = texts w.host ++ written (w.watch fuel deadline scope frame).events := by
  rw [← World.watch_result] at hrender
  refine h.traces.render (fun w => (List.append_nil _).symm) (fun w => ?_) fuel deadline scope
    frame _ hrender
  exact (h.flush w.host).trans (List.append_nil _).symm

end Stencil
