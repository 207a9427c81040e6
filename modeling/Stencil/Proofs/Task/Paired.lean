import Stencil.Proofs.Program.Paired
import Stencil.Proofs.Task.Linked
import Stencil.Proofs.Task.Record

/-!
# Stencil.Proofs.Task.Paired — renders in step

Two renders are in step when they can be watched side by side: what is seen of one of them at each
moment stands for what is seen of the other one, and so do the results, if there are any
(`Watched.Paired`). A scope and the same scope with other places for its errors are in step, as long
as the hosts cannot tell apart what stands for one another (`World.watch_paired`): they are linked,
request by request (`Rapport.link`).
-/

namespace Stencil

/-! ## Hosts -/

/-- Which states of a host, results to come and helpers stand for one another. -/
structure Host.Bond (H : Host) where
  state : H.State → H.State → Prop
  pending : H.Pending → H.Pending → Prop
  helper : H.Helper → H.Helper → Prop

/-- Whether what comes of two calls or polls is the same. -/
abbrev Progressed.Paired (P : Pairing) {Pending : Type} (R : Pending → Pending → Prop) :
    Progressed Pending → Progressed Pending → Prop :=
  Progressed.Linked (P.Results Eq) R

/-- Whether two turns of helpers do the same, as long as their requests are answered alike. -/
abbrev Turn.Paired (P : Pairing) {Helper : Type} (R : Helper → Helper → Prop) :
    Turn Helper → Turn Helper → Prop :=
  Turn.Linked (P.Results Eq) R P.frames

/-- Whether a host does the same in states that stand for one another, on frames that do: it can
tell apart neither such frames nor errors that stand for one another. -/
structure Host.Bond.Kept {H : Host} (B : H.Bond) (P : Pairing) : Prop where
  write {s s' : H.State} (text : String) : B.state s s' →
    P.Results Eq (H.write text s).1 (H.write text s').1 ∧
      B.state (H.write text s).2 (H.write text s').2
  flush {s s' : H.State} : B.state s s' →
    P.Results Eq (H.flush s).1 (H.flush s').1 ∧ B.state (H.flush s).2 (H.flush s').2
  call {s s' : H.State} {f f' : Frame} (i : Nat) (args : List Value) : P.frames f f' →
    B.state s s' → Progressed.Paired P B.pending (H.call i f args s).1 (H.call i f' args s').1 ∧
      B.state (H.call i f args s).2 (H.call i f' args s').2
  poll {s s' : H.State} {d d' : H.Pending} : B.pending d d' → B.state s s' →
    Progressed.Paired P B.pending (H.poll d s).1 (H.poll d' s').1 ∧
      B.state (H.poll d s).2 (H.poll d' s').2
  help {s s' : H.State} {f f' : Frame} (i bodies : Nat) : P.frames f f' → B.state s s' →
    Option.Rel B.helper (H.help i f bodies s).1 (H.help i f' bodies s').1 ∧
      B.state (H.help i f bodies s).2 (H.help i f' bodies s').2
  turn {s s' : H.State} {h h' : H.Helper} : B.helper h h' → B.state s s' →
    Turn.Paired P B.helper (H.turn h s).1 (H.turn h' s').1 ∧
      B.state (H.turn h s).2 (H.turn h' s').2

/-- Nothing stands for anything but itself. -/
def Host.Bond.same (H : Host) : H.Bond := ⟨Eq, Eq, Eq⟩

/-- A host that gives nothing can tell nothing apart, even if it keeps a record. -/
theorem Host.Bond.kept_mute (P : Pairing) : (same Host.mute.recorded).Kept P where
  write {s _} _ hs := by
    cases hs
    exact ⟨.ok rfl, rfl⟩
  flush {s _} hs := by
    cases hs
    exact ⟨.ok rfl, rfl⟩
  call {s _ _ _} _ _ _ hs := by
    cases hs
    exact ⟨.ready (.ok rfl), rfl⟩
  poll {_ _ d _} _ _ := nomatch d
  help {s _ _ _} _ _ _ hs := by
    cases hs
    exact ⟨.none, rfl⟩
  turn {_ _ h _} _ _ := nomatch h

/-- A host whose functions all fail keeps every bond. -/
theorem Host.Bond.kept_failing {P : Pairing} (hP : P.Lawful) : (same Host.failing).Kept P where
  write _ _ := ⟨.ok rfl, rfl⟩
  flush _ := ⟨.ok rfl, rfl⟩
  call _ _ _ _ := ⟨.ready (.error (hP.refl _)), rfl⟩
  poll {_ _ d _} _ _ := nomatch d
  help _ _ _ _ := ⟨.none, rfl⟩
  turn {_ _ h _} _ _ := nomatch h

/-! ## Worlds -/

/-- What two renders with a host may differ in. -/
structure Rapport (H : Host) extends Pairing, Host.Bond H where
  catalogs : Catalog → Catalog → Prop
  /-- Whether the left render shows details of errors. -/
  debug : Bool
  /-- Whether the right render does. -/
  debug' : Bool

namespace Rapport

variable {H : Host}

/-- Whether the host and the catalogs give out what stands for one another. -/
structure Lawful (M : Rapport H) : Prop where
  pairing : M.toPairing.Lawful
  host : M.toBond.Kept M.toPairing
  template {c c' : Catalog} (name : String) : M.catalogs c c' →
    M.Results M.Scopes (c.get M.debug name).1 (c'.get M.debug' name).1 ∧
      M.catalogs (c.get M.debug name).2 (c'.get M.debug' name).2

/-- Whether two worlds are the same, but for what stands for one another. -/
structure Worlds (M : Rapport H) (w w' : World H) : Prop where
  host : M.state w.host w'.host
  halted : w.halted = w'.halted
  fragments : List.Forall₂ (fun x y => x.1 = y.1 ∧ M.Fragments x.2 y.2) w.fragments w'.fragments
  catalog : M.catalogs w.catalog w'.catalog
  modifiers : w.modifiers = w'.modifiers
  debug : w.debug = M.debug
  debug' : w'.debug = M.debug'

namespace Worlds

variable {M : Rapport H} {w w' : World H}

/-- Only the states of the hosts need be paired for the worlds to stay so. -/
theorem with_host (h : M.Worlds w w') {s s' : H.State} (hs : M.state s s') :
    M.Worlds { w with host := s } { w' with host := s' } :=
  { h with host := hs }

theorem halt (h : M.Worlds w w') : M.Worlds w.halt w'.halt := { h with halted := rfl }

/-- Both write the same text with paired results. -/
theorem write (hM : M.Lawful) (h : M.Worlds w w') (text : String) :
    M.Results Eq (w.write text).1 (w'.write text).1 ∧
      M.Worlds (w.write text).2 (w'.write text).2 := by
  unfold World.write
  by_cases hhalted : w'.halted = true
  · rw [if_pos hhalted, if_pos (h.halted.trans hhalted)]
    exact ⟨.error (hM.pairing.refl _), h⟩
  rw [if_neg hhalted, if_neg (h.halted ▸ hhalted)]
  by_cases hempty : text = ""
  · rw [if_pos hempty, if_pos hempty]
    exact ⟨.ok rfl, h⟩
  · rw [if_neg hempty, if_neg hempty]
    obtain ⟨hresult, hstate⟩ := hM.host.write text h.host
    exact ⟨hresult, h.with_host hstate⟩

theorem flush (hM : M.Lawful) (h : M.Worlds w w') :
    M.Results Eq w.flush.1 w'.flush.1 ∧ M.Worlds w.flush.2 w'.flush.2 := by
  obtain ⟨hresult, hstate⟩ := hM.host.flush h.host
  exact ⟨hresult, h.with_host hstate⟩

/-- Paired fragments can be declared under one name. -/
theorem declare (h : M.Worlds w w') (name : String) {x y : Fragment}
    (hxy : M.Fragments x y) : M.Worlds (w.declare name x) (w'.declare name y) where
  host := h.host
  halted := h.halted
  fragments := by
    refine .cons ⟨rfl, hxy⟩ (List.rel_filter ?_ h.fragments)
    rintro ⟨key, x⟩ ⟨_, y⟩ ⟨rfl, -⟩
    exact Iff.rfl
  catalog := h.catalog
  modifiers := h.modifiers
  debug := h.debug
  debug' := h.debug'

/-- A template is looked up with paired results. -/
theorem template (hM : M.Lawful) (h : M.Worlds w w') (name : String) :
    M.Results M.Scopes (w.template name).1 (w'.template name).1 ∧
      M.Worlds (w.template name).2 (w'.template name).2 := by
  obtain ⟨hresult, hcatalog⟩ := hM.template name h.catalog
  rw [← h.debug, ← h.debug'] at hresult hcatalog
  exact ⟨hresult, { h with catalog := hcatalog }⟩

/-- Requests that are the same have answers that stand for one another, if they have any. -/
theorem answer (hM : M.Lawful) (h : M.Worlds w w') {q q' : Request}
    {A : q.Answer → q'.Answer → Prop} (hq : M.Asks q q' A) :
    Option.Rel (fun x y => A x.1 y.1 ∧ M.Worlds x.2 y.2) (w.answer? q) (w'.answer? q') := by
  cases hq with
  | write text => exact .some (h.write hM text)
  | isHalted => exact .some ⟨h.halted, h⟩
  | halt => exact .some ⟨rfl, h.halt⟩
  | modify name v args =>
    refine .some ⟨?_, h⟩
    show M.Results Eq (w.modifiers.apply name v args) (w'.modifiers.apply name v args)
    rw [h.modifiers]
    exact hM.pairing.refl_results _
  | declare name hxy => exact .some ⟨rfl, h.declare name hxy⟩
  | resolve name => exact .some ⟨forall₂_lookup h.fragments name, h⟩
  | template name => exact .some (h.template hM name)
  | call | custom | enter => exact .none

end Worlds

end Rapport

/-! ## What is seen -/

/-- Whether what is seen of one render stands for what is seen of the other one. -/
inductive Event.Paired (P : Pairing) : Event → Event → Prop
  | asked {q q' : Request} {A : q.Answer → q'.Answer → Prop} (h : P.Asks q q' A) :
      Event.Paired P (.asked q) (.asked q')
  | answered {q q' : Request} {A : q.Answer → q'.Answer → Prop} {a : q.Answer} {a' : q'.Answer}
      (h : P.Asks q q' A) (ha : A a a') : Event.Paired P (.answered q a) (.answered q' a')
  | returned {r r' : Except RenderError Value} (h : P.Results Eq r r') :
      Event.Paired P (.returned r) (.returned r')
  | flushed {o o' : Outcome} (h : P.Results Eq o o') : Event.Paired P (.flushed o) (.flushed o')

/-- Whether all that is seen of two renders stands for one another, and so does what comes of
them. -/
structure Watched.Paired (P : Pairing) {α β : Type} (R : α → β → Prop) (x : Watched α)
    (y : Watched β) : Prop where
  events : List.Forall₂ (Event.Paired P) x.events y.events
  result : Option.Rel R x.result y.result

namespace Watched.Paired

variable {P : Pairing} {α β γ δ : Type} {R : α → β → Prop} {S : γ → δ → Prop}

theorem stuck : Watched.Paired P R .stuck .stuck := ⟨.nil, .none⟩

theorem pure {a : α} {b : β} (h : R a b) : Watched.Paired P R (.pure a) (.pure b) :=
  ⟨.nil, .some h⟩

/-- Pairing is kept by sequencing. -/
theorem bind {x : Watched α} {y : Watched β} (h : Watched.Paired P R x y) {f : α → Watched γ}
    {g : β → Watched δ} (hfg : ∀ a b, R a b → Watched.Paired P S (f a) (g b)) :
    Watched.Paired P S (x.bind f) (y.bind g) := by
  obtain ⟨es, a⟩ := x
  obtain ⟨es', b⟩ := y
  obtain ⟨hevents, hresult⟩ := h
  cases hresult with
  | none => exact ⟨hevents, .none⟩
  | some hab => exact ⟨List.rel_append hevents (hfg _ _ hab).events, (hfg _ _ hab).result⟩

/-- It is monotone in the relation of the results. -/
theorem mono {x : Watched α} {y : Watched β} (h : Watched.Paired P R x y) {R' : α → β → Prop}
    (hR : ∀ a b, R a b → R' a b) : Watched.Paired P R' x y := by
  obtain ⟨es, a⟩ := x
  obtain ⟨es', b⟩ := y
  obtain ⟨hevents, hresult⟩ := h
  cases hresult with
  | none => exact ⟨hevents, .none⟩
  | some hab => exact ⟨hevents, .some (hR _ _ hab)⟩

/-- What one side comes to, the other comes to as well. -/
theorem exists_left {x : Watched α} {y : Watched β} (h : Watched.Paired P R x y) {b : β}
    (hb : y.result = some b) : ∃ a, x.result = some a ∧ R a b := by
  obtain ⟨es, a⟩ := x
  obtain ⟨es', b'⟩ := y
  cases hb
  obtain ⟨-, hresult⟩ := h
  cases hresult with
  | some hab => exact ⟨_, rfl, hab⟩

end Watched.Paired

/-- What is seen of two renders that are in step is compared event by event. -/
@[reducible] def Comparison.paired (P : Pairing) : Comparison where
  holds := Watched.Paired P
  stuck := .stuck
  pure := .pure
  bind h hfg := h.bind hfg

/-! ## Requests -/

/-- What is seen of two results that stand for one another. -/
theorem World.paired_resultEvents {P : Pairing} {Pending : Type} {R : Pending → Pending → Prop}
    {r r' : Progressed Pending} (h : Progressed.Paired P R r r') :
    List.Forall₂ (Event.Paired P) (resultEvents r) (resultEvents r') := by
  cases h with
  | ready h => exact .cons (.returned h) .nil
  | pending woken h => exact .nil

namespace Rapport

variable {H : Host} (M : Rapport H)

/-- What stands for what in two renders that are in step. -/
@[reducible] def link : Link H where
  toComparison := .paired M.toPairing
  left := Formula.evaluator
  right := Formula.evaluator
  asks := M.Asks
  values := M.Results Eq
  outcomes := M.Results Eq
  worlds := M.Worlds
  pending := M.pending
  blocks := M.Blocks
  helpers _ _ := M.helper
  frames _ _ := M.frames

variable {M} (hM : M.Lawful)
include hM

/-- Paired requests are answered alike. -/
theorem alike_watchAnswer {q q' : Request} {A : q.Answer → q'.Answer → Prop}
    (hq : M.Asks q q' A) : M.link.Alike A (·.watchAnswer q) (·.watchAnswer q') := by
  intro w w' hw
  have hanswer := hw.answer hM hq
  dsimp only [World.watchAnswer]
  generalize w.answer? q = x at hanswer ⊢
  generalize w'.answer? q' = y at hanswer ⊢
  cases hanswer with
  | none => exact .stuck
  | some h => exact ⟨.cons (.asked hq) (.cons (.answered hq h.1) .nil), .some h⟩

/-- Functions are called alike in paired frames. -/
theorem alike_watchCall {f f' : Frame} (i : Nat) (args : List Value) (hf : M.frames f f') :
    M.link.Alike (Progressed.Paired M.toPairing M.pending) (·.watchCall i f args)
      (·.watchCall i f' args) := by
  intro w w' hw
  obtain ⟨hresult, hstate⟩ := hM.host.call i args hf hw.host
  exact ⟨.cons (.asked (.call i args hf)) (World.paired_resultEvents hresult),
    .some ⟨hresult, hw.with_host hstate⟩⟩

theorem alike_watchPoll {d d' : H.Pending} (hd : M.pending d d') :
    M.link.Alike (Progressed.Paired M.toPairing M.pending) (·.watchPoll d) (·.watchPoll d') := by
  intro w w' hw
  obtain ⟨hresult, hstate⟩ := hM.host.poll hd hw.host
  exact ⟨World.paired_resultEvents hresult, .some ⟨hresult, hw.with_host hstate⟩⟩

/-- Paired blocks are handed over alike. -/
theorem alike_watchHelp {x y : CustomBlock} (i : Nat) (h : M.Blocks x y) :
    M.link.Alike (Option.Rel M.helper) (·.watchHelp i x) (·.watchHelp i y) := by
  intro w w' hw
  obtain ⟨hhelper, hstate⟩ := hM.host.help i x.bodies.length h.frame hw.host
  have hbodies : y.bodies.length = x.bodies.length := by rw [h.bodies, List.length_map]
  dsimp only [World.watchHelp]
  rw [hbodies]
  exact ⟨.cons (.asked (.custom i h)) .nil, .some ⟨hhelper, hw.with_host hstate⟩⟩

/-- The result of a block is written alike on both sides. -/
theorem paired_writeResult (i : Nat) {x y : CustomBlock} (h : M.Blocks x y) :
    M.link.Actions (Task.writeResult i x) (Task.writeResult i y) := by
  have hcall : Program.Paired M.toPairing (M.Results Eq) (Action.call i x.frame [])
      (Action.call i y.frame []) := .ask (.call i [] h.frame) fun _ _ h => .done h
  refine Action.paired_bind hcall ?_
  rintro v _ rfl
  rw [h.channel]
  exact Channel.paired_write hM.pairing _ _

/-- Each request is of the kind of the one that it stands for. -/
theorem kind {q q' : Request} {A : q.Answer → q'.Answer → Prop} (hq : M.Asks q q' A) :
    M.link.Kind q q' A := by
  by_cases hinstant : q.isInstant = true
  · exact .instant hinstant (hq.isInstant_eq.symm.trans hinstant) (alike_watchAnswer hM hq)
  cases hq with
  | write | isHalted | halt | modify | declare | resolve | template => exact absurd rfl hinstant
  | call i args hf => exact .call (alike_watchCall hM i args hf) fun _ _ h => h
  | custom i h =>
    exact .custom h (alike_watchHelp hM i h) (paired_writeResult hM i h) fun _ _ h => h
  | @enter s _ f f' channel site hs hf =>
    cases hs
    refine .enter ⟨.cons (.asked (.enter channel site rfl hf)) .nil, .some trivial⟩ ?_
      fun _ _ h => h
    exact s.paired_run hM.pairing hf channel site

/-- A scope and the same scope with other places begin in the same way. -/
theorem begins {s s' : Scope} (hs : M.Scopes s s') {f f' : Frame} (hf : M.frames f f')
    (channel : Channel) (site : Site) : M.link.Begins s s' channel channel f f' site site := by
  cases hs
  have hlength : (s.relabel M.place).now.length = s.now.length := by
    rw [Scope.now_relabel, relabelSteps_eq, List.length_map]
  refine ⟨?_, ?_, ?_⟩
  · rw [Scope.now_relabel]
    exact paired_runSteps hM.pairing s.now hf channel site 0
  · rw [hlength, Scope.later_relabel]
    exact paired_runSteps hM.pairing s.later hf channel site s.now.length
  · rw [Scope.later_relabel, relabelSteps_eq, List.map_eq_nil_iff]

/-- **Worlds that are paired make a link**: whatever a render asks for is answered alike. -/
theorem link_lawful : M.link.Lawful where
  asks hq := kind hM hq
  ok := .ok rfl
  succeed {o o'} h := by
    cases h with
    | ok => exact Iff.rfl
    | error => exact ⟨fun h => (nomatch h), fun h => (nomatch h)⟩
  halt _ _ hw := (alike_watchAnswer hM .halt _ _ hw).mono fun _ _ h => ⟨trivial, h.2⟩
  isHalted := alike_watchAnswer hM .isHalted
  poll hd := alike_watchPoll hM hd
  turn hh hw := by
    obtain ⟨hturn, hstate⟩ := hM.host.turn hh hw.host
    exact ⟨hturn, hw.with_host hstate⟩
  write {x y} text h := by
    rw [h.channel]
    exact Channel.paired_write hM.pairing y.channel text
  body {x y f f'} i child h hf := by
    rw [h.bodies, List.getElem?_map, h.channel, h.site]
    cases x.bodies[i]? with
    | none => exact .none
    | some body => exact .some (begins hM rfl hf _ _)

theorem link_closes : M.link.Closes where
  timeout _ := .error (hM.pairing.refl _)
  halted h := h.halt
  flush _ _ hw := ⟨.cons (.flushed (hw.flush hM).1) .nil, .some (hw.flush hM)⟩

end Rapport

/-! ## Renders -/

/-- A scope and the same scope with other places are rendered in step. -/
theorem World.watch_paired {H : Host} {M : Rapport H} (hM : M.Lawful) (fuel : Nat)
    (deadline : Option Deadline) {s s' : Scope} (hs : M.Scopes s s') {f f' : Frame}
    (hf : M.frames f f') {w w' : World H} (hw : M.Worlds w w') :
    Watched.Paired M.toPairing (fun x y => M.Results Eq x.1 y.1 ∧ M.Worlds x.2 y.2)
      (w.watch fuel deadline s f) (w'.watch fuel deadline s' f') :=
  World.watch_linked (Rapport.link_lawful hM) (Rapport.link_closes hM) fuel deadline
    (Rapport.begins hM hs hf [] (.start 0)) w w' hw

end Stencil
