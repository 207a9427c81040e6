import Stencil.Proofs.Program.Run
import Stencil.Proofs.Program.Similar
import Stencil.Task.World

/-!
# Stencil.Proofs.Task.Correspond — worlds in which renders do the same

Two worlds correspond when everything that a render reaches out to is the same in both, but for
what may stand for one another (`Correspondence`). Requests that are the same then have answers that
are the same (`Correspondence.Worlds.answer`), from either side (`Correspondence.Lawful.flip`).
-/

namespace Stencil

/-! ## Lists that correspond -/

section Lists

variable {α β : Type} {R : α → β → Prop}

/-- Entries of the same names in the same order are found alike. -/
theorem forall₂_lookup {xs : List (String × α)} {ys : List (String × β)}
    (h : List.Forall₂ (fun x y => x.1 = y.1 ∧ R x.2 y.2) xs ys) (name : String) :
    Option.Rel R (xs.lookup name) (ys.lookup name) := by
  induction h with
  | nil => exact .none
  | @cons x y xs ys hxy _ ih =>
    obtain ⟨key, x⟩ := x
    obtain ⟨_, y⟩ := y
    obtain ⟨rfl, hxy⟩ := hxy
    rw [List.lookup_cons, List.lookup_cons]
    cases name == key with
    | true => exact .some hxy
    | false => exact ih

end Lists

/-! ## Hosts that cannot tell the difference -/

/-- Which states of a host, results to come and helpers may stand for one another, helpers within
the reach of the frames that they are given. -/
structure Host.Likeness (H : Host) where
  state : H.State → H.State → Prop
  pending : H.Pending → H.Pending → Prop
  helper : Reach → H.Helper → H.Helper → Prop

/-- Whether what comes of two calls or polls is the same. -/
inductive Progressed.Similar {Pending : Type} (R : Pending → Pending → Prop) :
    Progressed Pending → Progressed Pending → Prop
  | ready {r r' : Except RenderError Value} (h : Matches Eq r r') :
      Similar R (.ready r) (.ready r')
  | pending {d d' : Pending} (woken : Bool) (h : R d d') :
      Similar R (.pending woken d) (.pending woken d')

/-- Whether two turns of helpers do the same, as long as their requests are answered alike. -/
inductive Turn.Similar {H : Host} (L : H.Likeness) (F : Reach → Frame → Frame → Prop) (r : Reach) :
    Turn H.Helper → Turn H.Helper → Prop
  | finish {o o' : Except RenderError Unit} (h : Matches Eq o o') :
      Similar L F r (.finish o) (.finish o')
  | wait {h h' : H.Helper} (woken : Bool) (hh : L.helper r h h') :
      Similar L F r (.wait woken h) (.wait woken h')
  | write {k k' : Except RenderError Unit → Turn H.Helper} (text : String)
      (h : ∀ o o', Matches Eq o o' → Similar L F r (k o) (k' o')) :
      Similar L F r (.write text k) (.write text k')
  | halt {k k' : Turn H.Helper} (h : Similar L F r k k') : Similar L F r (.halt k) (.halt k')
  | isHalted {k k' : Bool → Turn H.Helper} (h : ∀ b, Similar L F r (k b) (k' b)) :
      Similar L F r (.isHalted k) (.isHalted k')
  | start {f f' : Frame} {k k' : Nat → Turn H.Helper} (i : Nat) (hf : F r f f')
      (h : ∀ child, Similar L F r (k child) (k' child)) :
      Similar L F r (.start i f k) (.start i f' k')
  | poll {k k' : Option (Except RenderError Unit) → Turn H.Helper} (child : Nat)
      (h : ∀ o o', Option.Rel (Matches Eq) o o' → Similar L F r (k o) (k' o')) :
      Similar L F r (.poll child k) (.poll child k')

/-- Whether a host does the same in states that stand for one another, on frames that do: it can
tell neither where errors are placed nor any difference between such frames. -/
structure Host.Likeness.Kept {H : Host} (L : H.Likeness) (F : Reach → Frame → Frame → Prop) :
    Prop where
  write {s s' : H.State} (text : String) : L.state s s' →
    Matches Eq (H.write text s).1 (H.write text s').1 ∧
      L.state (H.write text s).2 (H.write text s').2
  flush {s s' : H.State} : L.state s s' →
    Matches Eq (H.flush s).1 (H.flush s').1 ∧ L.state (H.flush s).2 (H.flush s').2
  call {s s' : H.State} {r : Reach} {f f' : Frame} (i : Nat) (args : List Value) : F r f f' →
    L.state s s' → Progressed.Similar L.pending (H.call i f args s).1 (H.call i f' args s').1 ∧
      L.state (H.call i f args s).2 (H.call i f' args s').2
  poll {s s' : H.State} {d d' : H.Pending} : L.pending d d' → L.state s s' →
    Progressed.Similar L.pending (H.poll d s).1 (H.poll d' s').1 ∧
      L.state (H.poll d s).2 (H.poll d' s').2
  help {s s' : H.State} {r : Reach} {f f' : Frame} (i bodies : Nat) : F r f f' → L.state s s' →
    Option.Rel (L.helper r) (H.help i f bodies s).1 (H.help i f' bodies s').1 ∧
      L.state (H.help i f bodies s).2 (H.help i f' bodies s').2
  turn {s s' : H.State} {r : Reach} {h h' : H.Helper} : L.helper r h h' → L.state s s' →
    Turn.Similar L F r (H.turn h s).1 (H.turn h' s').1 ∧
      L.state (H.turn h s).2 (H.turn h' s').2

/-! ## Worlds that correspond -/

/-- What may stand for what in two renders with a host. -/
structure Correspondence (H : Host) extends Kinship, Host.Likeness H where
  catalogs : Catalog → Catalog → Prop

namespace Correspondence

variable {H : Host}

/-- Whether two worlds are the same, but for what may stand for one another. -/
structure Worlds (M : Correspondence H) (w w' : World H) : Prop where
  host : M.state w.host w'.host
  halted : w.halted = w'.halted
  fragments : List.Forall₂ (fun x y => x.1 = y.1 ∧ M.Fragments x.2 y.2) w.fragments w'.fragments
  catalog : M.catalogs w.catalog w'.catalog
  modifiers : w.modifiers = w'.modifiers
  debug : w.debug = w'.debug

namespace Worlds

variable {M : Correspondence H} {w w' : World H}

/-- Only the states of the hosts need be related for the worlds to stay so. -/
theorem with_host (h : M.Worlds w w') {s s' : H.State} (hs : M.state s s') :
    M.Worlds { w with host := s } { w' with host := s' } :=
  { h with host := hs }

theorem halt (h : M.Worlds w w') : M.Worlds w.halt w'.halt := { h with halted := rfl }

/-- The same text is written by both, with the same result. -/
theorem write (hM : M.toLikeness.Kept M.frames) (h : M.Worlds w w') (text : String) :
    Matches Eq (w.write text).1 (w'.write text).1 ∧
      M.Worlds (w.write text).2 (w'.write text).2 := by
  unfold World.write
  by_cases hhalted : w'.halted = true
  · rw [if_pos hhalted, if_pos (h.halted.trans hhalted)]
    exact ⟨.error rfl, h⟩
  rw [if_neg hhalted, if_neg (h.halted ▸ hhalted)]
  by_cases hempty : text = ""
  · rw [if_pos hempty, if_pos hempty]
    exact ⟨.ok rfl, h⟩
  · rw [if_neg hempty, if_neg hempty]
    obtain ⟨hresult, hstate⟩ := hM.write text h.host
    exact ⟨hresult, h.with_host hstate⟩

/-- Related fragments can be declared under one name. -/
theorem declare (h : M.Worlds w w') (name : String) {x y : Fragment}
    (hxy : M.Fragments x y) : M.Worlds (w.declare name x) (w'.declare name y) where
  host := h.host
  halted := h.halted
  fragments := by
    refine .cons ⟨rfl, hxy⟩ (List.rel_filter ?_ h.fragments)
    rintro ⟨key, x⟩ ⟨_, y⟩ ⟨rfl, -⟩
    exact Iff.rfl
  catalog := h.catalog
  modifiers := h.modifiers
  debug := h.debug

/-- What is declared under one name in related worlds is related. -/
theorem lookup (h : M.Worlds w w') (name : String) :
    Option.Rel M.Fragments (w.fragments.lookup name) (w'.fragments.lookup name) :=
  forall₂_lookup h.fragments name

theorem catalogs (h : M.Worlds w w') {c c' : Catalog} (hc : M.catalogs c c') :
    M.Worlds { w with catalog := c } { w' with catalog := c' } :=
  { h with catalog := hc }

end Worlds

variable [Evaluator]

/-- Whether what stands for one another does the same: the host, the templates in the catalogs, and
the scopes when they are run. -/
structure Lawful (M : Correspondence H) : Prop where
  host : M.toLikeness.Kept M.frames
  template {c c' : Catalog} {r : Reach} {name : String} (debug : Bool) : M.names r name →
    M.catalogs c c' → Matches (M.scopes r) (c.get debug name).1 (c'.get debug name).1 ∧
      M.catalogs (c.get debug name).2 (c'.get debug name).2
  left {c c' : Catalog} {name : String} (debug : Bool) : (∃ s, M.left name s) →
    M.catalogs c c' → ∃ s, M.left name s ∧ (c.get debug name).1 = .ok s ∧
      M.catalogs (c.get debug name).2 c'
  right {c c' : Catalog} {name : String} (debug : Bool) : (∃ s, M.right name s) →
    M.catalogs c c' → ∃ s, M.right name s ∧ (c'.get debug name).1 = .ok s ∧
      M.catalogs c (c'.get debug name).2
  now {r : Reach} {s s' : Scope} {f f' : Frame} (channel : Channel) (site : Site) :
    M.scopes r s s' → M.frames r f f' → Program.Similar M.toKinship (Matches Eq)
      (runSteps channel f site 0 s.now) (runSteps channel f' site 0 s'.now)
  later {r : Reach} {s s' : Scope} {f f' : Frame} (channel : Channel) (site : Site) :
    M.scopes r s s' → M.frames r f f' → (s.later = [] ↔ s'.later = []) ∧
      Program.Similar M.toKinship (Matches Eq)
        (runSteps channel f site s.now.length s.later)
        (runSteps channel f' site s'.now.length s'.later)

variable {M : Correspondence H}

namespace Lawful

/-- Related programs run alike in related frames. -/
theorem run (hM : M.Lawful) {r : Reach} {s s' : Scope} {f f' : Frame} (channel : Channel)
    (site : Site) (hs : M.scopes r s s') (hf : M.frames r f f') :
    Program.Similar M.toKinship (Matches Eq) (s.run channel f site) (s'.run channel f' site) := by
  have hsplit : ∀ (s : Scope) (f : Frame), s.run channel f site =
      (runSteps channel f site 0 s.now >>= fun _ =>
        runSteps channel f site s.now.length s.later) := by
    rintro ⟨steps⟩ f
    rw [Scope.run_mk, ← Nat.zero_add (Scope.now (.mk steps)).length, ← runSteps_append,
      Scope.now_append_later]
    rfl
  rw [hsplit, hsplit]
  exact Action.similar_bind (hM.now channel site hs hf) fun _ _ _ =>
    (hM.later channel site hs hf).2

/-- What only the left one asks for is there, and asking for it makes no difference. -/
theorem left_answer (hM : M.Lawful) {w w' : World H} (hw : M.Worlds w w') {name : String}
    (h : ∃ s, M.left name s) :
    ∃ s w₁, M.left name s ∧ w.answer? (.template name) = some (.ok s, w₁) ∧ M.Worlds w₁ w' := by
  obtain ⟨s, hs, hget, hcatalog⟩ := hM.left w.debug h hw.catalog
  refine ⟨s, { w with catalog := (w.catalog.get w.debug name).2 }, hs, ?_,
    { hw with catalog := hcatalog }⟩
  rw [← hget]
  rfl

/-- A template that only the second catalog knows can be looked up there. -/
theorem right_answer (hM : M.Lawful) {w w' : World H} (hw : M.Worlds w w') {name : String}
    (h : ∃ s, M.right name s) :
    ∃ s w₁, M.right name s ∧ w'.answer? (.template name) = some (.ok s, w₁) ∧ M.Worlds w w₁ := by
  obtain ⟨s, hs, hget, hcatalog⟩ := hM.right w'.debug h hw.catalog
  refine ⟨s, { w' with catalog := (w'.catalog.get w'.debug name).2 }, hs, ?_,
    { hw with catalog := hcatalog }⟩
  rw [← hget]
  rfl

end Lawful

/-- Requests that are the same have answers that are the same. -/
theorem Worlds.answer (hM : M.Lawful) {w w' : World H} (h : M.Worlds w w') {q q' : Request}
    {A : q.Answer → q'.Answer → Prop} (hq : M.Asks q q' A) {a : q.Answer} {w₁ : World H}
    (ha : w.answer? q = some (a, w₁)) :
    ∃ a' w₁', w'.answer? q' = some (a', w₁') ∧ A a a' ∧ M.Worlds w₁ w₁' := by
  cases hq with
  | call | custom | enter => cases ha
  | write text =>
    have hwrite : w.write text = (a, w₁) := Option.some.inj ha
    obtain ⟨hresult, hafter⟩ := h.write hM.host text
    rw [hwrite] at hresult hafter
    exact ⟨_, _, rfl, hresult, hafter⟩
  | isHalted =>
    cases ha
    exact ⟨_, _, rfl, h.halted, h⟩
  | halt =>
    cases ha
    exact ⟨_, _, rfl, trivial, h.halt⟩
  | modify name v args =>
    cases ha
    refine ⟨_, _, rfl, ?_, h⟩
    -- both renders know the same modifiers, so the text is modified alike
    rw [h.modifiers]
    exact .refl (fun _ => rfl) _
  | declare name hxy =>
    cases ha
    exact ⟨_, _, rfl, trivial, h.declare name hxy⟩
  | resolve name =>
    cases ha
    exact ⟨_, _, rfl, h.lookup name, h⟩
  | template hname =>
    cases ha
    obtain ⟨hresult, hcatalog⟩ := hM.template w.debug hname h.catalog
    rw [h.debug] at hresult hcatalog
    refine ⟨_, _, rfl, ?_, h.catalogs ?_⟩
    · show Matches _ (w.catalog.get w.debug _).1 _
      rw [h.debug]
      exact hresult
    · show M.catalogs (w.catalog.get w.debug _).2 _
      rw [h.debug]
      exact hcatalog

end Correspondence

/-! ## The other way round -/

section Flip

variable {H : Host}

/-- The same, seen from the other side. -/
def Host.Likeness.flip (L : H.Likeness) : H.Likeness where
  state s s' := L.state s' s
  pending d d' := L.pending d' d
  helper r h h' := L.helper r h' h

/-- The same, seen from the other side. -/
def Correspondence.flip (M : Correspondence H) : Correspondence H where
  toKinship := M.toKinship.flip
  toLikeness := M.toLikeness.flip
  catalogs c c' := M.catalogs c' c

variable {L : H.Likeness} {F : Reach → Frame → Frame → Prop} {r : Reach}

/-- Related options are related the other way round. -/
theorem rel_flip {α β : Type} {R : α → β → Prop} {x : Option α} {y : Option β}
    (h : Option.Rel R x y) : Option.Rel (fun b a => R a b) y x := by
  cases h with
  | none => exact .none
  | some h => exact .some h

theorem Progressed.Similar.flip {x x' : Progressed H.Pending}
    (h : Progressed.Similar L.pending x x') : Progressed.Similar L.flip.pending x' x := by
  cases h with
  | ready h => exact .ready h.symm
  | pending woken h => exact .pending woken h

/-- What two helpers do in a turn is related the other way round. -/
theorem Turn.Similar.flip {x x' : Turn H.Helper} (h : Turn.Similar L F r x x') :
    Turn.Similar L.flip (fun r f f' => F r f' f) r x' x := by
  induction h with
  | finish h => exact .finish h.symm
  | wait woken h => exact .wait woken h
  | write text _ ih => exact .write text fun o o' h => ih o' o h.symm
  | halt _ ih => exact .halt ih
  | isHalted _ ih => exact .isHalted ih
  | start i hf _ ih => exact .start i hf ih
  | poll child _ ih =>
    refine .poll child fun o o' h => ih o' o ?_
    cases h with
    | none => exact .none
    | some h => exact .some h.symm

/-- A likeness that two hosts keep is kept when they change places. -/
theorem Host.Likeness.Kept.flip (h : L.Kept F) : L.flip.Kept fun r f f' => F r f' f where
  write text hs := ⟨(h.write text hs).1.symm, (h.write text hs).2⟩
  flush hs := ⟨(h.flush hs).1.symm, (h.flush hs).2⟩
  call i args hf hs := ⟨(h.call i args hf hs).1.flip, (h.call i args hf hs).2⟩
  poll hd hs := ⟨(h.poll hd hs).1.flip, (h.poll hd hs).2⟩
  help i bodies hf hs := ⟨rel_flip (h.help i bodies hf hs).1, (h.help i bodies hf hs).2⟩
  turn hh hs := ⟨(h.turn hh hs).1.flip, (h.turn hh hs).2⟩

namespace Correspondence

variable {M : Correspondence H}

/-- Related worlds are related the other way round. -/
theorem Worlds.flip {w w' : World H} (h : M.Worlds w w') : M.flip.Worlds w' w where
  host := h.host
  halted := h.halted.symm
  fragments := by
    refine .flip (h.fragments.imp fun x y hxy => ⟨hxy.1.symm, ?_⟩)
    exact Kinship.Fragments.flip (K := M.toKinship.flip) hxy.2
  catalog := h.catalog
  modifiers := h.modifiers.symm
  debug := h.debug.symm

/-- A lawful correspondence is lawful when its two sides change places. -/
theorem Lawful.flip [Evaluator] (h : M.Lawful) : M.flip.Lawful where
  host := h.host.flip
  template debug hname hc := ⟨(h.template debug hname hc).1.flip, (h.template debug hname hc).2⟩
  left := h.right
  right := h.left
  now channel site hs hf := (h.now channel site hs hf).flip.mono fun _ _ h => h.symm
  later channel site hs hf :=
    ⟨(h.later channel site hs hf).1.symm,
      (h.later channel site hs hf).2.flip.mono fun _ _ h => h.symm⟩

end Correspondence

end Flip

end Stencil
