import Mathlib.Data.List.Forall2
import Stencil.Proofs.Frame.Reach
import Stencil.Proofs.Program.Laws
import Stencil.Proofs.Program.Propagate

/-!
# Stencil.Proofs.Program.Similar — programs that do the same

Two programs are similar when they make the same requests, one after the other, on frames and with
scopes that stand for one another, and come to the same but for the places of errors
(`Program.Similar`). One of them may enter a template where the other one has the steps of the
template itself.
-/

namespace Stencil

/-! ## Results that are the same but for the places of errors -/

/-- Whether two results are related, or errors that differ at most in their places. -/
inductive Matches {α β : Type} (R : α → β → Prop) :
    Except RenderError α → Except RenderError β → Prop
  | ok {a : α} {b : β} : R a b → Matches R (.ok a) (.ok b)
  | error {e e' : RenderError} : e.root = e'.root → Matches R (.error e) (.error e')

namespace Matches

variable {α β : Type} {R : α → β → Prop} {r : Except RenderError α} {r' : Except RenderError β}

theorem refl {R : α → α → Prop} (hR : ∀ a, R a a) (r : Except RenderError α) : Matches R r r := by
  cases r with
  | ok a => exact .ok (hR a)
  | error e => exact .error rfl

/-- Results that match in one way match in any weaker one. -/
theorem mono {S : α → β → Prop} (h : Matches R r r') (hRS : ∀ a b, R a b → S a b) :
    Matches S r r' := by
  cases h with
  | ok hab => exact .ok (hRS _ _ hab)
  | error he => exact .error he

theorem flip (h : Matches R r r') : Matches (fun b a => R a b) r' r := by
  cases h with
  | ok hab => exact .ok hab
  | error he => exact .error he.symm

/-- Results that are equal but for places are so the other way round. -/
theorem symm {r r' : Except RenderError α} (h : Matches Eq r r') : Matches Eq r' r :=
  h.flip.mono fun _ _ h => h.symm

/-- Places do not matter. -/
theorem locate (h : Matches R r r') (position position' : Option Position) :
    Matches R (r.mapError (·.locate position)) (r'.mapError (·.locate position')) := by
  cases h with
  | ok hab => exact .ok hab
  | error he =>
    refine .error ?_
    rw [RenderError.root_locate, RenderError.root_locate]
    exact he

/-- Nor does a place on one side only. -/
theorem locate_left (h : Matches R r r') (position : Option Position) :
    Matches R (r.mapError (·.locate position)) r' := by
  cases h with
  | ok hab => exact .ok hab
  | error he => exact .error ((RenderError.root_locate _ position).trans he)

end Matches

/-! ## Requests that are the same -/

/-- What may stand for what in two renders: frames and scopes, each within some reach; which
templates may be rendered within a reach; and what the templates are whose steps one render, the
left or the right one, takes from the catalog while the other one has them in place. -/
structure Kinship where
  frames : Reach → Frame → Frame → Prop
  scopes : Reach → Scope → Scope → Prop
  names : Reach → String → Prop
  left : String → Scope → Prop
  right : String → Scope → Prop

namespace Kinship

/-- The same, seen from the other side. -/
def flip (K : Kinship) : Kinship where
  frames r := fun f f' => K.frames r f' f
  scopes r := fun s s' => K.scopes r s' s
  names := K.names
  left := K.right
  right := K.left

/-- Whether fragments stand for one another. -/
def Fragments (K : Kinship) (x y : Fragment) : Prop :=
  x.modifiers = y.modifiers ∧ ∃ r, K.frames r x.frame y.frame ∧ K.scopes r.inner x.body y.body

/-- Whether blocks stand for one another. -/
structure Blocks (K : Kinship) (r : Reach) (x y : CustomBlock) : Prop where
  channel : x.channel = y.channel
  site : x.site = y.site
  frame : K.frames r x.frame y.frame
  bodies : List.Forall₂ (K.scopes r) x.bodies y.bodies

/-- Whether requests are the same, and which of their answers are. -/
inductive Asks (K : Kinship) : (q q' : Request) → (q.Answer → q'.Answer → Prop) → Prop
  | write (text : String) : K.Asks (.write text) (.write text) (Matches Eq)
  | isHalted : K.Asks .isHalted .isHalted Eq
  | halt : K.Asks .halt .halt fun _ _ => True
  | modify (name : String) (v : Value) (args : List Value) :
      K.Asks (.modify name v args) (.modify name v args) (Matches Eq)
  | declare {x y : Fragment} (name : String) (h : K.Fragments x y) :
      K.Asks (.declare name x) (.declare name y) fun _ _ => True
  | resolve (name : String) :
      K.Asks (.resolve name) (.resolve name) (Option.Rel K.Fragments)
  | template {r : Reach} {name : String} (h : K.names r name) :
      K.Asks (.template name) (.template name) (Matches (K.scopes r))
  | call {r : Reach} {f f' : Frame} (i : Nat) (args : List Value) (h : K.frames r f f') :
      K.Asks (.call i f args) (.call i f' args) (Matches Eq)
  | custom {r : Reach} {x y : CustomBlock} (i : Nat) (h : K.Blocks r x y) :
      K.Asks (.custom i x) (.custom i y) (Matches Eq)
  | enter {r : Reach} {s s' : Scope} {f f' : Frame} (channel : Channel) (site : Site)
      (hs : K.scopes r s s') (hf : K.frames r f f') :
      K.Asks (.enter s channel f site) (.enter s' channel f' site) (Matches Eq)

section Flip

variable {K : Kinship}

theorem Fragments.flip {x y : Fragment} (h : K.flip.Fragments y x) : K.Fragments x y :=
  ⟨h.1.symm, h.2⟩

theorem Blocks.flip {r : Reach} {x y : CustomBlock} (h : K.Blocks r x y) : K.flip.Blocks r y x :=
  ⟨h.channel.symm, h.site.symm, h.frame, .flip h.bodies⟩

/-- Requests that are alike are so the other way round, with their answers. -/
theorem Asks.flip {q q' : Request} {A : q.Answer → q'.Answer → Prop} (h : K.Asks q q' A) :
    ∃ B, K.flip.Asks q' q B ∧ ∀ a b, B b a → A a b := by
  cases h with
  | write text => exact ⟨_, .write text, fun _ _ h => h.symm⟩
  | isHalted => exact ⟨_, .isHalted, fun _ _ h => h.symm⟩
  | halt => exact ⟨_, .halt, fun _ _ h => h⟩
  | modify name v args => exact ⟨_, .modify name v args, fun _ _ h => h.symm⟩
  | declare name h => exact ⟨_, .declare name (Fragments.flip (K := K.flip) h), fun _ _ h => h⟩
  -- a fragment is found on both sides or on neither
  | resolve name =>
    refine ⟨_, .resolve name, fun a b h => ?_⟩
    cases h with
    | none => exact .none
    | some h => exact .some h.flip
  | template h => exact ⟨_, .template h, fun _ _ h => h.flip⟩
  | call i args h => exact ⟨_, .call (K := K.flip) i args h, fun _ _ h => h.symm⟩
  | custom i h => exact ⟨_, .custom i h.flip, fun _ _ h => h.symm⟩
  | enter channel site hs hf =>
    exact ⟨_, .enter (K := K.flip) channel site hs hf, fun _ _ h => h.symm⟩

end Flip

end Kinship

/-! ## Programs -/

variable [Evaluator]

/-- Whether two programs make the same requests and come to related results. One of them may take
the steps of a template from the catalog, and enter scopes that the other one does not. -/
inductive Program.Similar (K : Kinship) {α β : Type} (R : α → β → Prop) :
    Program α → Program β → Prop
  | done {a : α} {b : β} (h : R a b) : Similar K R (.done a) (.done b)
  | ask {q q' : Request} {A : q.Answer → q'.Answer → Prop} {k : q.Answer → Program α}
      {k' : q'.Answer → Program β} (h : K.Asks q q' A)
      (hk : ∀ a a', A a a' → Similar K R (k a) (k' a')) : Similar K R (.ask q k) (.ask q' k')
  | templateLeft {name : String} {k : Except RenderError Scope → Program α} {p : Program β}
      (h : ∃ s, K.left name s) (hk : ∀ s, K.left name s → Similar K R (k (.ok s)) p) :
      Similar K R (.ask (.template name) k) p
  | templateRight {name : String} {p : Program α} {k : Except RenderError Scope → Program β}
      (h : ∃ s, K.right name s) (hk : ∀ s, K.right name s → Similar K R p (k (.ok s))) :
      Similar K R p (.ask (.template name) k)
  | enterLeft {s : Scope} {channel : Channel} {f : Frame} {site : Site}
      {k : Except RenderError Unit → Program α} {p : Program β}
      (h : Similar K R (Program.bind (s.run channel f site) k) p) :
      Similar K R (.ask (.enter s channel f site) k) p
  | enterRight {s : Scope} {channel : Channel} {f : Frame} {site : Site} {p : Program α}
      {k : Except RenderError Unit → Program β}
      (h : Similar K R p (Program.bind (s.run channel f site) k)) :
      Similar K R p (.ask (.enter s channel f site) k)

namespace Program.Similar

variable {K : Kinship} {α β γ δ : Type} {R : α → β → Prop} {S : γ → δ → Prop}
  {p : Program α} {p' : Program β}

/-- Sequences of similar programs are similar. -/
theorem bind (h : Similar K R p p') {f : α → Program γ} {f' : β → Program δ}
    (hf : ∀ a b, R a b → Similar K S (f a) (f' b)) : Similar K S (p.bind f) (p'.bind f') := by
  induction h with
  | done h => exact hf _ _ h
  | ask h _ ih => exact .ask h ih
  | templateLeft h _ ih => exact .templateLeft h ih
  | templateRight h _ ih => exact .templateRight h ih
  | enterLeft _ ih =>
    rw [Program.bind_assoc] at ih
    exact .enterLeft ih
  | enterRight _ ih =>
    rw [Program.bind_assoc] at ih
    exact .enterRight ih

/-- Programs stay similar when less is asked of their results. -/
theorem mono {R' : α → β → Prop} (h : Similar K R p p') (hR : ∀ a b, R a b → R' a b) :
    Similar K R' p p' := by
  have hdone : ∀ a b, R a b → Similar K R' (Program.done a) (Program.done b) :=
    fun a b hab => .done (hR a b hab)
  have hbind := h.bind hdone
  rwa [Program.bind_pure, Program.bind_pure] at hbind

/-- Programs are similar the other way round. -/
theorem flip (h : Similar K R p p') : Similar K.flip (fun b a => R a b) p' p := by
  induction h with
  | done h => exact .done h
  | ask h _ ih =>
    obtain ⟨B, hB, hAB⟩ := h.flip
    exact .ask hB fun b a hab => ih a b (hAB a b hab)
  | templateLeft h _ ih => exact .templateRight h ih
  | templateRight h _ ih => exact .templateLeft h ih
  | enterLeft _ ih => exact .enterRight ih
  | enterRight _ ih => exact .enterLeft ih

end Program.Similar

/-! ## Actions -/

namespace Action

variable {K : Kinship} {α β γ δ : Type} {R : α → β → Prop} {S : γ → δ → Prop}

/-- Sequences are similar if both parts are, errors included. -/
theorem similar_bind {x : Action α} {x' : Action β} (hx : Program.Similar K (Matches R) x x')
    {f : α → Action γ} {f' : β → Action δ}
    (hf : ∀ a b, R a b → Program.Similar K (Matches S) (f a) (f' b)) :
    Program.Similar K (Matches S) (x >>= f : Action γ) (x' >>= f' : Action δ) := by
  refine hx.bind fun r r' hr => ?_
  cases hr with
  | ok hab => exact hf _ _ hab
  | error he => exact .done (.error he)

theorem similar_ofExcept {r : Except RenderError α} {r' : Except RenderError β}
    (h : Matches R r r') : Program.Similar K (Matches R) (ofExcept r) (ofExcept r') := .done h

theorem similar_pure {a : α} {b : β} (h : R a b) :
    Program.Similar K (Matches R) (pure a : Action α) (pure b : Action β) := .done (.ok h)

/-- Giving errors places keeps programs similar, whatever the places are. -/
theorem similar_locate {x : Action α} {x' : Action β} (h : Program.Similar K (Matches R) x x')
    (position position' : Option Position) :
    Program.Similar K (Matches R) (x.locate position) (x'.locate position') :=
  h.bind fun _ _ hr => .done (hr.locate position position')

end Action

/-! ## Texts on their way -/

/-- Modifiers are applied alike on both sides. -/
theorem Channel.similar_applyAll (K : Kinship) (ms : List AppliedModifier) (v : Value) :
    Program.Similar K (Matches Eq) (applyAll ms v) (applyAll ms v) := by
  induction ms generalizing v with
  | nil => exact Action.similar_pure rfl
  | cons m ms ih =>
    refine Action.similar_bind (.ask (.modify m.name v m.args) fun _ _ h => .done h) ?_
    rintro v _ rfl
    exact ih v

/-- Texts are written alike on both sides. -/
theorem Channel.similar_write (K : Kinship) (channel : Channel) (text : String) :
    Program.Similar K (Matches Eq) (channel.write text) (channel.write text) := by
  induction channel generalizing text with
  | nil => exact .ask (.write text) fun _ _ h => .done h
  | cons modifiers outer ih =>
    rw [write_cons]
    refine Action.similar_bind (R := Eq) (.ask .isHalted fun _ _ h => .done (.ok h)) ?_
    rintro halted _ rfl
    split
    · exact .done (.error rfl)
    split
    · exact Action.similar_pure rfl
    · refine Action.similar_bind (similar_applyAll K modifiers (.text text)) ?_
      rintro v _ rfl
      exact ih v.display

end Stencil
