import Stencil.Program.Run

/-!
# Stencil.Proofs.Program.Asks — what a program asks for

`Program.Asks Q A` says that all requests of a program are as `Q` says, as long as those before
them are answered as `A` says. It goes through a program from step to step
(`Program.Asks.bind`, `Action.asks_bind`). `Program.Related` says the same of two programs side by
side.

Two things are said of scopes in this way: that a program never waits, and that it hands out only
scopes of some kind, when it is given only such scopes (`Request.Hands`, `Request.Gives`).
-/

namespace Stencil

/-! ## Requests -/

/-- Whether the request has to do neither with scopes nor with functions. -/
def Request.isPlain : Request → Bool
  | .write _ | .isHalted | .halt | .modify .. => true
  | _ => false

/-- Whether all scopes in the request are like this. -/
def Request.Hands (P : Scope → Prop) : Request → Prop
  | .declare _ fragment => P fragment.body
  | .custom _ block => ∀ body ∈ block.bodies, P body
  | .enter body .. => P body
  | _ => True

/-- Whether the scope in an answer, if there is one, is like this. -/
def Request.Gives (P : Scope → Prop) : (q : Request) → q.Answer → Prop
  | .resolve _, found => ∀ fragment : Fragment, found = some fragment → P fragment.body
  | .template _, found => ∀ scope : Scope, found = .ok scope → P scope
  | _, _ => True

theorem Request.hands_of_isPlain (P : Scope → Prop) {q : Request} (h : q.isPlain = true) :
    q.Hands P := by
  cases q with
  | write | isHalted | halt | modify => exact trivial
  | declare | resolve | template | call | custom | enter => cases h

/-- A request that is made twice, and answers to it that are the same. -/
inductive Request.Same (Q : Request → Prop) (A : (q : Request) → q.Answer → Prop) :
    (q q' : Request) → (q.Answer → q'.Answer → Prop) → Prop
  | intro {q : Request} (hq : Q q) : Same Q A q q fun a a' => a = a' ∧ A q a

/-! ## Programs -/

namespace Program

variable {α β : Type}

/-- Whether all requests are like `Q`, as long as the answers are like `A`. -/
def Asks (Q : Request → Prop) (A : (q : Request) → q.Answer → Prop) : Program α → Prop
  | done _ => True
  | ask q k => Q q ∧ ∀ a, A q a → (k a).Asks Q A

theorem Asks.bind {Q : Request → Prop} {A : (q : Request) → q.Answer → Prop} {p : Program α}
    {f : α → Program β} (hp : p.Asks Q A) (hf : ∀ a, (f a).Asks Q A) : (p.bind f).Asks Q A := by
  induction p with
  | done a => exact hf a
  | ask q k ih => exact ⟨hp.1, fun a ha => ih a (hp.2 a ha)⟩

/-- Whether two programs make requests that stand for one another, one by one, and come to related
results. Which answers stand for one another, and are to be gone on with, is said along with the
requests. -/
inductive Related (asks : (q q' : Request) → (q.Answer → q'.Answer → Prop) → Prop) {α β : Type}
    (R : α → β → Prop) : Program α → Program β → Prop
  | done {a : α} {b : β} (h : R a b) : Related asks R (.done a) (.done b)
  | ask {q q' : Request} {A : q.Answer → q'.Answer → Prop} {k : q.Answer → Program α}
      {k' : q'.Answer → Program β} (h : asks q q' A)
      (hk : ∀ a a', A a a' → Related asks R (k a) (k' a')) :
      Related asks R (.ask q k) (.ask q' k')

/-- Sequences of related programs are related. -/
theorem Related.bind {asks : (q q' : Request) → (q.Answer → q'.Answer → Prop) → Prop}
    {α β γ δ : Type} {R : α → β → Prop} {S : γ → δ → Prop} {p : Program α} {p' : Program β}
    (h : Related asks R p p') {f : α → Program γ} {f' : β → Program δ}
    (hf : ∀ a b, R a b → Related asks S (f a) (f' b)) :
    Related asks S (p.bind f) (p'.bind f') := by
  induction h with
  | done h => exact hf _ _ h
  | ask h _ ih => exact .ask h ih

/-- A program that makes such requests does the same as itself. -/
theorem Asks.related {Q : Request → Prop} {A : (q : Request) → q.Answer → Prop} {p : Program α}
    (h : p.Asks Q A) : Related (Request.Same Q A) Eq p p := by
  induction p with
  | done a => exact .done rfl
  | ask q k ih =>
    refine .ask (.intro h.1) ?_
    rintro a _ ⟨rfl, ha⟩
    exact ih a (h.2 a ha)

/-- Programs that make the same requests, whatever the answers, are the same. -/
theorem Related.eq {Q : Request → Prop} {p p' : Program α}
    (h : Related (Request.Same Q fun _ _ => True) Eq p p') : p = p' := by
  induction h with
  | done h => exact congrArg Program.done h
  | @ask q _ _ k k' hq _ ih =>
    obtain ⟨hq⟩ := hq
    exact congrArg (Program.ask q) (funext fun a => ih a a ⟨rfl, trivial⟩)

/-- There is nothing that a program may not ask. -/
theorem asks_true (p : Program α) : p.Asks (fun _ => True) fun _ _ => True := by
  induction p with
  | done a => exact trivial
  | ask q k ih => exact ⟨trivial, fun a _ => ih a⟩

/-- Whether the program hands out only scopes like this, when it is given only such scopes. -/
def Hands (P : Scope → Prop) (p : Program α) : Prop := p.Asks (Request.Hands P) (Request.Gives P)

end Program

/-! ## Actions -/

variable {Q : Request → Prop} {A : (q : Request) → q.Answer → Prop} {α β : Type}

namespace Action

/-- A sequence asks what its parts do, the second of them only if the first succeeds. -/
theorem asks_bind {x : Action α} {f : α → Action β} (hx : Program.Asks Q A x)
    (hf : ∀ a, Program.Asks Q A (f a)) : Program.Asks Q A (x >>= f : Action β) := by
  refine Program.Asks.bind hx fun r => ?_
  cases r with
  | ok a => exact hf a
  | error e => exact trivial

theorem asks_ofExcept (r : Except RenderError α) : Program.Asks Q A (ofExcept r) := trivial

/-- An outcome that needs no request is an error, or a value to go on with. -/
theorem asks_ofExcept_bind {r : Except RenderError α} {f : α → Action β}
    (h : ∀ a, r = .ok a → Program.Asks Q A (f a)) :
    Program.Asks Q A (ofExcept r >>= f : Action β) := by
  cases r with
  | error e => exact trivial
  | ok a => exact h a rfl

theorem asks_locate {x : Action α} (hx : Program.Asks Q A x) (position : Option Position) :
    Program.Asks Q A (x.locate position) :=
  hx.bind fun _ => trivial

end Action

/-! ## Texts and modifiers -/

section Plain

variable (hplain : ∀ q : Request, q.isPlain = true → Q q)
include hplain

/-- Applying modifiers asks plain requests only. -/
theorem Channel.asks_applyAll (ms : List AppliedModifier) (v : Value) :
    Program.Asks Q A (Channel.applyAll ms v) := by
  induction ms generalizing v with
  | nil => exact trivial
  | cons m ms ih => exact Action.asks_bind ⟨hplain _ rfl, fun _ _ => trivial⟩ ih

/-- So does writing, through any number of blocks. -/
theorem Channel.asks_write (channel : Channel) (text : String) :
    Program.Asks Q A (channel.write text) := by
  induction channel generalizing text with
  | nil => exact ⟨hplain _ rfl, fun _ _ => trivial⟩
  | cons modifiers outer ih =>
    -- a block asks whether the render is halted, applies its modifiers, and leaves the rest to
    -- those around it
    rw [write_cons]
    refine Action.asks_bind ⟨hplain _ rfl, fun _ _ => trivial⟩ fun halted => ?_
    split
    · exact trivial
    split
    · exact trivial
    · exact Action.asks_bind (asks_applyAll hplain modifiers (.text text)) fun v => ih v.display

theorem asks_modifyAll [Evaluator] (frame : Frame) (slots : List Value)
    (ms : List PendingModifier) (v : Value) :
    Program.Asks Q A (modifyAll frame slots ms v) := by
  induction ms generalizing v with
  | nil => exact trivial
  | cons m ms ih =>
    refine Action.asks_bind trivial fun m => ?_
    exact Action.asks_bind ⟨hplain _ rfl, fun _ _ => trivial⟩ ih

end Plain

/-- Making calls asks for nothing but the calls. -/
theorem Call.asks_runAll [Evaluator] (hcall : ∀ f frame args, Q (.call f frame args))
    (frame : Frame) (site : Site) (cs : List Call) (slots : List Value) :
    Program.Asks Q A (Call.runAll frame site cs slots) := by
  induction cs generalizing slots with
  | nil => exact trivial
  | cons c cs ih =>
    refine Action.asks_bind (Action.asks_locate ?_ _) fun v => ih _
    unfold Call.run
    dsimp only
    split
    · refine Action.asks_bind (Action.asks_ofExcept _) fun args => ?_
      exact Action.asks_bind ⟨hcall _ _ _, fun _ _ => trivial⟩ fun _ => trivial
    · exact trivial

/-- A directive asks for its calls, and for what its work asks for. -/
theorem Head.asks_directive [Evaluator] (hcall : ∀ f frame args, Q (.call f frame args))
    (frame : Frame) (site : Site) (head : Head) {work : List Value → Action Unit}
    (hwork : ∀ slots, Program.Asks Q A (work slots)) :
    Program.Asks Q A (do
      let slots ← Call.runAll frame site head.calls []
      (work slots).locate head.position : Action Unit) := by
  refine Action.asks_bind (Call.asks_runAll hcall frame site head.calls []) fun slots => ?_
  exact Action.asks_locate (hwork slots) head.position

theorem Channel.hands_write (P : Scope → Prop) (channel : Channel) (text : String) :
    Program.Hands P (channel.write text) :=
  Channel.asks_write (fun _ => Request.hands_of_isPlain P) channel text

end Stencil
