import Stencil.Scope.Basic

/-!
# Stencil.Program.Basic — what a render does

A program is a tree of requests: it is done, or it asks for something and goes on with
the answer. All that a compiled template does to the world outside it is a request, so
what two templates do is compared by comparing their programs.

An action is a program that may fail. The monad laws hold (`pure_bind`, `bind_pure`,
`bind_assoc`), so actions can be rearranged as usual.
-/

namespace Stencil

/-! ## Requests -/

/-- A modifier with its arguments. -/
structure AppliedModifier where
  name : String
  args : List Value

/-- The way a text takes to the sink: the modifiers of the blocks around it, innermost block
first. -/
abbrev Channel := List (List AppliedModifier)

/-- A named fragment, with the frame and the modifiers of its declaration. -/
structure Fragment where
  frame : Frame
  body : Scope
  modifiers : List AppliedModifier

/-- What a custom directive hands to the function it names. -/
structure CustomBlock where
  channel : Channel
  frame : Frame
  /-- The place of the directive. -/
  site : Site
  bodies : List Scope

/-- What a program may ask for. -/
inductive Request where
  /-- Hand a text to the sink. -/
  | write (text : String)
  /-- Whether the render has been stopped. -/
  | isHalted
  /-- Stop the render. -/
  | halt
  /-- Apply a modifier. -/
  | modify (name : String) (v : Value) (args : List Value)
  /-- Keep a fragment under a name. -/
  | declare (name : String) (fragment : Fragment)
  /-- The fragment kept last under a name. -/
  | resolve (name : String)
  /-- The template of that name. -/
  | template (name : String)
  /-- Call a function and wait for its result. -/
  | call (f : Nat) (frame : Frame) (args : List Value)
  /-- Hand a block to a function and wait until it is through. -/
  | custom (f : Nat) (block : CustomBlock)
  /-- Run another scope at a place and wait for its end. -/
  | enter (body : Scope) (channel : Channel) (frame : Frame) (site : Site)

/-- What a request is answered with. -/
def Request.Answer : Request → Type
  | write _ => Except RenderError Unit
  | isHalted => Bool
  | halt => Unit
  | modify .. => Except RenderError Value
  | declare .. => Unit
  | resolve _ => Option Fragment
  | template _ => Except RenderError Scope
  | call .. => Except RenderError Value
  | custom .. => Except RenderError Unit
  | enter .. => Except RenderError Unit

/-! ## Programs -/

/-- A program with a result in `α`. -/
inductive Program (α : Type) : Type where
  | done (a : α)
  | ask (q : Request) (k : q.Answer → Program α)

namespace Program

variable {α β γ : Type}

/-- Goes on with the result. -/
def bind : Program α → (α → Program β) → Program β
  | done a, f => f a
  | ask q k, f => ask q fun a => (k a).bind f

instance : Monad Program where
  pure := done
  bind := bind

@[simp] theorem pure_bind (a : α) (f : α → Program β) : (done a).bind f = f a := rfl

@[simp] theorem ask_bind (q : Request) (k : q.Answer → Program α) (f : α → Program β) :
    (ask q k).bind f = ask q fun a => (k a).bind f := rfl

@[simp] theorem bind_pure (p : Program α) : p.bind done = p := by
  induction p with
  | done a => rfl
  | ask q k ih => simp only [ask_bind, ih]

/-- It does not matter how a sequence of three is put together. -/
theorem bind_assoc (p : Program α) (f : α → Program β) (g : β → Program γ) :
    (p.bind f).bind g = p.bind fun a => (f a).bind g := by
  induction p with
  | done a => rfl
  | ask q k ih => simp only [ask_bind, ih]

end Program

/-- A program that may fail. -/
abbrev Action (α : Type) := ExceptT RenderError Program α

namespace Action

variable {α : Type}

/-- An outcome that needs no request. -/
def ofExcept (r : Except RenderError α) : Action α := Program.done r

/-- Gives the error of an action a place. -/
def locate (position : Option Position) (action : Action α) : Action α :=
  Program.bind action fun r => Program.done (r.mapError (·.locate position))

/-- Whether the render has been stopped. -/
def isHalted : Action Bool := Program.ask .isHalted fun b => Program.done (.ok b)

/-- Stops the render. -/
def halt : Action Unit := Program.ask .halt fun _ => Program.done (.ok ())

/-- Hands a text to the sink. -/
def write (text : String) : Action Unit := Program.ask (.write text) Program.done

/-- Applies a modifier. -/
def modify (m : AppliedModifier) (v : Value) : Action Value :=
  Program.ask (.modify m.name v m.args) Program.done

/-- Keeps a fragment under a name. -/
def declare (name : String) (fragment : Fragment) : Action Unit :=
  Program.ask (.declare name fragment) fun _ => Program.done (.ok ())

/-- The fragment kept last under a name. -/
def resolve (name : String) : Action (Option Fragment) :=
  Program.ask (.resolve name) fun f => Program.done (.ok f)

/-- The template of that name. -/
def template (name : String) : Action Scope := Program.ask (.template name) Program.done

/-- Calls a function and waits for its result. -/
def call (f : Nat) (frame : Frame) (args : List Value) : Action Value :=
  Program.ask (.call f frame args) Program.done

/-- Hands a block to a function. -/
def custom (f : Nat) (block : CustomBlock) : Action Unit :=
  Program.ask (.custom f block) Program.done

/-- Runs another scope at a place. -/
def enter (body : Scope) (channel : Channel) (frame : Frame) (site : Site) : Action Unit :=
  Program.ask (.enter body channel frame site) Program.done

end Action

end Stencil
