import Stencil.Proofs.Task.Trace

/-!
# Stencil.Proofs.Task.Functions — functions without a memory

Functions and helpers that depend on nothing but what they are given make up a host together with
a sink that takes every text and stores it (`Functions.host`). The state of the host is what has
been written.
-/

namespace Stencil

/-- Functions and helpers that know nothing but what they are given. -/
structure Functions where
  Pending : Type
  Helper : Type
  /-- Calls a function. -/
  call : Nat → Frame → List Value → Progressed Pending
  /-- Polls a result. -/
  poll : Pending → Progressed Pending
  /-- Hands a block with so many bodies to a function. -/
  help : Nat → Frame → Nat → Option Helper
  /-- Gives a helper its turn. -/
  turn : Helper → Turn Helper

namespace Functions

variable (F : Functions)

/-- The host of these functions. -/
@[reducible] def host : Host where
  State := List String
  Pending := F.Pending
  Helper := F.Helper
  write text texts := (.ok (), texts ++ [text])
  flush texts := (.ok (), texts)
  call f frame args texts := (F.call f frame args, texts)
  poll d texts := (F.poll d, texts)
  help f frame bodies texts := (F.help f frame bodies, texts)
  turn h texts := (F.turn h, texts)

/-- A host of functions that are not told about the sink stores what is written. -/
theorem stores_host : F.host.Stores id where
  write _ _ := rfl
  flush _ := rfl
  call _ _ _ _ := rfl
  poll _ _ := rfl
  help _ _ _ _ := rfl
  turn _ _ := rfl

end Functions

/-! ## Helpers that drive a body -/

/-- A helper that polls its first body until it is through, starting it before if it has not yet. -/
def Turn.driving : Option Frame → Turn (Option Frame)
  | some frame => .start 0 frame fun child => .poll child proceed
  | none => .poll 0 proceed
where
  /-- What the helper does when it has polled the body. -/
  proceed : Option Outcome → Turn (Option Frame)
    | some r => .finish r
    | none => .wait true none

/-- Functions that give nothing, and helpers that drive a body. -/
@[reducible] def Functions.driving : Functions where
  Pending := Empty
  Helper := Option Frame
  call _ _ _ := .ready (.ok .undefined)
  poll d := nomatch d
  help _ frame _ := some (some frame)
  turn := Turn.driving

end Stencil
