import Stencil.Error.Render
import Stencil.Frame.Basic

/-!
# Stencil.Program.Entries — the passes of an iteration

A sequence makes one pass for each item, keyed by its index; an object one for each
member, in order, keyed by its name; a whole number `n` that is not negative makes `n`
passes with the numbers from zero as keys and values; anything else makes none. Passes
are produced as they are needed, so large counts cost nothing in advance.
-/

namespace Stencil

/-- One pass. -/
structure Pass where
  index : Nat
  key : Value
  value : Value

namespace Pass

/-- A whole number as a value. -/
def number (n : Nat) : Value := .number (.ofNat n)

/-- What the body of the iteration sees: an object of its own. -/
def data (p : Pass) : Value :=
  .object .fresh (.ofList [("index", number p.index), ("key", p.key), ("value", p.value)])

/-- The place of the pass in an iteration. -/
def site (outer : Site) (p : Pass) : Site := .part outer p.index

/-- The frame of the pass. -/
def frame (base : Frame) (outer : Site) (p : Pass) : Frame :=
  (base.push p.data).hold (p.site outer)

end Pass

/-- The passes still to come: listed with their keys, or counted. -/
inductive Entries where
  | listed (index : Nat) (rest : List (Value × Value))
  | counted (index : Nat) (rest : Nat)

namespace Entries

/-- The greatest number that counts passes. -/
def maxCount : Nat := Nat.pow 2 32 - 1

/-- The passes of an iteration over a value. -/
def ofValue : Value → Except RenderError Entries
  | .array _ items => .ok (.listed 0 (items.zipIdx.map fun (v, i) => (Pass.number i, v)))
  | .object _ members => .ok (.listed 0 (members.map fun (key, v) => (.text key, v)))
  | .number x =>
    match Decimal.integer? x with
    | some (.ofNat n) => if n ≤ maxCount then .ok (.counted 0 n) else .error (.iterationLimit x)
    | _ => .ok (.counted 0 0)
  | _ => .ok (.counted 0 0)

/-- How many passes there are. -/
def size : Entries → Nat
  | listed _ rest => rest.length
  | counted _ rest => rest

/-- The next pass, and those behind it. -/
def next? : Entries → Option (Pass × Entries)
  | listed index ((key, v) :: rest) => some (⟨index, key, v⟩, listed (index + 1) rest)
  | counted index (rest + 1) =>
    some (⟨index, Pass.number index, Pass.number index⟩, counted (index + 1) rest)
  | _ => none

/-- With every pass there is one less to come. -/
theorem next?_size {es rest : Entries} {p : Pass} (h : es.next? = some (p, rest)) :
    rest.size + 1 = es.size := by
  unfold next? at h
  split at h
  · cases h; rfl
  · cases h; rfl
  · cases h

/-- The first `n` passes, and whether there are more. -/
def take : Nat → Entries → List Pass × Bool
  | 0, es => ([], es.next?.isSome)
  | n + 1, es =>
    match es.next? with
    | some (p, rest) =>
      let (ps, more) := rest.take n
      (p :: ps, more)
    | none => ([], false)

end Entries

end Stencil
