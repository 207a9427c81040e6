import Stencil.Frame.Basic

/-!
# Stencil.Proofs.Frame.Reach — how far out paths lead

A path starts at the outermost frame, or so many frames outwards. What is rendered may be known to
look no further out than some of them (`Reach`), and then it is the same to it whether frames
further out are repeated, or what the templates are named (`Frame.Repeats`). All that is done with
frames keeps this (`Frame.Kinship`).
-/

namespace Stencil

/-- The frames at which paths may start, besides the outermost: all of them, or those up to so many
frames outwards. -/
inductive Reach where
  | all
  | hops (n : Nat)

namespace Reach

/-- Whether a path may start there. -/
def Covers : Reach → Anchor → Prop
  | hops n, .up m => m ≤ n
  | _, _ => True

/-- The reach from a frame that is put inside. -/
def inner : Reach → Reach
  | all => all
  | hops n => hops (n + 1)

/-- The reach from the frame at which a path starts. -/
def shifted : Reach → Anchor → Reach
  | hops n, .up m => hops (n - m)
  | _, _ => all

/-- The reach from the frame that a directive with this context sees. -/
def reroot (r : Reach) : Option String → Reach
  | none => r
  | some path => (r.shifted (Path.ofString path).anchor).inner

/-- Whether a context starts within reach. -/
def CoversContext (r : Reach) : Option String → Prop
  | none => True
  | some path => r.Covers (Path.ofString path).anchor

/-- Whether what is within one reach is within another one. -/
def Within : Reach → Reach → Prop
  | _, all => True
  | hops m, hops n => m ≤ n
  | all, hops _ => False

theorem Within.refl (r : Reach) : r.Within r := by
  cases r with
  | all => trivial
  | hops n => exact Nat.le_refl n

/-- What is within a reach is within all those that it is in. -/
theorem Within.trans {r s t : Reach} (h : r.Within s) (h' : s.Within t) : r.Within t := by
  match r, s, t, h, h' with
  | _, _, all, _, _ => exact trivial
  | hops _, hops _, hops _, h, h' => exact Nat.le_trans h h'

/-- A frame that is put inside reaches one step further. -/
theorem within_inner (r : Reach) : r.Within r.inner := by
  cases r with
  | all => trivial
  | hops n => exact Nat.le_succ n

/-- If one frame further in the one is within the other, it is here. -/
theorem Within.of_inner {r s : Reach} (h : r.inner.Within s.inner) : r.Within s := by
  match r, s, h with
  | _, all, _ => exact trivial
  | hops _, hops _, h => exact Nat.le_of_succ_le_succ h

theorem eq_of_within_zero {r : Reach} (h : r.Within (.hops 0)) : r = .hops 0 := by
  match r, h with
  | hops _, h => exact congrArg hops (Nat.le_zero.1 h)

/-- Where a path may start further out, there is a frame around this one within reach. -/
theorem exists_inner {r : Reach} {k : Nat} (h : r.Covers (.up (k + 1))) :
    ∃ q : Reach, r = q.inner ∧ q.Covers (.up k) ∧ r.shifted (.up (k + 1)) = q.shifted (.up k) := by
  cases r with
  | all => exact ⟨.all, rfl, trivial, rfl⟩
  | hops n =>
    cases n with
    | zero => cases h
    | succ n =>
      have hshifted := congrArg hops (Nat.add_sub_add_right n 1 k)
      exact ⟨.hops n, rfl, Nat.le_of_succ_le_succ h, hshifted⟩

/-- From a frame further in, one may always lead out to this one. -/
theorem inner_ne_hops_zero (r : Reach) : r.inner ≠ .hops 0 := by
  rintro h
  cases r <;> cases h

/-- Without a limit, every path may be followed. -/
theorem covers_all (anchor : Anchor) : all.Covers anchor := trivial

/-- Without a limit, there is none in any context. -/
theorem reroot_all (context : Option String) : all.reroot context = all := by
  cases context <;> rfl

end Reach

/-! ## Frames that stand for one another -/

/-- Whether frames related within some reach show the same data there, and all that is done with
frames keeps them related. -/
structure Frame.Kinship (F : Reach → Frame → Frame → Prop) : Prop where
  data {r : Reach} {f f' : Frame} : F r f f' → f.data = f'.data
  start {r : Reach} {f f' : Frame} {anchor : Anchor} : r.Covers anchor → F r f f' →
    F (r.shifted anchor) (f.start anchor) (f'.start anchor)
  push {r : Reach} {f f' : Frame} (v : Value) : F r f f' → F r.inner (f.push v) (f'.push v)
  named {r : Reach} {f f' : Frame} (name : String) :
    F r f f' → F r.inner (f.named name) (f'.named name)

namespace Frame

/-- A frame that is put inside another one is known by the place at which it is made. -/
theorem hold_push (f : Frame) (v : Value) (site : Site) :
    (f.push v).hold site = f.push (v.heldAt site) := rfl

section Kinship

variable {F : Reach → Frame → Frame → Prop} (hF : Kinship F) {r : Reach} {f f' : Frame}
include hF

/-- Paths within reach lead to the same value. -/
theorem Kinship.lookup (h : F r f f') {path : String}
    (hpath : r.Covers (Path.ofString path).anchor) : f.lookup path = f'.lookup path := by
  unfold Frame.lookup
  dsimp only
  rw [hF.data (hF.start hpath h)]

/-- Contexts within reach lead to frames that are akin. -/
theorem Kinship.reroot (h : F r f f') {context : Option String} (hcontext : r.CoversContext context)
    (site : Site) : F (r.reroot context) (f.reroot site context) (f'.reroot site context) := by
  cases context with
  | none => exact h
  | some path =>
    show F _ (((f.start _).push (f.lookup path)).hold site)
      (((f'.start _).push (f'.lookup path)).hold site)
    rw [hF.lookup h hcontext, hold_push, hold_push]
    exact hF.push _ (hF.start hcontext h)

end Kinship

/-- Equal frames stand for one another, whatever the reach. -/
theorem kinship_eq : Kinship fun _ => Eq where
  data h := h ▸ rfl
  start _ h := h ▸ rfl
  push _ h := h ▸ rfl
  named _ h := h ▸ rfl

/-! ## Frames that are repeated -/

/-- Whether a frame is another one with some frames of its chain repeated, none of them within
reach, and perhaps with other names of templates. A template that is included sees such a frame:
what it is given, and that again behind it. Frames that stand for one another within some reach do
so within any that is smaller (`Repeats.mono`). -/
inductive Repeats : Reach → Frame → Frame → Prop
  | outermost (r : Reach) (data : Value) (name name' : Option String) :
      Repeats r (mk data name none) (mk data name' none)
  | inside {q r : Reach} {f f' : Frame} (data : Value) (name name' : Option String)
      (h : Repeats r f f') (hq : q.Within r.inner) :
      Repeats q (mk data name (some f)) (mk data name' (some f'))
  | again {r : Reach} {f f' : Frame} (name : Option String) (h : Repeats r f f') :
      Repeats (.hops 0) (mk f.data name (some f)) f'

namespace Repeats

variable {r : Reach} {f f' : Frame}

/-- A frame repeats nothing. -/
theorem refl (f : Frame) : Repeats .all f f := by
  -- frames are nested in a record, so the induction is on how deep they are
  induction hdepth : f.depth generalizing f with
  | zero =>
    obtain ⟨data, name, _ | parent⟩ := f
    · exact .outermost .all data name name
    · cases hdepth
  | succ n ih =>
    obtain ⟨data, name, _ | parent⟩ := f
    · cases hdepth
    · exact .inside data name name (ih parent (Nat.succ.inj hdepth)) trivial

/-- Frames with the same values in a wide reach have them in a narrow one. -/
theorem mono {q : Reach} (h : Repeats r f f') (hq : q.Within r) : Repeats q f f' := by
  cases h with
  | outermost _ data name name' => exact .outermost q data name name'
  | inside data name name' h hr => exact .inside data name name' h (hq.trans hr)
  | again name h =>
    cases Reach.eq_of_within_zero hq
    exact .again name h

theorem data_eq (h : Repeats r f f') : f.data = f'.data := by
  induction h with
  | outermost => rfl
  | inside => rfl
  | again _ _ ih => exact ih

/-- The outermost frame is the same, be it repeated or not. -/
theorem outermost_all (h : Repeats r f f') : Repeats .all f.outermost f'.outermost := by
  induction h with
  | outermost _ data name name' => exact .outermost .all data name name'
  | inside _ _ _ _ _ ih => exact ih
  | again _ _ ih => exact ih

/-- A frame that is within reach is not repeated, so the frames around it correspond. -/
theorem pop (h : Repeats r.inner f f') : Repeats r f.pop f'.pop := by
  generalize hq : r.inner = q at h
  cases h with
  | outermost _ data name name' => exact .outermost r data name name'
  | inside data name name' h hr =>
    rw [← hq] at hr
    exact h.mono hr.of_inner
  | again => exact absurd hq r.inner_ne_hops_zero

/-- Frames further out that are within reach are akin. -/
theorem up (k : Nat) (hk : r.Covers (.up k)) (h : Repeats r f f') :
    Repeats (r.shifted (.up k)) (f.up k) (f'.up k) := by
  -- each hop uses up one frame of the reach
  induction k generalizing r f f' with
  | zero =>
    cases r with
    | all => exact h
    | hops n => exact h
  | succ k ih =>
    obtain ⟨q, rfl, hcovers, hshifted⟩ := Reach.exists_inner hk
    rw [hshifted]
    exact ih hcovers h.pop

end Repeats

/-- Whatever leads no further out than its reach cannot tell whether frames are repeated there. -/
theorem kinship_repeats : Kinship Repeats where
  data h := h.data_eq
  start {r f f' anchor} hcovers h := by
    cases anchor with
    | outermost =>
      cases r with
      | all => exact h.outermost_all
      | hops n => exact h.outermost_all
    | up k => exact h.up k hcovers
  push {r f f'} v h := .inside v f.name f'.name h (.refl _)
  named {r f f'} name h := by
    show Repeats r.inner (mk f.data (some name) (some f)) (mk f'.data (some name) (some f'))
    rw [h.data_eq]
    exact .inside f'.data (some name) (some name) h (.refl _)

/-- Who puts a frame of their own inside one that they are given does not see that it is
repeated. -/
theorem Repeats.push {r : Reach} {f f' : Frame} (h : Repeats r f f') (v : Value) :
    Repeats r (f.push v) (f'.push v) :=
  (kinship_repeats.push v h).mono r.within_inner

end Frame

end Stencil
