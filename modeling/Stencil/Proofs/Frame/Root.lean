import Stencil.Program.Entries
import Stencil.Proofs.Frame.Reach

/-!
# Stencil.Proofs.Frame.Root — the outermost frame of a chain

Whatever is made of a frame has the same outermost frame: frames are put inside others, and leading
dots stop at the outermost one (`Frame.outermost_reroot`, `Frame.ObtainedFrom.outermost_eq`). So a
path behind `~` finds the same from every frame of a chain, and one behind dots starts a frame
further out for each dot but the first, as far as there are frames (`Frame.lookup_tilde`,
`Frame.lookup_dots`).
-/

namespace Stencil

namespace Frame

/-! ## The outermost frame -/

@[simp] theorem outermost_push (f : Frame) (v : Value) : (f.push v).outermost = f.outermost := rfl

@[simp] theorem outermost_named (f : Frame) (name : String) :
    (f.named name).outermost = f.outermost := rfl

@[simp] theorem outermost_pop (f : Frame) : f.pop.outermost = f.outermost := by
  obtain ⟨data, name, _ | parent⟩ := f <;> rfl

@[simp] theorem outermost_up (f : Frame) (n : Nat) : (f.up n).outermost = f.outermost := by
  induction n generalizing f with
  | zero => rfl
  | succ n ih => exact (ih f.pop).trans f.outermost_pop

@[simp] theorem outermost_outermost (f : Frame) : f.outermost.outermost = f.outermost := by
  induction hdepth : f.depth generalizing f with
  | zero =>
    obtain ⟨data, name, _ | parent⟩ := f
    · rfl
    · cases hdepth
  | succ n ih =>
    obtain ⟨data, name, _ | parent⟩ := f
    · cases hdepth
    · exact ih parent (Nat.succ.inj hdepth)

@[simp] theorem outermost_start (f : Frame) (anchor : Anchor) :
    (f.start anchor).outermost = f.outermost := by
  cases anchor with
  | outermost => exact f.outermost_outermost
  | up hops => exact f.outermost_up hops

/-- The frame that a path leads to is put inside the one where the path starts. -/
@[simp] theorem outermost_get (f : Frame) (path : String) :
    (f.get path).outermost = f.outermost :=
  f.outermost_start (Path.ofString path).anchor

@[simp] theorem outermost_reroot (f : Frame) (site : Site) (context : Option String) :
    (f.reroot site context).outermost = f.outermost := by
  cases context with
  | none => rfl
  | some path =>
    show (((f.start _).push (f.lookup path)).hold site).outermost = _
    rw [hold_push, outermost_push, outermost_start]

/-- Whether a frame has been made of another one by putting frames inside, by going outwards and by
following paths. -/
inductive ObtainedFrom : Frame → Frame → Prop
  | self (f : Frame) : ObtainedFrom f f
  | push {f g : Frame} (h : ObtainedFrom g f) (v : Value) : ObtainedFrom (g.push v) f
  | pop {f g : Frame} (h : ObtainedFrom g f) : ObtainedFrom g.pop f
  | outermost {f g : Frame} (h : ObtainedFrom g f) : ObtainedFrom g.outermost f
  | get {f g : Frame} (h : ObtainedFrom g f) (path : String) : ObtainedFrom (g.get path) f

/-- No way of obtaining a frame from another one leads to a different root. -/
theorem ObtainedFrom.outermost_eq {f g : Frame} (h : g.ObtainedFrom f) :
    g.outermost = f.outermost := by
  induction h with
  | self f => rfl
  | push _ v ih => exact ih
  | pop _ ih => exact (outermost_pop _).trans ih
  | outermost _ ih => exact (outermost_outermost _).trans ih
  | get _ path ih => exact (outermost_get _ path).trans ih

end Frame

@[simp] theorem Pass.outermost_frame (base : Frame) (outer : Site) (p : Pass) :
    (p.frame base outer).outermost = base.outermost := rfl

/-! ## Paths from the outermost frame and from frames further out -/

theorem Path.ofString_tilde (p : String) :
    ofString ("~" ++ p) = ⟨.outermost, keysOf p.toList⟩ := by
  have hchars : ("~" ++ p).toList = '~' :: p.toList := String.toList_append
  rw [ofString, hchars, ofChars]

/-- Behind dots the path starts at the frame itself, and a frame further out for each dot but the
first. -/
theorem Path.ofString_dots {path : String} {n : Nat} (hn : 0 < n) {rest : List Char}
    (hpath : path.toList = List.replicate n '.' ++ rest) (hrest : rest.head? ≠ some '.') :
    ofString path = ⟨.up (n - 1), keysOf rest⟩ := by
  have hdots : path.toList.takeWhile (· == '.') = List.replicate n '.' := by
    have hnone : rest.takeWhile (· == '.') = [] := by
      cases rest with
      | nil => rfl
      | cons c cs =>
        refine List.takeWhile_cons_of_neg fun hc => hrest ?_
        rw [List.head?_cons, beq_iff_eq.1 hc]
    rw [hpath, List.takeWhile_append_of_pos, hnone, List.append_nil]
    exact fun c hc => beq_iff_eq.2 (List.eq_of_mem_replicate hc)
  -- the first dot names the frame itself, so one dot fewer leads out
  have hofChars : ofChars path.toList =
      ⟨.up ((path.toList.takeWhile (· == '.')).length - 1),
        keysOf (path.toList.drop (path.toList.takeWhile (· == '.')).length)⟩ := by
    obtain ⟨m, rfl⟩ := Nat.exists_eq_add_one.2 hn
    rw [hpath, List.replicate_succ, List.cons_append]
    rfl
  rw [ofString, hofChars, hdots, List.length_replicate, hpath,
    List.drop_left' List.length_replicate]

namespace Frame

/-- The frame that is so many frames outwards, if there is one. -/
def ancestor? (f : Frame) : Nat → Option Frame
  | 0 => some f
  | n + 1 => f.parent.bind (·.ancestor? n)

/-- Going outwards stops at the outermost frame. -/
theorem ancestor?_min_depth (f : Frame) (n : Nat) :
    f.ancestor? (min n f.depth) = some (f.up n) := by
  induction n generalizing f with
  | zero =>
    rw [Nat.zero_min]
    rfl
  | succ n ih =>
    obtain ⟨data, name, _ | parent⟩ := f
    · have hstay := ih (mk data name none)
      have hdepth : (mk data name none).depth = 0 := rfl
      rw [hdepth, Nat.min_zero] at hstay ⊢
      exact hstay
    · have hdepth : (mk data name (some parent)).depth = parent.depth + 1 := rfl
      rw [hdepth, Nat.add_min_add_right]
      exact ih parent

/-- What a path with a tilde leads to depends on the root only. -/
theorem lookup_tilde (f : Frame) (p : String) :
    f.lookup ("~" ++ p) = f.outermost.data.follow (Path.keysOf p.toList) := by
  rw [lookup, Path.ofString_tilde]
  rfl

/-- From a frame that is so many frames outwards as there are dots behind the first, or else from
the outermost one. -/
theorem lookup_dots (f : Frame) {path : String} {n : Nat} (hn : 0 < n) {rest : List Char}
    (hpath : path.toList = List.replicate n '.' ++ rest) (hrest : rest.head? ≠ some '.') :
    ∃ g, f.ancestor? (min (n - 1) f.depth) = some g ∧
      f.lookup path = g.data.follow (Path.keysOf rest) ∧ (f.get path).parent = some g := by
  refine ⟨f.up (n - 1), f.ancestor?_min_depth (n - 1), ?_, ?_⟩
  · rw [lookup, Path.ofString_dots hn hpath hrest]
    rfl
  · rw [get, Path.ofString_dots hn hpath hrest]
    rfl

end Frame

end Stencil
