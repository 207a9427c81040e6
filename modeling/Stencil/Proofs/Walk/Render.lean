import Stencil.Environment.Basic
import Stencil.Proofs.Task.Start
import Stencil.Proofs.Walk.Build

/-!
# Stencil.Proofs.Walk.Render — rendering is walking

Whatever a host does, rendering a compiled template comes to the same as walking through its
blocks (`Scope.compile_walks`): the same requests are made in the same order, in the same frames,
up to the same first error. So it cannot be seen from outside that a scope is cut into a front
and a chain, that calls are taken out of expressions, or when they are made.
-/

namespace Stencil

/-! ## Bodies -/

/-- Whether `body` is a body of a block in these nodes, at any depth. -/
inductive Node.Inside : List Node → List Node → Prop
  | first {s : Segment} {body : List Node} {more : List Branch} {nodes : List Node} :
      Node.block s body more ∈ nodes → Inside body nodes
  | later {s : Segment} {body : List Node} {more : List Branch} {b : Branch}
      {nodes : List Node} : Node.block s body more ∈ nodes → b ∈ more → Inside b.body nodes
  | deeper {body middle nodes : List Node} : Inside body middle → Inside middle nodes →
      Inside body nodes

namespace Scope

variable {debug : Bool}

/-- The bodies of branches that compile do. -/
theorem exists_of_buildAlternatives {more : List Branch} {others : List Alternative}
    (h : buildAlternatives debug more = .ok others) {b : Branch} (hb : b ∈ more) :
    ∃ steps, buildNodes debug b.body = .ok steps := by
  induction more generalizing others with
  | nil => cases hb
  | cons c more ih =>
    obtain ⟨s, body⟩ := c
    rw [buildAlternatives] at h
    obtain ⟨test, ht, h⟩ := Except.bind_eq_ok_iff.1 h
    obtain ⟨steps, hbody, h⟩ := Except.bind_eq_ok_iff.1 h
    obtain ⟨rest, hrest, -⟩ := Except.bind_eq_ok_iff.1 h
    cases hb with
    | head => exact ⟨steps, hbody⟩
    | tail _ hb => exact ih hrest hb

/-- So do those of continuations. -/
theorem exists_of_buildContinuations {more : List Branch} {bodies : List Scope}
    (h : buildContinuations debug more = .ok bodies) {b : Branch} (hb : b ∈ more) :
    ∃ steps, buildNodes debug b.body = .ok steps := by
  induction more generalizing bodies with
  | nil => cases hb
  | cons c more ih =>
    obtain ⟨s, body⟩ := c
    rw [buildContinuations] at h
    split at h
    · cases h
    obtain ⟨steps, hbody, h⟩ := Except.bind_eq_ok_iff.1 h
    obtain ⟨rest, hrest, -⟩ := Except.bind_eq_ok_iff.1 h
    cases hb with
    | head => exact ⟨steps, hbody⟩
    | tail _ hb => exact ih hrest hb

/-- A block that must be single has no branches. -/
theorem eq_nil_of_requireSingle {s : Segment} {more : List Branch} {u : Unit}
    (h : requireSingle debug s more = .ok u) : more = [] := by
  cases more with
  | nil => rfl
  | cons extra more => cases h

/-- A block is built only if all its bodies are. -/
theorem exists_of_buildNode {s : Segment} {body : List Node} {more : List Branch} {step : Step}
    (h : buildNode debug (.block s body more) = .ok step) :
    (∃ steps, buildNodes debug body = .ok steps) ∧
      ∀ b ∈ more, ∃ steps, buildNodes debug b.body = .ok steps := by
  rw [buildNode] at h
  split at h
  · split at h
    · cases h
    obtain ⟨test, ht, h⟩ := Except.bind_eq_ok_iff.1 h
    obtain ⟨steps, hbody, h⟩ := Except.bind_eq_ok_iff.1 h
    obtain ⟨others, hmore, -⟩ := Except.bind_eq_ok_iff.1 h
    exact ⟨⟨steps, hbody⟩, fun b hb => exists_of_buildAlternatives hmore hb⟩
  · obtain ⟨u, hsingle, h⟩ := Except.bind_eq_ok_iff.1 h
    obtain ⟨e, he, h⟩ := Except.bind_eq_ok_iff.1 h
    obtain ⟨steps, hbody, -⟩ := Except.bind_eq_ok_iff.1 h
    -- an iteration has but the one body
    rw [eq_nil_of_requireSingle hsingle]
    exact ⟨⟨steps, hbody⟩, fun b hb => absurd hb List.not_mem_nil⟩
  · obtain ⟨p, hp, h⟩ := Except.bind_eq_ok_iff.1 h
    obtain ⟨steps, hbody, h⟩ := Except.bind_eq_ok_iff.1 h
    obtain ⟨others, hmore, -⟩ := Except.bind_eq_ok_iff.1 h
    exact ⟨⟨steps, hbody⟩, fun b hb => exists_of_buildContinuations hmore hb⟩
  · obtain ⟨u, hsingle, h⟩ := Except.bind_eq_ok_iff.1 h
    obtain ⟨n, hn, h⟩ := Except.bind_eq_ok_iff.1 h
    obtain ⟨steps, hbody, -⟩ := Except.bind_eq_ok_iff.1 h
    rw [eq_nil_of_requireSingle hsingle]
    exact ⟨⟨steps, hbody⟩, fun b hb => absurd hb List.not_mem_nil⟩
  · cases h

/-- Each of some nodes that compile compiles. -/
theorem exists_of_mem_buildNodes {nodes : List Node} {steps : List Step}
    (h : buildNodes debug nodes = .ok steps) {n : Node} (hn : n ∈ nodes) :
    ∃ step, buildNode debug n = .ok step := by
  induction nodes generalizing steps with
  | nil => cases hn
  | cons m nodes ih =>
    rw [buildNodes] at h
    obtain ⟨step, hstep, h⟩ := Except.bind_eq_ok_iff.1 h
    obtain ⟨rest, hrest, -⟩ := Except.bind_eq_ok_iff.1 h
    cases hn with
    | head => exact ⟨step, hstep⟩
    | tail _ hn => exact ih hrest hn

/-- Nodes are built only if all bodies inside them are. -/
theorem exists_of_inside {body nodes : List Node} (hin : Node.Inside body nodes)
    {steps : List Step} (h : buildNodes debug nodes = .ok steps) :
    ∃ steps, buildNodes debug body = .ok steps := by
  induction hin generalizing steps with
  | first hmem =>
    obtain ⟨step, hstep⟩ := exists_of_mem_buildNodes h hmem
    exact (exists_of_buildNode hstep).1
  | later hmem hb =>
    obtain ⟨step, hstep⟩ := exists_of_mem_buildNodes h hmem
    exact (exists_of_buildNode hstep).2 _ hb
  | deeper _ _ ih₁ ih₂ =>
    obtain ⟨steps, hmiddle⟩ := ih₂ h
    exact ih₁ hmiddle

end Scope

/-! ## Rendering -/

/-- Walks through nodes to their end, in at most `fuel` steps, and sees that what was written
arrives. -/
def World.walk {H : Host} (fuel : Nat) (deadline : Option Deadline) (debug : Bool)
    (nodes : List Node) (frame : Frame) (w : World H) : Option (Outcome × World H) := do
  let walk := Walk.nodes debug [] frame (.start 0) 0 "" nodes
  let (outcome, w) ← Task.run deadline fuel (.running walk []) w
  match outcome with
  | .ok () => return w.flush
  | .error e => return (.error e, w)

/-- Whether the scope does what walking through the nodes does: as a program, and when it is
started in any world and driven to its end. -/
structure Scope.Walks (debug : Bool) (scope : Scope) (nodes : List Node) : Prop where
  run_eq : ∀ channel frame site,
    scope.run channel frame site = Walk.nodes debug channel frame site 0 "" nodes
  start_ends : ∀ (H : Host) (w : World H) channel frame site,
    ∃ t w', Task.start scope channel frame site w = some (t, w') ∧
      ∀ deadline r, Task.Ends deadline t w' r ↔
        Task.Ends deadline (.running (Walk.nodes debug channel frame site 0 "" nodes) []) w r

/-- A program walks the nodes it was compiled from. -/
theorem Scope.walks_of_buildNodes {debug : Bool} {nodes : List Node} {steps : List Step}
    (h : buildNodes debug nodes = .ok steps) : Scope.Walks debug (.mk steps) nodes := by
  have hrun : ∀ channel frame site,
      Scope.run channel frame site (.mk steps) =
        Walk.nodes debug channel frame site 0 "" nodes := by
    intro channel frame site
    rw [Scope.run_mk, ← Walk.runSteps_of_buildNodes debug nodes h channel frame site 0 "",
      Walk.consStep_empty]
  refine ⟨hrun, fun H w channel frame site => ?_⟩
  rw [← hrun]
  exact Task.start_spec (.mk steps) channel frame site w

/-- What is done with what a task comes to, however many steps it takes. -/
theorem Task.exists_run_bind_iff {H : Host} {α : Type} (deadline : Option Deadline) (t : Task H)
    (w : World H) (g : Outcome × World H → Option α) (r : α) :
    (∃ fuel, (Task.run deadline fuel t w >>= g) = some r) ↔
      ∃ x, Task.Ends deadline t w x ∧ g x = some r := by
  constructor
  · rintro ⟨fuel, h⟩
    obtain ⟨x, hx, hg⟩ := Option.bind_eq_some_iff.1 h
    exact ⟨x, ⟨fuel, hx⟩, hg⟩
  · rintro ⟨x, ⟨fuel, hx⟩, hg⟩
    exact ⟨fuel, Option.bind_eq_some_iff.2 ⟨x, hx, hg⟩⟩

/-- A compiled template does what walking through its blocks does, and so does each of its
bodies, in the form in which the walk hands it out. Rendered in any world, the template leaves
what the walk leaves. -/
theorem Scope.compile_walks (debug : Bool) (segments : List Segment) (scope : Scope)
    (h : Scope.compile debug segments = .ok scope) :
    ∃ nodes, Node.scan debug segments = .ok nodes ∧ scope.Walks debug nodes ∧
      (∀ body, Node.Inside body nodes → (Walk.ready debug body).Walks debug body) ∧
      ∀ (H : Host) (w : World H) deadline frame r,
        (∃ fuel, w.render fuel deadline scope frame = some r) ↔
          ∃ fuel, w.walk fuel deadline debug nodes frame = some r := by
  obtain ⟨nodes, hscan, h⟩ := Except.bind_eq_ok_iff.1 h
  obtain ⟨steps, hbuild, h⟩ := Except.bind_eq_ok_iff.1 h
  cases h
  have hwalks := walks_of_buildNodes hbuild
  refine ⟨nodes, hscan, hwalks, ?_, ?_⟩
  · intro body hin
    obtain ⟨steps', hbody⟩ := exists_of_inside hin hbuild
    rw [Walk.ready, hbody]
    exact walks_of_buildNodes hbody
  · intro H w deadline frame r
    obtain ⟨t, w', hstart, hends⟩ := hwalks.start_ends H w [] frame (.start 0)
    unfold World.render World.walk
    rw [hstart]
    refine (Task.exists_run_bind_iff deadline _ _ _ _).trans ?_
    refine Iff.trans ?_ (Task.exists_run_bind_iff deadline _ _ _ _).symm
    constructor
    · -- the two are the same task from their start on, with enough fuel
      rintro ⟨x, hx, hr⟩
      exact ⟨x, (hends deadline x).1 hx, hr⟩
    · rintro ⟨x, hx, hr⟩
      exact ⟨x, (hends deadline x).2 hx, hr⟩

/-! ## Neighbouring texts -/

/-- A host without functions that keeps what is written, text by text. -/
def Host.recorder : Host where
  State := List String
  Pending := Empty
  Helper := Empty
  write text written := (.ok (), written ++ [text])
  flush written := (.ok (), written)
  call _ _ _ written := (.ready (.ok .undefined), written)
  poll d _ := nomatch d
  help _ _ _ written := (none, written)
  turn h _ := nomatch h

namespace Segment

/-- A segment with a text. -/
def ofString (text : String) : Segment :=
  ⟨.text, .start, some text, none, none, [], false, false⟩

/-- The lines that a conditional on `x` sends two neighbouring texts through. -/
def twoTexts : List Segment :=
  [⟨.conditional, .start, none, none, some [.path "x"], [⟨"nl", []⟩], false, false⟩,
    ofString "a", ofString "b",
    ⟨.conditional, .start, none, none, none, [], true, false⟩]

end Segment

/-- What `Segment.twoTexts` compiles to. -/
def Scope.twoTexts : Scope :=
  .mk [.choice [.mk ⟨none, [], [⟨"nl", []⟩], none⟩ (some ⟨[], [.lookup "x"]⟩) (.mk [.text "ab"])]]

/-- Two texts, which are walked one by one and written as one. -/
theorem Scope.compile_walks_twoTexts :
    Scope.compile false Segment.twoTexts = .ok .twoTexts ∧
      ∃ nodes, Node.scan false Segment.twoTexts = .ok nodes ∧ Scope.twoTexts.Walks false nodes ∧
        (∀ body, Node.Inside body nodes → (Walk.ready false body).Walks false body) ∧
        ∀ (H : Host) (w : World H) deadline frame r,
          (∃ fuel, w.render fuel deadline .twoTexts frame = some r) ↔
            ∃ fuel, w.walk fuel deadline false nodes frame = some r :=
  ⟨by cbv, Scope.compile_walks false Segment.twoTexts .twoTexts (by cbv)⟩

/-- Neighbouring texts are written in one piece, which the modifiers of a block around them can
tell from writing them one after the other. -/
theorem Scope.neighbouring_texts_written_together :
    Scope.compile false Segment.twoTexts = .ok .twoTexts ∧
      ((World.start (H := Host.recorder) [] .empty .builtin false).render 20 none .twoTexts
        (.ofData (.object (.given 0) (.ofList [("x", .bool true)])))).map (·.2.host) =
      some ["ab\n"] ∧
      (Task.run none 20 (.running (do
          let channel := [[⟨"nl", []⟩]]
          Walk.node false channel (.ofData .null) (.start 0) (.text (.ofString "a"))
          Walk.node false channel (.ofData .null) (.start 0) (.text (.ofString "b"))) [])
        (World.start (H := Host.recorder) [] .empty .builtin false)).map (·.2.host) =
          some ["a\n", "b\n"] :=
  ⟨by cbv, rfl, rfl⟩

end Stencil
