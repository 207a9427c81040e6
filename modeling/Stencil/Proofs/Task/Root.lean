import Stencil.Proofs.Program.Root
import Stencil.Proofs.Task.Functions
import Stencil.Proofs.Task.Sound

/-!
# Stencil.Proofs.Task.Root — the root frame of a render

A render evaluates expressions, runs bodies and calls functions only in frames that have the root of
the frame it is given, as long as helpers start bodies in frames that they have obtained from the
frames of their blocks (`Host.PassesOn`). This is an invariant of renders (`Invariant.below`): each
step keeps it, also of the bodies that helpers have started, and of the fragments that are declared.
So `~` means the same all through a render, and dots lead outwards as far as that root
(`World.render_keeps_root`).
-/

namespace Stencil

/-! ## Helpers that pass frames on -/

/-- Whether a turn starts bodies only in frames obtained from that of the block, and leaves a helper
that is fit for the block. -/
abbrev Turn.PassesOn {Helper : Type} (Fit : Helper → Frame → Prop) (frame : Frame) :
    Turn Helper → Prop :=
  Turn.Keeps (Fit · frame) (·.ObtainedFrom frame)

/-- Whether helpers start bodies only in frames that they obtain from those of their blocks. Which
helpers are fit for a block with this frame is for the host to say. -/
structure Host.PassesOn (H : Host) (Fit : H.Helper → Frame → Prop) : Prop where
  help {f : Nat} {frame : Frame} {bodies : Nat} {s : H.State} {h : H.Helper} :
    (H.help f frame bodies s).1 = some h → Fit h frame
  turn {h : H.Helper} {frame : Frame} (s : H.State) :
    Fit h frame → (H.turn h s).1.PassesOn Fit frame

/-! ## The state of a render -/

/-- Whether all fragments have been declared in frames with this root. -/
def World.Within {H : Host} (root : Frame) (w : World H) : Prop :=
  ∀ entry ∈ w.fragments, entry.2.frame.outermost = root

/-- A render whose fragments keep their frames at one root is answered with frames at that root. -/
theorem World.Within.answer {H : Host} {root : Frame} {w w' : World H} (hw : w.Within root)
    {q : Request} (hq : q.KeepsTo root) {a : q.Answer}
    (ha : w.answer? q = some (a, w')) : q.Returns root a ∧ w'.Within root := by
  cases q with
  | call | custom | enter => cases ha
  | isHalted | halt | modify | template =>
    cases ha
    exact ⟨trivial, hw⟩
  | write text =>
    have hwrite : w.write text = (a, w') := Option.some.inj ha
    refine ⟨trivial, ?_⟩
    obtain heq | ⟨-, heq⟩ | ⟨-, heq⟩ := w.write_eq text
    -- whether the text is dropped, refused or written, no fragment is changed
    all_goals
      rw [heq] at hwrite
      cases hwrite
      exact hw
  | declare name fragment =>
    cases ha
    refine ⟨trivial, fun entry hentry => ?_⟩
    rcases List.mem_cons.1 hentry with rfl | hentry
    · exact hq _ rfl
    · exact hw entry (List.mem_of_mem_filter hentry)
  | resolve name =>
    cases ha
    exact ⟨fun fragment hfound => hw _ (mem_of_lookup hfound), hw⟩

/-! ## Renders -/

/-- All requests are made with frames with this root, and all scopes are run in such frames. -/
def Invariant.below {H : Host} (Fit : H.Helper → Frame → Prop) (root : Frame) : Invariant H where
  asks := Request.KeepsTo root
  answers := Request.Returns root
  worlds := World.Within root
  scopes _ f := f.outermost = root
  helpers block h := Fit h block.frame
  frames block f := f.ObtainedFrom block.frame

/-- Scopes that are run in such frames ask for such frames, and their programs are the same with
every evaluator that agrees below the root. -/
theorem Invariant.below_lawful {H : Host} {Fit : H.Helper → Frame → Prop} (hH : H.PassesOn Fit)
    {root : Frame} {eval : Formula → Frame → List Value → Except RenderError Value}
    (h : AgreesBelow root eval) : (below Fit root).Lawful eval where
  plain hplain := Request.keepsTo_of_isPlain _ hplain
  unused hq := Request.keepsTo_of_frame? rfl (hq _ rfl)
  answer hw hq ha := hw.answer hq ha
  waited {q} hwaits a := by
    cases q with
    | call | custom | enter => exact trivial
    | write | isHalted | halt | modify | declare | resolve | template => cases hwaits
  host _ hw := hw
  help _ hhelp := hH.help hhelp
  turn s hfit := hH.turn s hfit
  enter hq := hq _ rfl
  body hq _ hf := hf.outermost_eq.trans (hq _ rfl)
  steps {s f steps} channel site i hf _ :=
    ⟨runSteps_agreesBelow h steps channel f site i hf, keepsTo_runSteps steps channel f site i hf⟩

/-- Whether a scope is run from its first step in a frame: the one that is rendered, one that a
request has run, or a body of a block, which its helper may start in any frame that it obtains. -/
inductive Scope.BegunIn (events : List Event) (scope : Scope) (frame : Frame) :
    Scope → Frame → Prop
  | rendered : BegunIn events scope frame scope frame
  | entered {body : Scope} {channel : Channel} {f : Frame} {site : Site}
      (h : .asked (.enter body channel f site) ∈ events) : BegunIn events scope frame body f
  | started {i : Nat} {block : CustomBlock} {body : Scope} {f : Frame}
      (h : .asked (.custom i block) ∈ events) (hbody : body ∈ block.bodies)
      (hf : f.ObtainedFrom block.frame) : BegunIn events scope frame body f

/-- **The root frame is the same all through a render.** When helpers start bodies only in frames
obtained from those of their blocks, a render with any host, templates and modifiers, as far as it
has come, evaluates expressions only in frames whose root is that of its own frame: what an
evaluator does with others makes no difference to what is seen and what comes of it. All functions
that are called, blocks that are handed out, scopes that are run and fragments that are declared
have such frames, and so have all steps that are run, and the directives in them. In all of these
frames `~` leads to the same, and `n` dots lead to the frame that is `n - 1` frames further out, or
to the root if there are not so many. -/
theorem World.render_keeps_root {H : Host} {Fit : H.Helper → Frame → Prop} (hH : H.PassesOn Fit)
    (host : H.State) (catalog : Catalog) (modifiers : Modifiers) (debug : Bool) (fuel : Nat)
    (deadline : Option Deadline) (scope : Scope) (frame : Frame) :
    let w : World H := World.start host catalog modifiers debug
    let events := (w.watch fuel deadline scope frame).events
    (∀ eval, AgreesBelow frame.outermost eval →
      @World.watch H ⟨eval⟩ fuel deadline scope frame w = w.watch fuel deadline scope frame) ∧
    (∀ q, .asked q ∈ events → ∀ g, q.frame? = some g → g.outermost = frame.outermost) ∧
    (∀ s f, Scope.BegunIn events scope frame s f → f.outermost = frame.outermost ∧
      ∀ (site : Site) (i : Nat) step, s.steps[i]? = some step →
        ∀ f' site' step', step.Executes f (.step site i) f' site' step' →
          ∀ context, (f'.reroot site' context).outermost = frame.outermost) ∧
    ∀ g : Frame, g.outermost = frame.outermost →
      (∀ p, g.lookup ("~" ++ p) = frame.outermost.data.follow (Path.keysOf p.toList)) ∧
      ∀ (path : String) (n : Nat) (rest : List Char), 0 < n →
        path.toList = List.replicate n '.' ++ rest → rest.head? ≠ some '.' →
          ∃ start, g.ancestor? (min (n - 1) g.depth) = some start ∧
            g.lookup path = start.data.follow (Path.keysOf rest) ∧
            (g.get path).parent = some start := by
  intro w events
  -- nothing has been declared when the render begins
  have hw : w.Within frame.outermost := fun _ hentry => (nomatch hentry)
  have hself : AgreesBelow frame.outermost Formula.eval := fun _ _ _ _ => rfl
  have hasked : ∀ q, .asked q ∈ events → q.KeepsTo frame.outermost :=
    ((Invariant.below_lawful hH hself).within_watch fuel deadline (s := scope) rfl hw).asked
  refine ⟨fun eval heval => ?_, hasked, fun s f hbegun => ?_, fun g hg => ⟨fun p => ?_, ?_⟩⟩
  · exact ((Invariant.below_lawful hH heval).within_watch fuel deadline (s := scope) rfl hw).eq
  · have hf : f.outermost = frame.outermost := by
      cases hbegun with
      | rendered => rfl
      | entered h => exact hasked _ h _ rfl
      | started h _ hf => exact hf.outermost_eq.trans (hasked _ h _ rfl)
    refine ⟨hf, fun site i step _ f' site' step' hexecutes context => ?_⟩
    rw [Frame.outermost_reroot, hexecutes.outermost_eq, hf]
  · rw [g.lookup_tilde, hg]
  · exact fun path n rest hn hpath hrest => g.lookup_dots hn hpath hrest

/-! ## A body in a frame of its own -/

/-- Functions that give nothing, and helpers that drive a body in a frame of the user. -/
@[reducible] def Functions.greeting : Functions :=
  { Functions.driving with
    help := fun _ frame _ => some (some ((frame.get "user").push (.text "hi"))) }

/-- The functions of the example pass frames on: one it was given, with a value looked up in it
above that of the block. -/
theorem Functions.passesOn_greeting :
    Functions.greeting.host.PassesOn fun h frame => ∀ g, h = some g → g.ObtainedFrom frame where
  help {f frame bodies s h} hh g hg := by
    cases hh
    cases hg
    exact (Frame.ObtainedFrom.self frame).get "user" |>.push (.text "hi")
  turn {h frame} s hfit := by
    have hpoll : ∀ child, (Turn.poll child Turn.driving.proceed).PassesOn
        (fun h frame => ∀ g, h = some g → g.ObtainedFrom frame) frame := by
      intro child r
      cases r with
      | none => exact fun g hg => (nomatch hg)
      | some o => exact trivial
    cases h with
    | none => exact hpoll 0
    | some g => exact ⟨hfit g rfl, hpoll⟩

/-- A block whose body writes the name of the page, that of the user, and that of the page again. -/
def Scope.threeNames : Scope :=
  .mk [.custom ⟨none, [], [], none⟩ "h" [.mk [.output ⟨none, [], [], none⟩ [.lookup "~name"],
    .output ⟨none, [], [], none⟩ [.lookup "..name"],
    .output ⟨none, [], [], none⟩ [.lookup "....name"]]]]

/-- The body runs two frames inside that of the page, which four dots would lead beyond. -/
theorem World.render_keeps_root_threeNames :
    let user : Value := .object (.given 1) (.ofList [("name", .text "user")])
    let frame := Frame.ofData
      (.object (.given 0) (.ofList [("h", .function 1), ("name", .text "page"), ("user", user)]))
    let w : World Functions.greeting.host := .start [] .empty .builtin false
    (w.render 20 none .threeNames frame).map (·.2.host) = some ["page", "user", "page"] ∧
      ∀ q, .asked q ∈ (w.watch 20 none .threeNames frame).events →
        ∀ g, q.frame? = some g → g.outermost = frame := by
  intro user frame w
  refine ⟨rfl, ?_⟩
  exact (World.render_keeps_root Functions.passesOn_greeting [] .empty .builtin false 20 none
    .threeNames frame).2.1

end Stencil
