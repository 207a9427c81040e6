import Stencil.Proofs.Program.Asks
import Stencil.Proofs.Program.Run

/-!
# Stencil.Proofs.Program.Directives — which directives declare and render fragments

A scope runs its steps, and these the steps in the branches and passes that they come to, each in
a frame of its own (`Step.Executes`). When the program of the scope asks for a fragment to be kept,
a declaration that is executed has it do so, with its own body and the frame that it sees, and
when it asks for the fragment of a name, a named render does (`Scope.asks_directives`). Nothing
else in a scope has to do with fragments.
-/

namespace Stencil

/-! ## Passes -/

/-- Whether the pass is among those that are made. -/
inductive Entries.Makes : Entries → Pass → Prop
  | first {es rest : Entries} {p : Pass} (h : es.next? = some (p, rest)) : Makes es p
  | later {es rest : Entries} {p p' : Pass} (h : es.next? = some (p, rest))
      (hrest : Makes rest p') : Makes es p'

/-- An iteration asks what its body does, in each of its passes. -/
theorem asks_runEntries {Q : Request → Prop} {A : (q : Request) → q.Answer → Prop}
    {body : Frame → Site → Action Unit} (base : Frame) (site : Site) (es : Entries)
    (hbody : ∀ p, es.Makes p → Program.Asks Q A (body (p.frame base site) (p.site site))) :
    Program.Asks Q A (runEntries body base site es) := by
  fun_induction runEntries body base site es with
  | case1 => exact trivial
  | case2 es p rest h ih =>
    refine Action.asks_bind (hbody p (.first h)) fun _ => ih fun p' hp' => ?_
    exact hbody p' (.later h hp')

/-! ## Steps that are executed -/

variable [Evaluator]

/-- The modifiers of a directive that sees this frame, or the error that it fails with. -/
def Head.evaluated (head : Head) (frame : Frame) (slots : List Value) :
    Except RenderError (List AppliedModifier) :=
  (head.modifiers.mapM fun m : PendingModifier => m.apply frame slots).mapError
    (·.locate head.position)

/-- Whether a step, when it is run in a frame at a place, may come to running that step in that
frame at that place. -/
inductive Step.Executes : Frame → Site → Step → Frame → Site → Step → Prop
  | self (frame : Frame) (site : Site) (s : Step) : Executes frame site s frame site s
  | branch {alternatives : List Alternative} {k i : Nat} {head : Head} {test : Option Test}
      {steps : List Step} {s s' : Step} {frame frame' : Frame} {site site' : Site}
      (hbranch : alternatives[k]? = some (.mk head test (.mk steps))) (hstep : steps[i]? = some s)
      (h : Executes (frame.reroot (.part site k) head.context) (.step (.part site k) i) s
        frame' site' s') :
      Executes frame site (.choice alternatives) frame' site' s'
  | pass {head : Head} {collection : Formula} {slots : List Value} {v : Value} {es : Entries}
      {p : Pass} {i : Nat} {steps : List Step} {s s' : Step} {frame frame' : Frame}
      {site site' : Site}
      (hcollection : Evaluator.eval collection (frame.reroot site head.context) slots = .ok v)
      (hentries : Entries.ofValue v = .ok es) (hpass : es.Makes p) (hstep : steps[i]? = some s)
      (h : Executes (p.frame (frame.reroot site head.context) site) (.step (p.site site) i) s
        frame' site' s') :
      Executes frame site (.iterate head collection (.mk steps)) frame' site' s'

/-- Whether a request that has to do with fragments is that of a directive which the step, run in
this frame at this place, comes to: a declaration has its body kept with the frame that it sees and
its modifiers, a named render has its fragment looked up. -/
def Request.IsDirectiveOf (frame : Frame) (site : Site) (s : Step) : Request → Prop
  | .declare name fragment => ∃ (frame' : Frame) (site' : Site) (head : Head) (slots : List Value),
      s.Executes frame site frame' site' (.declare head name fragment.body) ∧
        fragment.frame = frame'.reroot site' head.context ∧
        head.evaluated fragment.frame slots = .ok fragment.modifiers
  | .resolve name => ∃ (frame' : Frame) (site' : Site) (head : Head),
      s.Executes frame site frame' site' (.render head name)
  | _ => True

/-- Whether it is that of a directive which one of these steps comes to. -/
def Request.IsDirectiveIn (frame : Frame) (site : Site) (steps : List Step) (q : Request) : Prop :=
  ∃ i s, steps[i]? = some s ∧ q.IsDirectiveOf frame (.step site i) s

/-- What is executed by a step that is executed is executed. -/
theorem Request.IsDirectiveOf.mono {frame frame' : Frame} {site site' : Site} {s s' : Step}
    (h : ∀ frame'' site'' s'', s'.Executes frame' site' frame'' site'' s'' →
      s.Executes frame site frame'' site'' s'') {q : Request}
    (hq : q.IsDirectiveOf frame' site' s') : q.IsDirectiveOf frame site s := by
  cases q with
  | declare name fragment =>
    obtain ⟨frame'', site'', head, slots, hexecutes, hframe, hmodifiers⟩ := hq
    exact ⟨frame'', site'', head, slots, h _ _ _ hexecutes, hframe, hmodifiers⟩
  | resolve name =>
    obtain ⟨frame'', site'', head, hexecutes⟩ := hq
    exact ⟨frame'', site'', head, h _ _ _ hexecutes⟩
  | write | isHalted | halt | modify | template | call | custom | enter => exact trivial

/-- Plain requests have no site that could be wrong. -/
theorem Request.isDirectiveOf_of_isPlain (frame : Frame) (site : Site) (s : Step) {q : Request}
    (h : q.isPlain = true) : q.IsDirectiveOf frame site s := by
  cases q with
  | write | isHalted | halt | modify => exact trivial
  | declare | resolve | template | call | custom | enter => cases h

/-! ## Their requests -/

mutual

/-- All that a step asks is asked by a directive in it, at the site and in the frame that belong to
it. -/
theorem Step.asks_directives : ∀ (s : Step) (channel : Channel) (frame : Frame) (site : Site)
    {Q : Request → Prop}, (∀ q : Request, q.IsDirectiveOf frame site s → Q q) →
      Program.Asks Q (fun _ _ => True) (s.run channel frame site)
  | .text s, channel, frame, site, Q, hQ => by
    rw [Step.run]
    exact channel.asks_write (fun q hq => hQ q (q.isDirectiveOf_of_isPlain frame site _ hq)) s
  | .output head value, channel, frame, site, Q, hQ => by
    have hplain : ∀ q : Request, q.isPlain = true → Q q := fun q hq =>
      hQ q (q.isDirectiveOf_of_isPlain frame site _ hq)
    rw [Step.run]
    refine head.asks_directive (fun _ _ _ => hQ _ trivial) frame site fun slots => ?_
    refine Action.asks_bind (Action.asks_ofExcept _) fun v => ?_
    refine Action.asks_bind (asks_modifyAll hplain _ _ _ _) fun v => ?_
    exact channel.asks_write hplain v.display
  | .choice alternatives, channel, frame, site, Q, hQ => by
    rw [Step.run]
    refine asks_directives_runChoice alternatives channel frame site 0 alternatives ?_ hQ
    intro k
    rw [Nat.zero_add]
  -- the directives of the body are at sites of their own in each pass
  | .iterate head collection (.mk steps), channel, frame, site, Q, hQ => by
    rw [Step.run]
    refine head.asks_directive (fun _ _ _ => hQ _ trivial) frame site fun slots => ?_
    refine Action.asks_ofExcept_bind fun v hcollection => ?_
    refine Action.asks_bind (Action.asks_ofExcept _) fun modifiers => ?_
    refine Action.asks_ofExcept_bind fun es hentries => ?_
    refine asks_runEntries _ site es fun p hpass => ?_
    dsimp only
    rw [Scope.run_mk]
    refine asks_directives_runSteps steps _ _ _ 0 steps (fun i => by rw [Nat.zero_add]) ?_
    rintro q ⟨i, s, hstep, hq⟩
    refine hQ q (hq.mono fun _ _ _ hexecutes => ?_)
    exact .pass hcollection hentries hpass hstep hexecutes
  | .custom head path bodies, channel, frame, site, Q, hQ => by
    rw [Step.run]
    refine head.asks_directive (fun _ _ _ => hQ _ trivial) frame site fun slots => ?_
    refine Action.asks_bind (Action.asks_ofExcept _) fun modifiers => ?_
    unfold runCustom
    split
    · exact ⟨hQ _ trivial, fun _ _ => trivial⟩
    · exact trivial
  | .declare head name body, channel, frame, site, Q, hQ => by
    rw [Step.run]
    refine Action.asks_bind (Call.asks_runAll (fun _ _ _ => hQ _ trivial) ..) fun slots => ?_
    refine Action.asks_ofExcept_bind (r := head.evaluated _ slots) fun modifiers hmodifiers => ?_
    refine ⟨hQ _ ?_, fun _ _ => trivial⟩
    exact ⟨frame, site, head, slots, .self frame site _, rfl, hmodifiers⟩
  | .render head name, channel, frame, site, Q, hQ => by
    rw [Step.run]
    refine head.asks_directive (fun _ _ _ => hQ _ trivial) frame site fun slots => ?_
    have hresolve : Q (.resolve name) := hQ _ ⟨frame, site, head, .self frame site _⟩
    refine Action.asks_bind ⟨hresolve, fun _ _ => trivial⟩ fun found => ?_
    cases found with
    | none => exact trivial
    | some fragment =>
      refine Action.asks_bind (Action.asks_ofExcept _) fun modifiers => ?_
      exact ⟨hQ _ trivial, fun _ _ => trivial⟩
  | .inclusion head name, channel, frame, site, Q, hQ => by
    rw [Step.run]
    refine head.asks_directive (fun _ _ _ => hQ _ trivial) frame site fun slots => ?_
    refine Action.asks_bind ?_ fun name => ?_
    · cases name with
      | fixed name => exact trivial
      | computed formula => exact Action.asks_bind (Action.asks_ofExcept _) fun _ => trivial
    · refine Action.asks_bind (Action.asks_ofExcept _) fun modifiers => ?_
      refine Action.asks_bind ⟨hQ _ trivial, fun _ _ => trivial⟩ fun scope => ?_
      exact ⟨hQ _ trivial, fun _ _ => trivial⟩

/-- The branches that are left are those from number `k` on. -/
theorem asks_directives_runChoice : ∀ (as : List Alternative) (channel : Channel) (frame : Frame)
    (site : Site) (k : Nat) (all : List Alternative), (∀ j, as[j]? = all[k + j]?) →
      ∀ {Q : Request → Prop}, (∀ q : Request, q.IsDirectiveOf frame site (.choice all) → Q q) →
        Program.Asks Q (fun _ _ => True) (runChoice channel frame site k as)
  | [], channel, frame, site, k, all, _, Q, _ => by
    rw [runChoice]
    exact trivial
  | .mk head test (.mk steps) :: as, channel, frame, site, k, all, hall, Q, hQ => by
    have hbranch : all[k]? = some (.mk head test (.mk steps)) := (hall 0).symm
    -- the others are those from the next number on
    have hothers : ∀ j, as[j]? = all[k + 1 + j]? := by
      intro j
      rw [Nat.add_assoc, Nat.add_comm 1, ← hall (j + 1)]
      rfl
    rw [runChoice_cons]
    refine Action.asks_bind ?_ fun holds => ?_
    · cases test with
      | none => exact trivial
      | some test =>
        refine Action.asks_bind (Call.asks_runAll (fun _ _ _ => hQ _ trivial) ..) fun slots => ?_
        exact Action.asks_bind (Action.asks_locate (Action.asks_ofExcept _) _) fun _ => trivial
    split
    · refine Action.asks_bind (Call.asks_runAll (fun _ _ _ => hQ _ trivial) ..) fun slots => ?_
      refine Action.asks_bind (Action.asks_locate (Action.asks_ofExcept _) _) fun modifiers => ?_
      rw [Scope.run_mk]
      refine asks_directives_runSteps steps _ _ _ 0 steps (fun i => by rw [Nat.zero_add]) ?_
      rintro q ⟨i, s, hstep, hq⟩
      exact hQ q (hq.mono fun _ _ _ hexecutes => .branch hbranch hstep hexecutes)
    · exact asks_directives_runChoice as channel frame site (k + 1) all hothers hQ

/-- The steps that are left are those from number `i` on. -/
theorem asks_directives_runSteps : ∀ (steps : List Step) (channel : Channel) (frame : Frame)
    (site : Site) (i : Nat) (all : List Step), (∀ j, steps[j]? = all[i + j]?) →
      ∀ {Q : Request → Prop}, (∀ q : Request, q.IsDirectiveIn frame site all → Q q) →
        Program.Asks Q (fun _ _ => True) (runSteps channel frame site i steps)
  | [], channel, frame, site, i, all, _, Q, _ => by
    rw [runSteps]
    exact trivial
  | s :: ss, channel, frame, site, i, all, hall, Q, hQ => by
    have hstep : all[i]? = some s := (hall 0).symm
    have hothers : ∀ j, ss[j]? = all[i + 1 + j]? := by
      intro j
      rw [Nat.add_assoc, Nat.add_comm 1, ← hall (j + 1)]
      rfl
    rw [runSteps]
    refine Action.asks_bind ?_ fun _ => ?_
    · exact s.asks_directives channel frame _ fun q hq => hQ q ⟨i, s, hstep, hq⟩
    · exact asks_directives_runSteps ss channel frame site (i + 1) all hothers hQ

end

/-- Only declarations that the scope executes keep fragments, and only named renders that it executes
ask for them. -/
theorem Scope.asks_directives (scope : Scope) (channel : Channel) (frame : Frame) (site : Site) :
    Program.Asks (fun q => q.IsDirectiveIn frame site scope.steps) (fun _ _ => True)
      (scope.run channel frame site) := by
  rcases scope with ⟨steps⟩
  rw [Scope.run_mk]
  exact asks_directives_runSteps steps channel frame site 0 steps (fun i => by rw [Nat.zero_add])
    fun q hq => hq

end Stencil
