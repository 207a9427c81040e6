import Stencil.Proofs.Except
import Stencil.Proofs.Program.Asks
import Stencil.Proofs.Program.Run
import Stencil.Proofs.Scope.Sound

/-!
# Stencil.Proofs.Program.Agree — sound scopes with other evaluators

An evaluator agrees on proper evaluations if it gives these the values they have; what it does
with any other evaluation is left open. With every such evaluator a sound scope has the same
program (`Scope.run_agrees`), so no other evaluation is made when it runs. And a sound scope hands
out only sound scopes (`Scope.hands_run`).
-/

namespace Stencil

/-! ## Evaluators -/

/-- Whether the evaluator gives every proper evaluation what `Formula.eval` gives it. -/
def AgreesOnProper (eval : Formula → Frame → List Value → Except RenderError Value) : Prop :=
  ∀ (f : Formula) (frame : Frame) (slots : List Value), f.Proper frame slots →
    eval f frame slots = f.eval frame slots

section Agree

variable {eval : Formula → Frame → List Value → Except RenderError Value}

section Parts

variable (h : AgreesOnProper eval) (frame : Frame)
include h

/-- On formulas that are ready the two evaluations agree. -/
theorem AgreesOnProper.eval_eq {f : Formula} {slots : List Value} (hf : f.Ready slots.length) :
    eval f frame slots = f.eval frame slots :=
  h f frame slots (hf.proper frame)

theorem AgreesOnProper.mapM_eq {fs : List Formula} {slots : List Value}
    (hfs : ∀ f ∈ fs, f.Ready slots.length) :
    (fs.mapM fun f => eval f frame slots) = fs.mapM fun f => f.eval frame slots :=
  Except.mapM_congr fun f hf => h.eval_eq frame (hfs f hf)

/-- A call whose arguments are ready is the same with either evaluation. -/
theorem Call.run_agrees (site : Site) {c : Call} {slots : List Value}
    (hc : ∀ f ∈ c.args, f.Ready slots.length) :
    @Call.run ⟨eval⟩ c frame site slots = c.run frame site slots := by
  have hargs := h.mapM_eq (frame.reroot site c.context) hc
  unfold Call.run
  dsimp only [Evaluator.eval]
  rw [hargs]

/-- The calls that are made before a call are as many as its arguments may read. -/
theorem Call.runAll_agrees (site : Site) {cs : List Call} {slots : List Value}
    (horder : Call.InOrder slots.length cs) (hsingle : ∀ c ∈ cs, c.Single) :
    @Call.runAll ⟨eval⟩ frame site cs slots = Call.runAll frame site cs slots := by
  induction cs generalizing slots with
  | nil => rfl
  | cons c cs ih =>
    obtain ⟨hwithin, horder⟩ := horder
    have hargs : ∀ f ∈ c.args, f.Ready slots.length :=
      fun f hf => ⟨hwithin f hf, hsingle c List.mem_cons_self f hf⟩
    unfold Call.runAll
    rw [Call.run_agrees h frame _ hargs]
    refine bind_congr fun v => ?_
    refine ih ?_ fun d hd => hsingle d (List.mem_cons_of_mem _ hd)
    rw [List.length_append]
    exact horder

/-- The calls of a directive, and what is done with as many results as it has calls. -/
theorem Call.runAll_bind_agrees {α : Type} (site : Site) {calls : List Call}
    (hcalls : Call.Ready calls) {k k' : List Value → Action α}
    (hk : ∀ slots, slots.length = calls.length → k slots = k' slots) :
    (@Call.runAll ⟨eval⟩ frame site calls [] >>= k) =
      (Call.runAll frame site calls [] >>= k') := by
  have horder : Call.InOrder ([] : List Value).length calls := hcalls.1
  rw [Call.runAll_agrees h frame site horder hcalls.2]
  refine Action.bind_congr_of_always (Call.always_runAll frame site calls []) ?_
  -- the list starts empty, so all results are those of these calls
  rintro slots ⟨new, rfl, hlen⟩
  exact hk _ hlen

theorem PendingModifier.apply_agrees {m : PendingModifier} {slots : List Value}
    (hm : ∀ f ∈ m.args, f.Ready slots.length) :
    @PendingModifier.apply ⟨eval⟩ m frame slots = m.apply frame slots := by
  have hargs := h.mapM_eq frame hm
  unfold PendingModifier.apply
  dsimp only [Evaluator.eval]
  rw [hargs]

/-- The modifiers of a directive, when all its calls are made. -/
theorem Head.applied_agrees {head : Head} (hs : head.Sound) {slots : List Value}
    (hlen : slots.length = head.calls.length) :
    @Head.applied ⟨eval⟩ head frame slots = head.applied frame slots := by
  have hmodifiers := hs.2
  rw [← hlen] at hmodifiers
  unfold Head.applied
  rw [Except.mapM_congr fun m hm => PendingModifier.apply_agrees h frame (hmodifiers m hm)]

theorem modifyAll_agrees {ms : List PendingModifier} {slots : List Value}
    (hm : ∀ m ∈ ms, ∀ f ∈ m.args, f.Ready slots.length) (v : Value) :
    @modifyAll ⟨eval⟩ frame slots ms v = modifyAll frame slots ms v := by
  induction ms generalizing v with
  | nil => rfl
  | cons m ms ih =>
    unfold modifyAll
    rw [PendingModifier.apply_agrees h frame (hm m List.mem_cons_self)]
    refine bind_congr fun applied => ?_
    refine bind_congr fun w => ?_
    exact ih (fun n hn => hm n (List.mem_cons_of_mem _ hn)) w

theorem TemplateName.eval_agrees {name : TemplateName} {slots : List Value}
    (hn : name.Ready slots.length) :
    @TemplateName.eval ⟨eval⟩ name frame slots = name.eval frame slots := by
  cases name with
  | fixed name => rfl
  | computed f =>
    unfold TemplateName.eval
    dsimp only [Evaluator.eval]
    rw [h.eval_eq frame hn]

theorem Head.tested_agrees (site : Site) (head : Head) {test : Option Test}
    (ht : ∀ t, test = some t → t.Sound) :
    @Head.tested ⟨eval⟩ frame site head test = head.tested frame site test := by
  cases test with
  | none => rfl
  | some t =>
    obtain ⟨hcalls, hformula⟩ := ht t rfl
    refine Call.runAll_bind_agrees h frame site hcalls fun slots hlen => ?_
    dsimp only [Evaluator.eval]
    rw [h.eval_eq _ (hlen ▸ hformula)]

/-- A branch that is taken asks for the same under both evaluators, if its body does. -/
theorem Head.take_agrees (channel : Channel) (site : Site) {head : Head} (hs : head.Sound)
    {body : Scope} (hbody : ∀ channel frame site,
      @Scope.run ⟨eval⟩ channel frame site body = body.run channel frame site) :
    @Head.take ⟨eval⟩ channel frame site head body = head.take channel frame site body := by
  -- the calls fill as many slots as the modifiers ask for
  refine Call.runAll_bind_agrees h frame _ hs.1 fun slots hlen => ?_
  rw [Head.applied_agrees h _ hs hlen]
  simp only [hbody]

end Parts

/-! ## Scopes -/

mutual

/-- A sound step has the same program with every evaluator that agrees. -/
theorem Step.run_agrees (h : AgreesOnProper eval) : ∀ (s : Step), s.Sound →
    ∀ (channel : Channel) (frame : Frame) (site : Site),
      @Step.run ⟨eval⟩ channel frame site s = s.run channel frame site
  | .text s, _, channel, frame, site => by
    unfold Step.run
    rfl
  | .output head value, hs, channel, frame, site => by
    obtain ⟨⟨hcalls, hmodifiers⟩, hvalue⟩ := hs
    unfold Step.run
    refine Call.runAll_bind_agrees h frame site hcalls fun slots hlen => ?_
    rw [← hlen] at hmodifiers hvalue
    dsimp only [Evaluator.eval]
    rw [h.eval_eq _ hvalue]
    simp only [modifyAll_agrees h _ hmodifiers]
  | .choice alternatives, hs, channel, frame, site => by
    unfold Step.run
    exact runChoice_agrees h alternatives hs channel frame site 0
  | .iterate head collection body, hs, channel, frame, site => by
    obtain ⟨hhead, hcollection, hbody⟩ := hs
    unfold Step.run
    refine Call.runAll_bind_agrees h frame site hhead.1 fun slots hlen => ?_
    rw [← hlen] at hcollection
    unfold Head.iterate
    dsimp only [Evaluator.eval]
    rw [h.eval_eq _ hcollection, Head.applied_agrees h _ hhead hlen]
    -- the body runs once for each pass, under a binder
    simp only [body.run_agrees h hbody]
  | .custom head path bodies, hs, channel, frame, site => by
    obtain ⟨hhead, -⟩ := hs
    unfold Step.run
    refine Call.runAll_bind_agrees h frame site hhead.1 fun slots hlen => ?_
    unfold Head.invokeCustom
    dsimp only
    rw [Head.applied_agrees h _ hhead hlen]
  | .declare head name body, hs, channel, frame, site => by
    obtain ⟨hhead, -⟩ := hs
    unfold Step.run
    refine Call.runAll_bind_agrees h frame site hhead.1 fun slots hlen => ?_
    unfold Head.declareNamed
    dsimp only
    rw [Head.applied_agrees h _ hhead hlen]
  | .render head name, hs, channel, frame, site => by
    unfold Step.run
    refine Call.runAll_bind_agrees h frame site hs.1 fun slots hlen => ?_
    unfold Head.renderNamed
    dsimp only
    rw [Head.applied_agrees h _ hs hlen]
  | .inclusion head name, hs, channel, frame, site => by
    obtain ⟨hhead, hname⟩ := hs
    unfold Step.run
    refine Call.runAll_bind_agrees h frame site hhead.1 fun slots hlen => ?_
    rw [← hlen] at hname
    unfold Head.renderPartial
    dsimp only
    rw [TemplateName.eval_agrees h _ hname, Head.applied_agrees h _ hhead hlen]

/-- So is a choice, if its alternatives are sound. -/
theorem runChoice_agrees (h : AgreesOnProper eval) : ∀ (as : List Alternative),
    AlternativesSound as → ∀ (channel : Channel) (frame : Frame) (site : Site) (k : Nat),
      @runChoice ⟨eval⟩ channel frame site k as = runChoice channel frame site k as
  | [], _, channel, frame, site, k => by
    unfold runChoice
    rfl
  | .mk head test body :: as, hs, channel, frame, site, k => by
    obtain ⟨hhead, htest, hbody, has⟩ := hs
    rw [@runChoice_cons ⟨eval⟩, runChoice_cons, Head.tested_agrees h frame _ head htest]
    refine bind_congr fun holds => ?_
    rw [Head.take_agrees h frame channel _ hhead (body.run_agrees h hbody),
      runChoice_agrees h as has]

theorem Scope.run_agrees (h : AgreesOnProper eval) : ∀ (s : Scope), s.Sound →
    ∀ (channel : Channel) (frame : Frame) (site : Site),
      @Scope.run ⟨eval⟩ channel frame site s = s.run channel frame site
  | .mk steps, hs, channel, frame, site => by
    rw [@Scope.run_mk ⟨eval⟩, Scope.run_mk]
    exact runSteps_agrees h steps hs channel frame site 0

theorem runSteps_agrees (h : AgreesOnProper eval) : ∀ (steps : List Step), StepsSound steps →
    ∀ (channel : Channel) (frame : Frame) (site : Site) (i : Nat),
      @runSteps ⟨eval⟩ channel frame site i steps = runSteps channel frame site i steps
  | [], _, channel, frame, site, i => by
    unfold runSteps
    rfl
  | s :: ss, hs, channel, frame, site, i => by
    unfold runSteps
    rw [s.run_agrees h hs.1]
    refine bind_congr fun _ => ?_
    exact runSteps_agrees h ss hs.2 channel frame site (i + 1)

end

end Agree

/-! ## What is handed out -/

section Hands

variable {P : Scope → Prop}

/-- An iteration hands out what its body does. -/
theorem hands_runEntries {body : Frame → Site → Action Unit}
    (hbody : ∀ frame site, Program.Hands P (body frame site)) (base : Frame) (site : Site)
    (es : Entries) : Program.Hands P (runEntries body base site es) := by
  fun_induction runEntries body base site es with
  | case1 => exact trivial
  | case2 es p rest h ih => exact Action.asks_bind (hbody _ _) fun _ => ih

/-- A block hands out its own bodies. -/
theorem hands_runCustom (channel : Channel) (path : String) (frame : Frame) (site : Site)
    {bodies : List Scope} (hbodies : ∀ b ∈ bodies, P b) :
    Program.Hands P (runCustom channel path frame site bodies) := by
  unfold runCustom
  split
  · exact ⟨hbodies, fun _ _ => trivial⟩
  · exact trivial

/-- An inclusion runs the template that it has found. -/
theorem hands_runTemplate (channel : Channel) (name : String) (frame : Frame) (site : Site) :
    Program.Hands P (runTemplate channel name frame site) := by
  refine ⟨trivial, fun found hfound => ?_⟩
  cases found with
  | error e => exact trivial
  | ok scope => exact ⟨hfound scope rfl, fun _ _ => trivial⟩

variable [Evaluator]

theorem Call.hands_runAll (frame : Frame) (site : Site) (cs : List Call) (slots : List Value) :
    Program.Hands P (Call.runAll frame site cs slots) :=
  Call.asks_runAll (fun _ _ _ => trivial) frame site cs slots

theorem Head.hands_tested (frame : Frame) (site : Site) (head : Head) (test : Option Test) :
    Program.Hands P (head.tested frame site test) := by
  cases test with
  | none => exact trivial
  | some test =>
    refine Action.asks_bind (Call.hands_runAll frame site test.calls []) fun slots => ?_
    exact Action.asks_bind (Action.asks_locate (Action.asks_ofExcept _) _) fun v => trivial

mutual

/-- A sound step hands out only sound scopes, if those it is given are. -/
theorem Step.hands_run : ∀ (s : Step), s.Sound → ∀ (channel : Channel) (frame : Frame)
    (site : Site), Program.Hands Scope.Sound (s.run channel frame site)
  | .text s, _, channel, frame, site => by
    rw [Step.run]
    exact Channel.hands_write _ channel s
  | .output head value, _, channel, frame, site => by
    rw [Step.run]
    refine Action.asks_bind (Call.hands_runAll frame site head.calls []) fun slots => ?_
    refine Action.asks_locate ?_ _
    refine Action.asks_bind trivial fun v => ?_
    refine Action.asks_bind (asks_modifyAll (fun _ => Request.hands_of_isPlain _) _ _ _ _) ?_
    intro v
    exact Channel.hands_write _ channel v.display
  | .choice alternatives, hs, channel, frame, site => by
    rw [Step.run]
    exact hands_runChoice alternatives hs channel frame site 0
  -- bodies of iterations are not handed out, but run
  | .iterate head collection body, hs, channel, frame, site => by
    rw [Step.run]
    refine Action.asks_bind (Call.hands_runAll frame site head.calls []) fun slots => ?_
    refine Action.asks_locate ?_ _
    refine Action.asks_bind trivial fun collection => ?_
    refine Action.asks_bind trivial fun modifiers => ?_
    refine Action.asks_bind trivial fun es => ?_
    exact hands_runEntries (fun frame site => body.hands_run hs.2.2 _ frame site) _ site es
  | .custom head path bodies, hs, channel, frame, site => by
    rw [Step.run]
    refine Action.asks_bind (Call.hands_runAll frame site head.calls []) fun slots => ?_
    refine Action.asks_locate ?_ _
    refine Action.asks_bind trivial fun modifiers => ?_
    exact hands_runCustom _ path _ site (bodiesSound_iff.1 hs.2)
  | .declare head name body, hs, channel, frame, site => by
    rw [Step.run]
    refine Action.asks_bind (Call.hands_runAll frame site head.calls []) fun slots => ?_
    refine Action.asks_bind (Action.asks_locate (Action.asks_ofExcept _) _) fun modifiers => ?_
    exact ⟨hs.2, fun _ _ => trivial⟩
  | .render head name, _, channel, frame, site => by
    rw [Step.run]
    refine Action.asks_bind (Call.hands_runAll frame site head.calls []) fun slots => ?_
    refine Action.asks_locate ?_ _
    refine ⟨trivial, fun found hfound => ?_⟩
    cases found with
    | none => exact trivial
    | some fragment =>
      refine Action.asks_bind trivial fun modifiers => ?_
      exact ⟨hfound fragment rfl, fun _ _ => trivial⟩
  | .inclusion head name, _, channel, frame, site => by
    rw [Step.run]
    refine Action.asks_bind (Call.hands_runAll frame site head.calls []) fun slots => ?_
    refine Action.asks_locate ?_ _
    refine Action.asks_bind ?_ fun name => ?_
    · cases name with
      | fixed name => exact trivial
      | computed f => exact Action.asks_bind trivial fun v => trivial
    · refine Action.asks_bind trivial fun modifiers => ?_
      exact hands_runTemplate _ name _ site

/-- A choice hands out what its alternatives do. -/
theorem hands_runChoice : ∀ (as : List Alternative), AlternativesSound as →
    ∀ (channel : Channel) (frame : Frame) (site : Site) (k : Nat),
      Program.Hands Scope.Sound (runChoice channel frame site k as)
  | [], _, channel, frame, site, k => by
    rw [runChoice]
    exact trivial
  | .mk head test body :: as, hs, channel, frame, site, k => by
    obtain ⟨-, -, hbody, has⟩ := hs
    rw [runChoice_cons]
    refine Action.asks_bind (head.hands_tested frame _ test) fun holds => ?_
    split
    · refine Action.asks_bind (Call.hands_runAll frame _ head.calls []) fun slots => ?_
      refine Action.asks_bind (Action.asks_locate (Action.asks_ofExcept _) _) fun modifiers => ?_
      exact body.hands_run hbody _ _ _
    · exact hands_runChoice as has channel frame site (k + 1)

/-- A sound scope hands out sound scopes only. -/
theorem Scope.hands_run : ∀ (s : Scope), s.Sound → ∀ (channel : Channel) (frame : Frame)
    (site : Site), Program.Hands Scope.Sound (s.run channel frame site)
  | .mk steps, hs, channel, frame, site => by
    rw [Scope.run_mk]
    exact hands_runSteps steps hs channel frame site 0

theorem hands_runSteps : ∀ (steps : List Step), StepsSound steps → ∀ (channel : Channel)
    (frame : Frame) (site : Site) (i : Nat),
      Program.Hands Scope.Sound (runSteps channel frame site i steps)
  | [], _, channel, frame, site, i => by
    rw [runSteps]
    exact trivial
  | s :: ss, hs, channel, frame, site, i => by
    rw [runSteps]
    refine Action.asks_bind (s.hands_run hs.1 channel frame _) fun _ => ?_
    exact hands_runSteps ss hs.2 channel frame site (i + 1)

end

end Hands

end Stencil
