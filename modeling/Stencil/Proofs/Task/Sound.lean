import Stencil.Proofs.Program.Agree
import Stencil.Proofs.Task.Invariant

/-!
# Stencil.Proofs.Task.Sound — renders in which every evaluation is proper

A render is sound when all scopes it can come to are: the bodies it has been handed, the fragments
that are declared, and the templates, which are compiled from texts. This is an invariant of renders
(`Invariant.sound`), and it is the same with every evaluator that agrees on proper evaluations. So
nothing else is ever evaluated (`Scope.compileText_evaluates_properly`).
-/

namespace Stencil

/-! ## The state of a render -/

/-- What is found under a name is one of the entries. -/
theorem mem_of_lookup {α : Type} {entries : List (String × α)} {name : String} {a : α}
    (h : entries.lookup name = some a) : (name, a) ∈ entries := by
  obtain ⟨before, behind, rfl, -⟩ := List.lookup_eq_some_iff.1 h
  exact List.mem_append_right _ List.mem_cons_self

/-- Whether all that the catalog keeps compiled has been compiled from a text. -/
def Catalog.Genuine (c : Catalog) : Prop :=
  ∀ entry ∈ c.compiled, ∃ debug source, Scope.compileText debug source = .ok entry.2

namespace Catalog

/-- A catalog without templates holds nothing but compiled ones. -/
theorem genuine_empty : Genuine .empty := fun _ he => nomatch he

/-- A template that is looked up was compiled from some source, now or before. -/
theorem Genuine.get {c : Catalog} (h : c.Genuine) (debug : Bool) (name : String) :
    (∀ scope, (c.get debug name).1 = .ok scope →
      ∃ debug source, Scope.compileText debug source = .ok scope) ∧
        (c.get debug name).2.Genuine := by
  unfold Catalog.get
  dsimp only
  split
  · next scope hlookup =>
    refine ⟨fun scope' heq => ?_, h⟩
    cases heq
    exact h _ (mem_of_lookup hlookup)
  · exact ⟨fun scope heq => (nomatch heq), h⟩
  · -- nothing compiled is kept under the name, so its source is compiled now
    next source _ _ =>
    split
    · next scope hscope =>
      refine ⟨fun scope' heq => ?_, fun entry he => ?_⟩
      · cases heq
        exact ⟨debug, source, hscope⟩
      · cases he with
        | head => exact ⟨debug, source, hscope⟩
        | tail _ he => exact h entry he
    · exact ⟨fun scope heq => (nomatch heq), h⟩

end Catalog

namespace World

variable {H : Host}

/-- Whether all fragments that are declared are sound, and all templates compiled from texts. -/
def Sound (w : World H) : Prop :=
  (∀ entry ∈ w.fragments, entry.2.body.Sound) ∧ w.catalog.Genuine

/-- Writing a text does not touch what the soundness of a render is about. -/
theorem Sound.write {w : World H} (hw : w.Sound) (text : String) : (w.write text).2.Sound := by
  unfold World.write
  split
  · exact hw
  split
  · exact hw
  · exact hw

/-- What a sound world answers is sound, and it stays so. -/
theorem Sound.answer {w w' : World H} (hw : w.Sound) {q : Request} {a : q.Answer}
    (hq : q.Hands Scope.Sound) (h : w.answer? q = some (a, w')) :
    q.Gives Scope.Sound a ∧ w'.Sound := by
  cases q with
  | call | custom | enter => cases h
  | isHalted | halt | modify =>
    cases h
    exact ⟨trivial, hw⟩
  | write text =>
    obtain ⟨rfl, rfl⟩ := Prod.mk.inj (Option.some.inj h)
    exact ⟨trivial, hw.write text⟩
  | declare name fragment =>
    cases h
    refine ⟨trivial, fun entry he => ?_, hw.2⟩
    cases he with
    | head => exact hq
    | tail _ he => exact hw.1 entry (List.mem_filter.1 he).1
  | resolve name =>
    cases h
    exact ⟨fun fragment hf => hw.1 _ (mem_of_lookup hf), hw⟩
  | template name =>
    cases h
    obtain ⟨hscope, hcatalog⟩ := hw.2.get w.debug name
    refine ⟨fun scope hs => ?_, hw.1, hcatalog⟩
    obtain ⟨debug, source, hcompile⟩ := hscope scope hs
    exact Scope.sound_of_compileText debug hcompile

end World

/-! ## Renders -/

/-- All scopes that are handed out, or given, are sound. -/
def Invariant.sound (H : Host) : Invariant H where
  asks := Request.Hands Scope.Sound
  answers := Request.Gives Scope.Sound
  worlds := World.Sound
  scopes s _ := s.Sound
  helpers _ _ := True
  frames _ _ := True

/-- Sound scopes hand out sound scopes, and their programs are the same with every evaluator that
agrees. -/
theorem Invariant.sound_lawful {H : Host}
    {eval : Formula → Frame → List Value → Except RenderError Value} (h : AgreesOnProper eval) :
    (sound H).Lawful eval where
  plain hplain := Request.hands_of_isPlain _ hplain
  unused _ := trivial
  answer hw hq ha := hw.answer hq ha
  waited {q} hwaits a := by
    cases q with
    | call | custom | enter => exact trivial
    | write | isHalted | halt | modify | declare | resolve | template => cases hwaits
  host _ hw := hw
  help _ _ := trivial
  turn _ _ := Turn.keeps_of_forall (fun _ => trivial) (fun _ => trivial) _
  enter hq := hq
  body hq hbody _ := hq _ hbody
  steps {s f steps} channel site i hs hsteps := by
    obtain ⟨all⟩ := s
    have hsound : StepsSound steps :=
      stepsSound_iff.2 fun step hmem => stepsSound_iff.1 hs step (hsteps.subset hmem)
    exact ⟨runSteps_agrees h steps hsound channel f site i,
      hands_runSteps steps hsound channel f site i⟩

/-! ## Templates -/

/-- Compiling a template text never reports a missing expression. Running what it compiles to
depends only on proper evaluations, and these have values: no evaluator that agrees on them,
whatever it does with others, makes the program of the scope another one, or lets a render with
any host, data and templates come to anything else. The templates compiled on the way are again
compiled from texts. -/
theorem Scope.compileText_evaluates_properly (debug : Bool) (source : String) :
    (∀ e kind, compileText debug source = .error (.compileError e) →
      e.fault ≠ .missingExpression kind) ∧
    (∀ (f : Formula) frame slots, f.Proper frame slots → ∃ v, f.eval frame slots = .ok v) ∧
    ∀ scope, compileText debug source = .ok scope → ∀ eval, AgreesOnProper eval →
      (∀ channel frame site,
        @Scope.run ⟨eval⟩ channel frame site scope = scope.run channel frame site) ∧
      ∀ (H : Host) (host : H.State) (catalog : Catalog), catalog.Genuine →
        ∀ modifiers details fuel deadline frame,
          let w := World.start host catalog modifiers details
          @World.render H ⟨eval⟩ fuel deadline scope frame w = w.render fuel deadline scope frame ∧
            ∀ o w', w.render fuel deadline scope frame = some (o, w') → w'.catalog.Genuine := by
  refine ⟨fun e kind h hkind => ?_, fun f frame slots h => h.exists_eval, ?_⟩
  · exact not_lacksExpression_of_compileText debug h ⟨kind, hkind⟩
  · intro scope hcompile eval heval
    have hs := sound_of_compileText debug hcompile
    refine ⟨scope.run_agrees heval hs, fun H host catalog hcatalog modifiers details fuel => ?_⟩
    intro deadline frame
    have hw : (World.start host catalog modifiers details : World H).Sound :=
      ⟨fun _ he => (nomatch he), hcatalog⟩
    have hwithin := (Invariant.sound_lawful heval).within_watch fuel deadline (f := frame) hs hw
    refine ⟨?_, fun o w' h => ?_⟩
    · rw [← @World.watch_result H ⟨eval⟩, ← World.watch_result]
      exact congrArg Watched.result hwithin.eq
    · exact (hwithin.result (o, w') ((World.watch_result ..).trans h)).2

/-- Whether the step reads no result behind the first `n`. -/
def Op.isWithin (n : Nat) : Op → Bool
  | .slot i => i < n
  | _ => true

/-- An evaluator that refuses every evaluation that is not proper. -/
def Formula.strictEval (f : Formula) (frame : Frame) (slots : List Value) :
    Except RenderError Value :=
  match f.foldlM (step frame slots) [] with
  | .ok [v] => if f.all (·.isWithin slots.length) then .ok v else .error .aborted
  | _ => .error .aborted

/-- The strict evaluator gives proper formulas the values they have. -/
theorem agreesOnProper_strictEval : AgreesOnProper Formula.strictEval := by
  rintro f frame slots ⟨hwithin, v, hv⟩
  have hall : f.all (·.isWithin slots.length) = true := by
    refine List.all_eq_true.2 fun op hop => ?_
    cases op with
    | slot i => exact decide_eq_true (hwithin i hop)
    | value | lookup | binary | negate => rfl
  rw [Formula.strictEval, Formula.eval, hv]
  exact if_pos hall

/-! ## A template that calls a function -/

namespace Segment

/-- A template that writes what a function gives for `x`. -/
def callSource : String := "\x7b\x7bf(x)\x7d\x7d"

/-- The directive in `callSource`. -/
def callDirective : RawDirective :=
  ⟨.start, .output, ⟨⟨2, 1, 3⟩, "f(x)".toList⟩, [], callSource.toList⟩

/-- The source of the example is one directive. -/
theorem split_callSource : split callSource.toList = [.directive callDirective] :=
  split_of_takeDirective? (takeDirective?_output rfl .start)

/-- It is an output directive with a call. -/
theorem parse_callSource : parse callSource =
    .ok [⟨.output, .start, none, none, some [.call "f" [[.path "x"]] none], [], false, false⟩] := by
  rw [parse, split_callSource]
  cbv

end Segment

/-- What `Segment.callSource` compiles to. -/
def Scope.callOutput : Scope :=
  .mk [.output ⟨none, [⟨none, "f", [[.lookup "x"]], none, none⟩], [], none⟩ [.slot 0]]

/-- The program of the example has one output. -/
theorem Scope.compileText_callSource :
    compileText false Segment.callSource = .ok .callOutput := by
  rw [compileText, Segment.parse_callSource]
  cbv

/-- A program with a call, under an evaluator that gives up on improper formulas. -/
theorem Scope.compileText_evaluates_properly_call :
    compileText false Segment.callSource = .ok .callOutput ∧
      AgreesOnProper Formula.strictEval ∧ Catalog.Genuine .empty ∧
      ∀ (H : Host) (host : H.State) modifiers details fuel deadline frame,
        let w := World.start host .empty modifiers details
        @World.render H ⟨Formula.strictEval⟩ fuel deadline .callOutput frame w =
          w.render fuel deadline .callOutput frame := by
  refine ⟨compileText_callSource, agreesOnProper_strictEval, Catalog.genuine_empty, ?_⟩
  intro H host modifiers details fuel deadline frame
  exact (((compileText_evaluates_properly false Segment.callSource).2.2 .callOutput
    compileText_callSource Formula.strictEval agreesOnProper_strictEval).2 H host .empty
    Catalog.genuine_empty modifiers details fuel deadline frame).1

end Stencil
