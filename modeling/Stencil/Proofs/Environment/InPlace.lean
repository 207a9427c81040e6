import Stencil.Proofs.Environment.Same
import Stencil.Proofs.Task.Record
import Stencil.Proofs.Task.Sound

/-!
# Stencil.Proofs.Environment.InPlace — templates written in place of what includes them

The segments of a template may be written in place of a directive that includes it, in a branch that
is always taken (`Segment.inPlace`). What is rendered comes to the same, as long as the template
looks no further out than the frame that it is given (`Environment.renders_in_place`): it is given
the frame that the directive sees once more, under its own name.
-/

namespace Stencil

/-! ## Segments in place of a directive -/

namespace Segment

/-- The directive that opens a block whose first branch is always taken. -/
def whenTrue : Segment :=
  ⟨.conditional, .start, none, none, some [.literal (.reserved .true)], [], false, false⟩

/-- The directive in front of the last branch of such a block. -/
def otherwise : Segment := ⟨.conditional, .start, none, none, none, [], false, true⟩

/-- The directive that ends a block of this kind. -/
def ending (kind : Kind) : Segment := ⟨kind, .start, none, none, none, [], true, false⟩

/-- Segments in place of a directive: they are in the branch that is always taken, and the directive
is in the one that never is. -/
def inPlace (s : Segment) (segments : List Segment) : List Segment :=
  whenTrue :: (segments ++ [otherwise, s, ending .conditional])

/-- Whether a directive includes the template of this name, without a context and modifiers. -/
structure Includes (s : Segment) (name : String) : Prop where
  kind : s.kind = .inclusion
  context : s.context = none
  modifiers : s.modifiers = []
  expression : ∃ e, s.expression = some e ∧ e.text?.or e.path? = some name

variable {s : Segment} {name : String}

/-- All of it is one block. -/
theorem flattens_inPlace (hs : s.Includes name) {segments : List Segment} {nodes : List Node}
    (h : Flattens nodes segments) :
    Flattens [.block whenTrue nodes [.mk otherwise [.inline s]]] (s.inPlace segments) := by
  have hkind : s.kind ≠ .output := by
    rw [hs.kind]
    decide
  have hself : s.isSelfContained = true := by
    unfold isSelfContained
    rw [hs.kind]
  have hcontinues : otherwise.Continues .conditional := ⟨rfl, rfl, rfl, rfl⟩
  have hmore : FlattensMore .conditional [.mk otherwise [.inline s]] [otherwise, s] :=
    .cons hcontinues (.inline hkind hself .nil) .nil
  have hcloses : (ending .conditional).Closes .conditional := ⟨rfl, rfl, rfl⟩
  exact .block (s := whenTrue) rfl h hmore hcloses .nil

end Segment

/-! ## What it is compiled to -/

namespace Scope

variable (debug : Bool) {s : Segment} {name : String}

/-- A directive without context and modifiers has a plain head. -/
theorem plain_head (hcontext : s.context = none) (hmodifiers : s.modifiers = []) :
    (head debug s []).Plain := by
  rw [head_eq, hmodifiers]
  exact ⟨hcontext, rfl, rfl⟩

/-- An inclusion by a fixed name is compiled to a step that asks for this template. -/
theorem inlineStep_includes (hs : s.Includes name) :
    inlineStep debug s = .ok (.inclusion (head debug s []) (.fixed name)) := by
  obtain ⟨e, he, hname⟩ := hs.expression
  have hexpression : requireExpression debug s = pure e := by
    rw [requireExpression, he]
    rfl
  rw [inlineStep, hs.kind]
  dsimp only
  rw [hexpression, pure_bind, hname]
  rfl

/-- The test of the branch that is always taken. -/
def holding : Test := ⟨[], [.value (.bool true)]⟩

theorem holding_holds : holding.Holds := ⟨rfl, fun _ => ⟨.bool true, rfl, rfl⟩⟩

/-- The literal `true` is compiled to a test that holds. -/
theorem readTest_whenTrue (last : Bool) :
    readTest debug true last .whenTrue = .ok (some holding) := by
  show Except.ok (some (Test.mk (Formula.ofPostfix none _ _ []).2
    (Formula.ofPostfix none _ [.literal (.reserved .true)] []).1)) = _
  rw [Formula.ofPostfix, Formula.ofPostfix]
  rfl

/-- The branch that is never taken includes a template, and so it may have to wait. -/
theorem buildNode_inPlace (hs : s.Includes name) {nodes : List Node} {steps : List Step}
    (h : buildNodes debug nodes = .ok steps) :
    buildNode debug (.block .whenTrue nodes [.mk .otherwise [.inline s]]) =
      .ok (.choice [.mk (head debug .whenTrue []) (some holding) (.mk steps),
        .mk (head debug .otherwise []) none
          (.mk [.inclusion (head debug s []) (.fixed name)])]) := by
  have hothers : buildAlternatives debug [.mk .otherwise [.inline s]] =
      .ok [.mk (head debug .otherwise []) none
        (.mk [.inclusion (head debug s []) (.fixed name)])] := by
    rw [buildAlternatives, buildNodes, buildNode, inlineStep_includes debug hs, buildNodes,
      buildAlternatives]
    rfl
  rw [buildNode]
  show (if (nodes.isEmpty && false) = true then _ else _) = _
  rw [Bool.and_false, if_neg Bool.false_ne_true, readTest_whenTrue, h, hothers]
  rfl

variable {sources : String → Option String} {p source : String} {segments : List Segment}
  {scope : Scope}

/-- A template that is given out for its name, as its segments are compiled. -/
theorem replacing_inPlace (hsource : sources (normalizeName p) = some source)
    (hparse : Segment.parse source = .ok segments) (hscope : compile debug segments = .ok scope) :
    Replacing (Placed sources (· = p)) debug debug fun s chunk =>
      s.Includes p ∧ chunk = s.inPlace segments := by
  obtain ⟨nodes, hnodes, hbuild⟩ := Except.bind_eq_ok_iff.1 hscope
  obtain ⟨steps, hsteps, heq⟩ := Except.bind_eq_ok_iff.1 hbuild
  cases heq
  have hcompiles : Compiles source (.mk steps) := by
    refine ⟨debug, ?_⟩
    rw [compileText, hparse]
    exact Except.mapError_eq_ok_iff.2 hscope
  have hflattens := Node.flattens_of_scan hnodes
  constructor
  · rintro s _ ⟨hs, rfl⟩
    exact ⟨hs.kind, _, Segment.flattens_inPlace hs hflattens⟩
  · rintro s _ node ⟨hs, rfl⟩ hnode step hstep
    rw [inlineStep_includes debug hs] at hstep
    cases hstep
    -- segments write out one list of nodes, so this is the block that stands in place
    have hblock := Segment.flattens_inPlace hs hflattens
    cases (Node.scan_of_flattens debug hnode).symm.trans (Node.scan_of_flattens debug hblock)
    refine ⟨_, buildNode_inPlace debug hs hsteps, ?_⟩
    refine .inPlace (plain_head debug hs.context hs.modifiers) (plain_head debug rfl rfl)
      holding_holds rfl ⟨.mk steps, rfl, source, hsource, hcompiles⟩ ?_
    rintro given ⟨-, source', hsource', hgiven⟩
    cases hsource.symm.trans hsource'
    exact hgiven.like hcompiles

end Scope

/-! ## How far out a template looks -/

/-- Whether `N` tells, of templates with these sources, within which reach they may be rendered: no
path in one of them leads further out, and neither does any in those that it includes. Where
everything is within reach every template may be rendered. -/
structure Scope.Confined (sources : String → Option String) (N : Reach → String → Prop) : Prop where
  all (name : String) : N .all name
  inReach {r : Reach} {name source : String} {s : Scope} : N r name →
    sources (normalizeName name) = some source → Scope.Compiles source s → s.InReach N r

/-- Whether no path in the template of this name leads further out than the frame that it is given,
and none in the templates that it includes. -/
def Scope.KeepsInside (sources : String → Option String) (name : String) : Prop :=
  ∃ N, Scope.Confined sources N ∧ N (.hops 0) name

/-- Templates that keep inside may see some frame once or twice. -/
theorem Scope.Confined.known {sources : String → Option String} {N : Reach → String → Prop}
    {p : String} (hN : Scope.Confined sources N) (hp : N (.hops 0) p) :
    Scope.Known Frame.Repeats N sources (· = p) where
  frames := Frame.kinship_repeats
  inReach := hN.inReach
  placed := by
    rintro _ rfl
    exact hp
  named := by
    rintro _ rfl r f f' hf
    exact hf.again (some _)

/-! ## Renders -/

/-- A directive that includes a template may be replaced by the segments of the template, as a step
of its own, if the template looks no further out than the frame that it is given. With functions
that notice neither the names of templates nor that a frame is repeated, the one render writes the
same texts, makes the same calls and hands out the same blocks as the other one, and they end, if
either ends, with the same outcome but for the places of errors. -/
theorem Environment.renders_in_place {H : Host} {L : H.Likeness} (hL : L.Kept Frame.Repeats)
    (e : Environment) {sources : String → Option String} {p source : String}
    {segments : List Segment} {placed : Scope}
    (hsource : sources (normalizeName p) = some source)
    (hparse : Segment.parse source = .ok segments)
    (hplaced : Scope.compile e.options.debug segments = .ok placed)
    (hinside : Scope.KeepsInside sources p) {s : Segment} (hs : s.Includes p)
    (before behind : List Segment) {scope : Scope}
    (hscope : Scope.compile e.options.debug (before ++ s :: behind) = .ok scope) :
    ∃ scope', Scope.compile e.options.debug (before ++ (s.inPlace segments ++ behind)) =
        .ok scope' ∧
      ∀ (c c' : Catalog), c.Holds sources → c'.Holds sources →
        ∀ (deadline : Option Deadline) (f : Frame) (host host' : H.State) (effects : List Effect),
          L.state host host' → Rendered.SameEnd L.recorded
            (fun n => e.renderScope n deadline c scope f (host, effects))
            (fun n => e.renderScope n deadline c' scope' f (host', effects)) := by
  obtain ⟨N, hN, hp⟩ := hinside
  -- the scopes are alike, and all is within reach of the frame in which they are rendered
  have hreplacing := Scope.replacing_inPlace e.options.debug hsource hparse hplaced
  have hreplaced : Replaced (fun s chunk => s.Includes p ∧ chunk = s.inPlace segments)
      (before ++ s :: behind) (before ++ (s.inPlace segments ++ behind)) :=
    .single ⟨hs, rfl⟩ before behind
  obtain ⟨scope', hscope', hlike⟩ := Scope.compile_like hreplacing hreplaced scope hscope
  refine ⟨scope', hscope', ?_⟩
  intro c c' hc hc' deadline f host host' effects hstate
  have hreach : scope.InReach N .all := scope.inReach_all hN.all
  exact e.renderScope_same hL.recorded (hN.known hp) hc hc' hlike hreach (.refl f)
    ⟨hstate, rfl⟩

/-! ## A template that calls a function -/

namespace Segment

/-- The directive that includes the template `p`. -/
def inclusion : Segment := ⟨.inclusion, .start, none, none, some [.path "p"], [], false, false⟩

/-- This is an inclusion of the template `p`. -/
theorem includes_inclusion : inclusion.Includes "p" := ⟨rfl, rfl, rfl, _, rfl, rfl⟩

/-- A block of this kind. -/
def block (kind : Kind) (context : Option String) (path : String) (modifiers : List ModifierCall)
    (body : List Segment) : List Segment :=
  ⟨kind, .start, none, context, some [.path path], modifiers, false, false⟩ ::
    (body ++ [ending kind])

/-- What `callSource` is read as. -/
def calling : List Segment :=
  [⟨.output, .start, none, none, some [.call "f" [[.path "x"]] none], [], false, false⟩]

/-- The source of the template `p`. -/
def callSources (key : String) : Option String := List.lookup key [("p", callSource)]

end Segment

/-- A directive with nothing but its expression. -/
def Head.bare : Head := ⟨none, [], [], none⟩

namespace Scope

/-- What is compiled of the directive that includes `p`. -/
def including : Scope := .mk [.inclusion .bare (.fixed "p")]

/-- What is compiled of the template in its place. -/
def callInPlace : Scope :=
  .mk [.choice [.mk .bare (some holding) .callOutput, .mk .bare none .including]]

/-- What is compiled of a block that is handed to a helper. -/
def handing (body : Scope) : Scope := .mk [.custom .bare "h" [body]]

/-- All that `Segment.callSource` is compiled to looks no further out than its own frame. -/
theorem inReach_of_compiles_callSource {N : Reach → String → Prop} {r : Reach} {s : Scope}
    (h : Compiles Segment.callSource s) : s.InReach N r := by
  have hcovers : r.Covers (.up 0) := by
    cases r with
    | all => exact trivial
    | hops n => exact Nat.zero_le n
  have hf : (Path.ofString "f").anchor = .up 0 := by cbv
  have hx : (Path.ofString "x").anchor = .up 0 := by cbv
  obtain ⟨debug, hdebug⟩ := h
  rw [compileText, Segment.parse_callSource] at hdebug
  -- the places of errors depend on `debug`, and nothing else does
  obtain ⟨place, rfl⟩ : ∃ place, s = .mk
      [.output ⟨none, [⟨none, "f", [[.lookup "x"]], none, place⟩], [], place⟩ [.slot 0]] := by
    cases debug with
    | false =>
      refine ⟨none, Except.ok.inj (hdebug.symm.trans ?_)⟩
      cbv
    | true =>
      refine ⟨some .start, Except.ok.inj (hdebug.symm.trans ?_)⟩
      cbv
  have hargs : Formula.InReach r [.lookup "x"] := by
    intro path hpath
    cases List.mem_singleton.1 hpath
    rw [hx]
    exact hcovers
  have hcall : Call.InReach r ⟨none, "f", [[.lookup "x"]], none, place⟩ :=
    ⟨trivial, hf ▸ hcovers, List.forall_mem_singleton.2 hargs⟩
  have hhead : Head.InReach r ⟨none, [⟨none, "f", [[.lookup "x"]], none, place⟩], [], place⟩ :=
    ⟨trivial, List.forall_mem_singleton.2 hcall, List.forall_mem_nil _⟩
  refine ⟨⟨hhead, ?_⟩, trivial⟩
  intro path hpath
  cases List.mem_singleton.1 hpath

/-- The template keeps inside: its paths lead out of no frame. -/
theorem keepsInside_callSources : KeepsInside Segment.callSources "p" := by
  refine ⟨fun _ _ => True, ⟨fun _ => trivial, ?_⟩, trivial⟩
  intro r name source s _ hsource hs
  unfold Segment.callSources at hsource
  rw [List.lookup_cons] at hsource
  split at hsource
  · cases hsource
    exact inReach_of_compiles_callSource hs
  · cases hsource

end Scope

/-- A host whose helpers put a frame of their own inside the one that they are given, and render the
first body of their block there. -/
def Host.pushing (v : Value) : Host where
  State := Unit
  Pending := Empty
  Helper := Frame
  write _ _ := (.ok (), ())
  flush _ := (.ok (), ())
  call _ _ _ _ := (.ready (.ok .undefined), ())
  poll d _ := nomatch d
  help _ f _ _ := (some f, ())
  turn f _ := (.start 0 (f.push v) fun child => .poll child fun o => .finish (o.getD (.ok ())), ())

/-- Helpers stand for one another when the frames do that they are given. -/
def Host.Likeness.pushing (v : Value) : (Host.pushing v).Likeness :=
  ⟨fun _ _ => True, fun _ _ => True, Frame.Repeats⟩

/-- A helper that renders its body on a pushed value takes no notice of repeated frames. -/
theorem Host.Likeness.kept_pushing (v : Value) : (pushing v).Kept Frame.Repeats where
  write _ _ := ⟨.ok rfl, trivial⟩
  flush _ := ⟨.ok rfl, trivial⟩
  call _ _ _ _ := ⟨.ready (.ok rfl), trivial⟩
  poll {_ _ d _} _ _ := nomatch d
  help _ _ hf _ := ⟨.some hf, trivial⟩
  turn hh _ := by
    refine ⟨.start 0 (Frame.Repeats.push hh v) fun child => .poll child fun o o' h => ?_, trivial⟩
    cases h with
    | none => exact .finish (.ok rfl)
    | some h => exact .finish h

/-- What a helper puts inside the frame of its block: a function and an argument for it. -/
def Value.callee : Value := .object .fresh (.ofList [("f", .function 1), ("x", .text "v")])

/-- A block whose helper puts a frame inside the one that it is given, and a template in the block
that calls a function found there. -/
theorem Environment.renders_in_place_call :
    (Host.Likeness.pushing .callee).Kept Frame.Repeats ∧
      Scope.KeepsInside Segment.callSources "p" ∧
      Scope.compile false (Segment.block .custom none "h" [] [.inclusion]) =
        .ok (.handing .including) ∧
      ∃ m r, (Environment.ofOptions .default).renderScope (H := (Host.pushing .callee).recorded) m
          none ⟨[("p", Segment.callSource)], []⟩ (.handing .including)
          (.ofData (.object (.given 0) (.ofList [("h", .function 2)]))) ((), []) = some r ∧
        r.host.2 = [.handed 2 1, .called 1 [.text "v"]] := by
  have hkept := Host.Likeness.kept_pushing .callee
  have hinside := Scope.keepsInside_callSources
  have hscope : Scope.compile false (Segment.block .custom none "h" [] [.inclusion]) =
      .ok (.handing .including) := by cbv
  refine ⟨hkept, hinside, hscope, ?_⟩
  have hname : normalizeName "p" = "p" := by cbv
  have hsource : Segment.callSources (normalizeName "p") = some Segment.callSource := by
    rw [hname]
    rfl
  have hplaced : Scope.compile false Segment.calling = .ok .callOutput := by cbv
  -- each render with the inclusion has one with the segments in its place
  obtain ⟨scope', hscope', hsame⟩ := renders_in_place hkept (.ofOptions .default) hsource
    Segment.parse_callSource hplaced hinside Segment.includes_inclusion [_] [_] hscope
  have hinPlace : Scope.compile false (Segment.block .custom none "h" []
      (Segment.inclusion.inPlace Segment.calling)) = .ok (.handing .callInPlace) := by cbv
  cases hscope'.symm.trans hinPlace
  have hholds : Catalog.Holds Segment.callSources ⟨[("p", Segment.callSource)], []⟩ :=
    ⟨fun _ => rfl, fun h => by cases h⟩
  let data := Value.object (.given 0) (.ofList [("h", .function 2)])
  obtain ⟨-, hright⟩ := hsame _ _ hholds hholds none (.ofData data) () () [] trivial
  have hrun : ((Environment.ofOptions .default).renderScope
      (H := (Host.pushing .callee).recorded) 12 none ⟨[("p", Segment.callSource)], []⟩
      (.handing .callInPlace) (.ofData data) ((), [])).map (·.host.2) =
        some [.handed 2 1, .called 1 [.text "v"]] := by cbv
  obtain ⟨r', hr', heffects⟩ := Option.map_eq_some_iff.1 hrun
  obtain ⟨m, r, hr, hends⟩ := hright hr'
  exact ⟨m, r, hr, hends.host.2.trans heffects⟩

/-! ## What can tell a template from its segments -/

/-- A host with functions that tell how many frames are around the one that they are given, and
helpers that start the first body of their block and leave it. -/
def Host.prying : Host where
  State := Unit
  Pending := Empty
  Helper := Frame
  write _ _ := (.ok (), ())
  flush _ := (.ok (), ())
  call _ f _ _ := (.ready (.ok (.text (toString f.depth))), ())
  poll d _ := nomatch d
  help _ f _ _ := (some f, ())
  turn f _ := (.start 0 f fun _ => .finish (.ok ()), ())

namespace Segment

/-- A template that writes what is found further out. -/
def outwardSource : String := "\x7b\x7b..a\x7d\x7d"

/-- What `outwardSource` is read as. -/
def outward : List Segment :=
  [⟨.output, .start, none, none, some [.path "..a"], [], false, false⟩]

/-- What the template with a path that leads out is read as. -/
theorem parse_outwardSource : parse outwardSource = .ok outward := by
  have hsplit : split outwardSource.toList = [.directive _] :=
    split_of_takeDirective? (takeDirective?_output rfl .start)
  rw [parse, hsplit]
  cbv

/-- A text of its own. -/
def literal (text : String) : Segment := ⟨.text, .start, some text, none, none, [], false, false⟩

/-- What a render of segments does to its surroundings, with a template `p` of this source that is
compiled of other segments. -/
def effects (source : String) (template segments : List Segment) : Option (List Effect) := do
  let placed ← (Scope.compile false template).toOption
  let scope ← (Scope.compile false segments).toOption
  let data := Value.object (.given 0)
    (.ofList [("a", .text "out"), ("f", .function 1),
      ("o", .object (.given 1) (.ofList [("a", .text "in")]))])
  let r ← (Environment.ofOptions .default).renderScope (H := Host.prying.recorded) 30 none
    ⟨[("p", source)], [("p", placed)]⟩ scope (.ofData data) ((), [])
  return r.host.2

/-- A template that is included is not the same as its segments in the place of the directive: a
path that leads outwards leads to the frame that the template is given once more; a function can
tell that there is one more frame; a text is not written in one piece with its neighbours, which the
modifiers of a block can tell; and what may wait does not run when a helper starts a body and leaves
it. -/
theorem inclusion_differs_from_segments :
    (parse outwardSource = .ok outward ∧
      effects outwardSource outward (block .conditional (some "o") "a" [] [inclusion]) =
        some [.wrote "in"] ∧
      effects outwardSource outward (block .conditional (some "o") "a" [] outward) =
        some [.wrote "out"]) ∧
    (parse callSource = .ok calling ∧
      effects callSource calling [inclusion] = some [.called 1 [.undefined], .wrote "1"] ∧
      effects callSource calling calling = some [.called 1 [.undefined], .wrote "0"]) ∧
    parse "b" = .ok [literal "b"] ∧
    (effects "b" [literal "b"]
        (block .conditional none "a" [⟨"nl", []⟩] [literal "a", inclusion]) =
          some [.wrote "a\n", .wrote "b\n"] ∧
      effects "b" [literal "b"]
        (block .conditional none "a" [⟨"nl", []⟩] [literal "a", literal "b"]) =
          some [.wrote "ab\n"]) ∧
    effects "b" [literal "b"] (block .custom none "f" [] [inclusion]) = some [.handed 1 1] ∧
      effects "b" [literal "b"] (block .custom none "f" [] [literal "b"]) =
        some [.handed 1 1, .wrote "b"] := by
  refine ⟨⟨parse_outwardSource, ?_, ?_⟩, ⟨parse_callSource, ?_, ?_⟩, ?_, ⟨?_, ?_⟩, ?_, ?_⟩
  all_goals cbv

end Segment

end Stencil
