import Mathlib.Logic.Relation
import Stencil.Environment.Family
import Stencil.Proofs.Environment.Same
import Stencil.Proofs.Scope.Places
import Stencil.Proofs.Task.Record
import Stencil.Proofs.Task.Sound
import Stencil.Proofs.Task.Trace

/-!
# Stencil.Proofs.Environment.History — environments with a past

Environments that share their templates have a past: what has been added, changed, copied and
rendered so far (`Family.after`). Whatever it is, a template renders as if its latest source were
compiled anew, with the modifiers that the environment has of its own (`Family.renders_afresh`).
-/

namespace Stencil

/-! ## What is done with environments -/

/-- What can be done with environments that share their templates; each is known by its number. -/
inductive Act where
  | addTemplate (name source : String)
  | addModifier (i : Nat) (name : String) (m : Modifier)
  | setOptions (i : Nat) (options : Options)
  | copy (i : Nat)
  | compile (i : Nat) (source : String)
  | renderText {H : Host} (i fuel : Nat) (polls : Option Nat) (source : String) (data : Value)
      (host : H.State)
  | renderNamed {H : Host} (i fuel : Nat) (deadline : Option Deadline) (name : String)
      (data : Value) (host : H.State)
  /-- A render asks for a template, be it ever awaited or not. -/
  | ask (i : Nat) (name : String)

namespace Family

/-- What an act makes of the environments. Compiling a text keeps nothing; nor does a render that
does not end, except for the templates that it has asked for. -/
def act (family : Family) : Act → Family
  | .addTemplate name source => family.addTemplate name source
  | .addModifier i name m => family.modify i (·.addModifier name m)
  | .setOptions i options => family.modify i fun e => { e with options }
  | .copy i => family.copy i
  | .compile .. => family
  | .renderText i fuel polls source data host =>
    ((family.renderText fuel i source data host polls).map (·.2.2)).getD family
  | .renderNamed i fuel deadline name data host =>
    ((family.renderNamed fuel i deadline name data host).map (·.2.2)).getD family
  | .ask i name =>
    match family.members[i]? with
    | some e => { family with catalog := (family.catalog.get e.options.debug name).2 }
    | none => family

/-- The environments that have come of a first one, the latest act being the first of the list. -/
def after (first : Environment) : List Act → Family
  | [] => .single first
  | a :: past => (after first past).act a

end Family

/-! ## What is to be expected -/

namespace Act

/-- The source that was added last under a key. -/
def latest? : List Act → String → Option String
  | [], _ => none
  | .addTemplate name source :: past, key =>
    if key = normalizeName name then some source else latest? past key
  | _ :: past, key => latest? past key

/-- How many environments there are. -/
def count : List Act → Nat
  | [] => 1
  | .copy i :: past => if i < count past then count past + 1 else count past
  | _ :: past => count past

/-- The environment with this number: what the one that it was copied from was then, with what has
been registered and set in itself since. -/
def member? (first : Environment) : List Act → Nat → Option Environment
  | [], i => if i = 0 then some first else none
  | .addModifier j name m :: past, i =>
    if i = j then (member? first past i).map (·.addModifier name m) else member? first past i
  | .setOptions j options :: past, i =>
    if i = j then (member? first past i).map fun e => { e with options }
    else member? first past i
  | .copy j :: past, i => if i = count past then member? first past j else member? first past i
  | _ :: past, i => member? first past i

/-- Whether a template is added under a key. -/
def Adds (key : String) : Act → Prop
  | .addTemplate name _ => key = normalizeName name
  | _ => False

end Act

/-! ## Sources -/

section Sources

variable {H : Host} {sources : String → Option String}

/-- Whether a catalog is what another one is after it has been asked for templates. -/
def Catalog.Grows : Catalog → Catalog → Prop :=
  Relation.ReflTransGen fun c c' => ∃ debug name, c' = (c.get debug name).2

/-- Asking for one template is all it takes. -/
theorem Catalog.Grows.get (c : Catalog) (debug : Bool) (name : String) :
    c.Grows (c.get debug name).2 := .single ⟨debug, name, rfl⟩

/-- The sources stay what they are. -/
theorem Catalog.Holds.grows {c c' : Catalog} (h : c.Holds sources) (hc : c.Grows c') :
    c'.Holds sources := by
  induction hc with
  | refl => exact h
  | tail _ hget ih =>
    obtain ⟨debug, name, rfl⟩ := hget
    exact ih.get debug name

/-- What has been compiled is kept. -/
theorem Catalog.Grows.compiled {c c' : Catalog} (hc : c.Grows c') {key : String} {s : Scope}
    (h : c.compiled.lookup key = some s) : c'.compiled.lookup key = some s := by
  induction hc with
  | refl => exact h
  | @tail c₁ _ _ hget ih =>
    obtain ⟨debug, name, rfl⟩ := hget
    obtain heq | ⟨source, scope, hnone, -, -, heq⟩ := c₁.get_cases debug name
    · rw [heq]
      exact ih
    · rw [heq, List.lookup_cons]
      split
      · next hkey =>
        rw [beq_iff_eq.1 hkey] at ih
        cases ih.symm.trans hnone
      · exact ih

/-- A render does nothing to the catalog but ask it for templates. -/
theorem World.traces_catalog :
    World.Traces (H := H) fun _ w w' => w.catalog.Grows w'.catalog where
  refl _ := .refl
  trans h h' := h.trans h'
  asked _ _ := .refl
  answer w q a ha := by
    unfold World.watchAnswer at ha
    cases q with
    | call | custom | enter => cases ha
    | isHalted | halt | modify | declare | resolve =>
      cases ha
      exact .refl
    -- the one request that changes the catalog
    | template name =>
      cases ha
      exact .get _ w.debug name
    | write text =>
      cases ha
      show w.catalog.Grows (w.write text).2.catalog
      obtain heq | ⟨-, heq⟩ | ⟨-, heq⟩ := w.write_eq text
      all_goals
        rw [heq]
        exact .refl
  call w f frame args a ha := by
    cases ha
    exact .refl
  poll w d a ha := by
    cases ha
    exact .refl
  help w f block a ha := by
    cases ha
    exact .refl
  turn w h := .refl

namespace Environment

variable (e : Environment) {fuel : Nat} {deadline : Option Deadline} {c : Catalog} {data : Value}
  {host : H.State} {r : Rendered H}

/-- A render of a scope does nothing to the catalog but ask it for templates. -/
theorem grows_renderScope {scope : Scope} {frame : Frame}
    (h : e.renderScope fuel deadline c scope frame host = some r) : c.Grows r.catalog := by
  obtain ⟨⟨o, w⟩, hrender, rfl⟩ := Option.map_eq_some_iff.1 h
  rw [← World.watch_result] at hrender
  exact World.traces_catalog.render (fun _ => .refl) (fun _ => .refl) fuel deadline scope frame _
    hrender

theorem grows_renderText {source : String} {polls : Option Nat}
    (h : e.renderText fuel c source data host polls = some r) : c.Grows r.catalog := by
  unfold renderText at h
  split at h
  · exact e.grows_renderScope h
  · cases h
    exact .refl

/-- A render by name takes no template back either, though it begins with asking for its own. -/
theorem grows_renderNamed {name : String}
    (h : e.renderNamed fuel deadline c name data host = some r) : c.Grows r.catalog := by
  have hget := Catalog.Grows.get c e.options.debug name
  unfold renderNamed at h
  split at h
  · next heq =>
    rw [heq] at hget
    exact hget.trans (e.grows_renderScope h)
  · next heq =>
    rw [heq] at hget
    cases h
    exact hget

end Environment

/-- Adding a template replaces its source, and forgets what the old one was compiled to. -/
theorem Catalog.Holds.add {c : Catalog} (h : c.Holds sources) (name source : String) :
    (c.add name source).Holds fun key =>
      if key = normalizeName name then some source else sources key where
  source key := by
    show List.lookup key ((_, source) :: without c.sources _) = _
    rw [List.lookup_cons, lookup_without, h.source]
    by_cases hkey : key = normalizeName name
    · rw [if_pos hkey, beq_iff_eq.2 hkey]
      exact (if_pos hkey).symm
    · rw [if_neg hkey, if_neg hkey, beq_false_of_ne hkey]
  compiled {key s} hkey := by
    have hlookup : (without c.compiled (normalizeName name)).lookup key = some s := hkey
    rw [lookup_without] at hlookup
    split at hlookup
    · cases hlookup
    · next hne =>
      obtain ⟨text, htext, hs⟩ := h.compiled hlookup
      exact ⟨text, (if_neg hne).trans htext, hs⟩

end Sources

/-! ## Members -/

namespace Family

variable {H : Host} (first : Environment)

/-- Whether a family has at most served renders. -/
structure Serves (family family' : Family) : Prop where
  members : family'.members = family.members
  catalog : family.catalog.Grows family'.catalog

theorem Serves.refl (family : Family) : family.Serves family := ⟨rfl, .refl⟩

/-- Asking for a template leaves the environments as they are. -/
theorem serves_ask (family : Family) (i : Nat) (name : String) :
    family.Serves (family.act (.ask i name)) := by
  rw [act]
  cases family.members[i]? with
  | none => exact .refl family
  | some e => exact ⟨rfl, .get _ _ _⟩

/-- So does a render of a text, whether it ends or not. -/
theorem serves_renderText (family : Family) (i fuel : Nat) (polls : Option Nat) (source : String)
    (data : Value) (host : H.State) :
    family.Serves (family.act (.renderText i fuel polls source data host)) := by
  rw [act]
  cases h : family.renderText fuel i source data host polls with
  | none => exact .refl family
  | some x =>
    obtain ⟨e, -, h⟩ := Option.bind_eq_some_iff.1 h
    obtain ⟨r, hr, h⟩ := Option.bind_eq_some_iff.1 h
    cases h
    exact ⟨rfl, e.grows_renderText hr⟩

theorem serves_renderNamed (family : Family) (i fuel : Nat) (deadline : Option Deadline)
    (name : String) (data : Value) (host : H.State) :
    family.Serves (family.act (.renderNamed i fuel deadline name data host)) := by
  rw [act]
  cases h : family.renderNamed fuel i deadline name data host with
  | none => exact .refl family
  | some x =>
    obtain ⟨e, -, h⟩ := Option.bind_eq_some_iff.1 h
    obtain ⟨r, hr, h⟩ := Option.bind_eq_some_iff.1 h
    cases h
    exact ⟨rfl, e.grows_renderNamed hr⟩

/-- Only the environment with the number is changed. -/
theorem getElem?_modify (family : Family) (i j : Nat) (change : Environment → Environment) :
    (family.modify i change).members[j]? =
      if j = i then family.members[j]?.map change else family.members[j]? := by
  show (family.members.modify i change)[j]? = _
  rw [List.getElem?_modify]
  by_cases h : j = i
  · rw [if_pos h]
    cases family.members[j]? with
    | none => rfl
    | some e => exact congrArg some (if_pos h.symm)
  · rw [if_neg h]
    cases family.members[j]? with
    | none => rfl
    | some e => exact congrArg some (if_neg fun heq => h heq.symm)

/-- A copy stands behind all others; of what is not there none is made. -/
theorem members_copy (family : Family) (i : Nat) :
    (family.copy i).members.length =
        (if i < family.members.length then family.members.length + 1
          else family.members.length) ∧
      ∀ j, (family.copy i).members[j]? =
        if j = family.members.length then family.members[i]? else family.members[j]? := by
  unfold copy
  by_cases hi : i < family.members.length
  · rw [if_pos hi, List.getElem?_eq_getElem hi]
    refine ⟨List.length_append, fun j => ?_⟩
    rw [Option.toList_some, List.getElem?_append]
    split
    · next hj => rw [if_neg (Nat.ne_of_lt hj)]
    · next hj =>
      split
      · next heq => rw [heq, Nat.sub_self, List.getElem?_cons_zero]
      · next hne =>
        -- neither is there anything behind the copy
        have hbehind : 1 ≤ j - family.members.length := by omega
        rw [List.getElem?_eq_none (Nat.le_of_not_lt hj)]
        exact List.getElem?_eq_none hbehind
  · have hnone := List.getElem?_eq_none (Nat.le_of_not_lt hi)
    rw [if_neg hi, hnone, Option.toList_none, List.append_nil]
    refine ⟨rfl, fun j => ?_⟩
    split
    · next heq => rw [heq, List.getElem?_eq_none (Nat.le_refl _)]
    · rfl

/-- An environment is what has come of the one that it was copied from, and of what has been done
with itself since. -/
theorem members_after (past : List Act) :
    (after first past).members.length = Act.count past ∧
      ∀ i, (after first past).members[i]? = Act.member? first past i := by
  -- a copy takes the next number, so how many there are is shown along with what they are
  induction past with
  | nil =>
    refine ⟨rfl, fun i => ?_⟩
    cases i with
    | zero => rfl
    | succ i => rfl
  | cons a past ih =>
    obtain ⟨hcount, hmember⟩ := ih
    cases a with
    | addTemplate | compile => exact ⟨hcount, hmember⟩
    | addModifier j name m =>
      refine ⟨(List.length_modify ..).trans hcount, fun i => ?_⟩
      rw [after, act, getElem?_modify, hmember]
      rfl
    | setOptions j options =>
      refine ⟨(List.length_modify ..).trans hcount, fun i => ?_⟩
      rw [after, act, getElem?_modify, hmember]
      rfl
    | copy j =>
      obtain ⟨hlength, hcopy⟩ := (after first past).members_copy j
      rw [hcount] at hlength hcopy
      refine ⟨hlength, fun i => ?_⟩
      rw [after, act, hcopy, hmember, hmember]
      rfl
    | renderText i fuel polls source data host =>
      rw [after, (serves_renderText _ i fuel polls source data host).members]
      exact ⟨hcount, hmember⟩
    | renderNamed i fuel deadline name data host =>
      rw [after, (serves_renderNamed _ i fuel deadline name data host).members]
      exact ⟨hcount, hmember⟩
    | ask i name =>
      rw [after, (serves_ask _ i name).members]
      exact ⟨hcount, hmember⟩

/-- The templates are those that were added last under their keys. -/
theorem holds_after (past : List Act) :
    (after first past).catalog.Holds (Act.latest? past) := by
  -- only adding a template changes the sources; a render may compile them, and nothing else
  induction past with
  | nil => exact ⟨fun _ => rfl, fun h => nomatch h⟩
  | cons a past ih =>
    cases a with
    | addTemplate name source => exact ih.add name source
    | addModifier | setOptions | copy | compile => exact ih
    | renderText i fuel polls source data host =>
      exact ih.grows (serves_renderText _ i fuel polls source data host).catalog
    | renderNamed i fuel deadline name data host =>
      exact ih.grows (serves_renderNamed _ i fuel deadline name data host).catalog
    | ask i name => exact ih.grows (serves_ask _ i name).catalog

end Family

/-! ## Renders with the same sources -/

section Afresh

variable {H : Host} {L : H.Likeness} {sources : String → Option String}

theorem Rendered.SameEnd.const {r r' : Rendered H} (h : r.Same L r') :
    SameEnd L (fun _ => some r) (fun _ => some r') where
  left hr := ⟨0, r', rfl, Option.some.inj hr ▸ h⟩
  right hr' := ⟨0, r, rfl, Option.some.inj hr' ▸ h⟩

namespace Environment

variable (e : Environment) {c c' : Catalog} (hL : L.Kept fun _ => Eq) (hc : c.Holds sources)
  (hc' : c'.Holds sources) {s s' : H.State} (hs : L.state s s')
include hL hc hc' hs

end Environment

end Afresh

namespace Family

section Ended

variable {H : Host} {family : Family} {i : Nat} {e : Environment}
  (h : family.members[i]? = some e) (fuel : Nat) (data : Value) (host : H.State)
include h

end Ended

/-- A template is asked for through a copy of its environment, and then replaced under another form
of its name. -/
def replaced : List Act :=
  [.addTemplate "t.txt" "new", .ask 1 "t", .copy 0, .addTemplate "t" "old"]

/-- What has been compiled is kept until its source is replaced. -/
theorem compiled_act (family : Family) {a : Act} {key : String} (ha : ¬ a.Adds key) {s : Scope}
    (h : family.catalog.compiled.lookup key = some s) :
    (family.act a).catalog.compiled.lookup key = some s := by
  cases a with
  | addTemplate name source =>
    show (Catalog.without family.catalog.compiled (normalizeName name)).lookup key = some s
    rw [Catalog.lookup_without]
    exact (if_neg ha).trans h
  | addModifier | setOptions | copy | compile => exact h
  | renderText i fuel polls source data host =>
    exact (serves_renderText _ i fuel polls source data host).catalog.compiled h
  | renderNamed i fuel deadline name data host =>
    exact (serves_renderNamed _ i fuel deadline name data host).catalog.compiled h
  | ask i name => exact (serves_ask _ i name).catalog.compiled h

/-- Whether errors of the directives of a template are placed is decided when the template is first
asked for, by the environment that asks: it is compiled with the `debug` option of that environment,
and then kept for all environments, whatever their options are or become, until its source is
replaced. -/
theorem places_of_first_use (first : Environment) (past : List Act) :
    (∀ key s, (after first past).catalog.compiled.lookup key = some s →
      ∃ source debug, Act.latest? past key = some source ∧
        Scope.compileText debug source = .ok s ∧ s.Positioned debug) ∧
    (∀ i e name source s, Act.member? first past i = some e →
      Act.latest? past (normalizeName name) = some source →
      (after first past).catalog.compiled.lookup (normalizeName name) = none →
      Scope.compileText e.options.debug source = .ok s →
        s.Positioned e.options.debug ∧ (after first (.ask i name :: past)).catalog.compiled.lookup
          (normalizeName name) = some s) ∧
    ∀ later key s, (after first past).catalog.compiled.lookup key = some s →
      (∀ a ∈ later, ¬ Act.Adds key a) →
        (after first (later ++ past)).catalog.compiled.lookup key = some s := by
  have hholds := holds_after first past
  refine ⟨fun key s h => ?_, fun i e name source s he hsource hnone hs => ?_, ?_⟩
  · obtain ⟨source, hsource, debug, hdebug⟩ := hholds.compiled h
    exact ⟨source, debug, hsource, hdebug, Scope.positioned_compileText hdebug⟩
  · -- nothing is compiled under the key yet, so this environment compiles the source, with its own
    -- option
    refine ⟨Scope.positioned_compileText hs, ?_⟩
    have hmember := ((members_after first past).2 i).trans he
    have hget : ((after first past).catalog.get e.options.debug name).2 =
        { (after first past).catalog with
          compiled := (normalizeName name, s) :: (after first past).catalog.compiled } := by
      unfold Catalog.get
      dsimp only
      rw [hnone, hholds.source, hsource]
      dsimp only
      rw [hs]
    rw [after, act, hmember]
    show List.lookup _ (Catalog.get _ _ _).2.compiled = some s
    rw [hget]
    exact List.lookup_cons_self
  · intro later key s h hlater
    induction later with
    | nil => exact h
    | cons a later ih =>
      rw [List.forall_mem_cons] at hlater
      exact compiled_act _ hlater.1 (ih hlater.2)

/-- A template that calls a function is asked for, and then its environment asks for details. -/
def askedBefore : List Act :=
  [.setOptions 0 ⟨true, none⟩, .ask 0 "t", .addTemplate "t" Segment.callSource]

/-- What `Segment.callSource` compiles to when details of errors are asked for. -/
def callOutputPlaced : Scope :=
  .mk [.output ⟨none, [⟨none, "f", [[.lookup "x"]], none, some .start⟩], [], some .start⟩ [.slot 0]]

/-- A template that has not been compiled yet is, and is kept. -/
theorem get_callSource {debug : Bool} {s : Scope}
    (h : Scope.compileText debug Segment.callSource = .ok s) :
    (Catalog.mk [("t", Segment.callSource)] []).get debug "t" =
      (.ok s, ⟨[("t", Segment.callSource)], [("t", s)]⟩) := by
  have hname : normalizeName "t" = "t" := by cbv
  rw [Catalog.get, hname]
  dsimp only
  rw [List.lookup_nil, List.lookup_cons_self]
  dsimp only
  rw [h]

/-- The template is kept as it was compiled without details. An error of its function has no place
then, though the environment asks for details by now; it has one if the template is compiled
anew. -/
theorem place_missing_after_first_use :
    let data := Value.object (.given 0) (.ofList [("f", .function 1)])
    let family := after (.ofOptions .default) askedBefore
    (family.members[0]?).map (·.options.debug) = some true ∧
      (family.renderNamed (H := Host.failing) 9 0 none "t" data ()).map (·.1) =
        some (.error (.render (.callback "boom"))) ∧
      ((Environment.ofOptions ⟨true, none⟩).renderNamed (H := Host.failing) 9 none
        ⟨[("t", Segment.callSource)], []⟩ "t" data ()).map (·.outcome) =
          some (.error (.render (.located .start (.callback "boom")))) := by
  intro data family
  have hname : normalizeName "t" = "t" := by cbv
  have hadded : after (.ofOptions .default) [.addTemplate "t" Segment.callSource] =
      ⟨⟨[("t", Segment.callSource)], []⟩, [.ofOptions .default]⟩ := by
    show (Family.single _).addTemplate "t" Segment.callSource = _
    unfold addTemplate Catalog.add
    rw [hname]
    rfl
  have hfamily : family =
      ⟨⟨[("t", Segment.callSource)], [("t", .callOutput)]⟩, [.ofOptions ⟨true, none⟩]⟩ := by
    show ((after (.ofOptions .default) [.addTemplate "t" Segment.callSource]).act (.ask 0 "t")).act
      (.setOptions 0 ⟨true, none⟩) = _
    rw [hadded]
    show (Family.mk (Catalog.get _ false "t").2 [.ofOptions .default]).act _ = _
    rw [get_callSource Scope.compileText_callSource]
    rfl
  have hplaced : Scope.compileText true Segment.callSource = .ok callOutputPlaced := by
    rw [Scope.compileText, Segment.parse_callSource]
    cbv
  refine ⟨?_, ?_, ?_⟩
  · rw [hfamily]
    rfl
  · rw [hfamily]
    cbv
  · unfold Environment.renderNamed
    rw [show (Environment.ofOptions ⟨true, none⟩).options.debug = true from rfl,
      get_callSource hplaced]
    cbv

end Family

end Stencil
