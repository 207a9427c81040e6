import Stencil.Proofs.Except
import Stencil.Proofs.Scope.Like

/-!
# Stencil.Proofs.Scope.Similar — like scopes do the same

Scopes that are alike and within reach do the same on frames that agree there
(`Scope.Like.similar_run`): each call, each part of a directive and each step does.
-/

namespace Stencil

section Parts

variable {F : Reach → Frame → Frame → Prop} (hF : Frame.Kinship F) {N : Reach → String → Prop}
  {T : String → Scope → Prop} {r : Reach} {f f' : Frame} (hf : F r f f')
include hF hf

/-! ## Evaluation -/

/-- A formula within reach comes to the same in frames that are akin. -/
theorem Formula.InReach.eval {formula : Formula} (h : formula.InReach r) (slots : List Value) :
    Evaluator.eval formula f slots = Evaluator.eval formula f' slots := by
  have hfold : ∀ stack : List Value,
      formula.foldlM (step f slots) stack = formula.foldlM (step f' slots) stack := by
    induction formula with
    | nil => exact fun _ => rfl
    | cons op ops ih =>
      intro stack
      -- only lookups see the frame
      have hop : step f slots stack op = step f' slots stack op := by
        cases op with
        | lookup path =>
          show Except.ok (f.lookup path :: stack) = _
          rw [hF.lookup hf (h path List.mem_cons_self)]
          rfl
        | value | slot | binary | negate => rfl
      rw [List.foldlM_cons, List.foldlM_cons, hop]
      exact bind_congr fun stack => ih (fun path hp => h path (List.mem_cons_of_mem _ hp)) stack
  show formula.eval f slots = formula.eval f' slots
  unfold Formula.eval
  rw [hfold]

theorem Formula.InReach.mapM_eval {formulas : List Formula} (h : ∀ g ∈ formulas, g.InReach r)
    (slots : List Value) :
    (formulas.mapM fun g => Evaluator.eval g f slots) =
      formulas.mapM fun g => Evaluator.eval g f' slots :=
  Except.mapM_congr fun g hg => (h g hg).eval hF hf slots

theorem PendingModifier.apply_eq {m : PendingModifier} (h : ∀ g ∈ m.args, g.InReach r)
    (slots : List Value) : m.apply f slots = m.apply f' slots := by
  unfold PendingModifier.apply
  rw [Formula.InReach.mapM_eval hF hf h]

/-- The modifiers of heads that are alike are read alike. -/
theorem similar_applied {h h' : Head} (hlike : h.Like h')
    (hwithin : ∀ m ∈ h.modifiers, ∀ g ∈ m.args, g.InReach r) (slots : List Value) :
    Program.Similar (Scope.kinship F N T) (Matches Eq) (h.applied f slots)
      (h'.applied f' slots) := by
  have heq : (h.modifiers.mapM fun m => m.apply f slots) =
      h'.modifiers.mapM fun m => m.apply f' slots := by
    rw [← hlike.modifiers]
    exact Except.mapM_congr fun m hm => m.apply_eq hF hf (hwithin m hm) slots
  unfold Head.applied
  rw [heq]
  exact .done (.refl (fun _ => rfl) _)

/-- They are applied alike. -/
theorem similar_modifyAll {ms : List PendingModifier}
    (hwithin : ∀ m ∈ ms, ∀ g ∈ m.args, g.InReach r) (slots : List Value) (v : Value) :
    Program.Similar (Scope.kinship F N T) (Matches Eq) (modifyAll f slots ms v)
      (modifyAll f' slots ms v) := by
  induction ms generalizing v with
  | nil => exact Action.similar_pure rfl
  | cons m ms ih =>
    have hrest : ∀ m ∈ ms, ∀ g ∈ m.args, g.InReach r :=
      fun m hm => hwithin m (List.mem_cons_of_mem _ hm)
    unfold modifyAll
    rw [m.apply_eq hF hf (hwithin m List.mem_cons_self) slots]
    refine Action.similar_bind (Action.similar_ofExcept (.refl (fun _ => rfl) _)) ?_
    rintro m _ rfl
    refine Action.similar_bind (.ask (.modify m.name v m.args) fun _ _ h => .done h) ?_
    rintro v _ rfl
    exact ih hrest v

/-- The name of a template is the same, and it is one within reach. -/
theorem similar_templateName {name : TemplateName} (hwithin : name.InReach N r)
    (slots : List Value) :
    Program.Similar (Scope.kinship F N T) (Matches fun x y => x = y ∧ N r.inner x)
      (name.eval f slots) (name.eval f' slots) := by
  cases name with
  | fixed name => exact .done (.ok ⟨rfl, hwithin⟩)
  | computed g =>
    have heq := hwithin.1.eval hF hf slots
    simp only [TemplateName.eval, heq]
    refine Action.similar_bind (Action.similar_ofExcept (.refl (fun _ => rfl) _)) ?_
    rintro v _ rfl
    exact Action.similar_pure ⟨rfl, hwithin.2 v.display⟩

/-! ## Calls -/

/-- Calls that are alike are made alike, on frames that are akin. -/
theorem Call.Like.similar_run {c c' : Call} (h : c.Like c') (hwithin : c.InReach r) (site : Site)
    (slots : List Value) :
    Program.Similar (Scope.kinship F N T) (Matches Eq) (c.run f site slots)
      (c'.run f' site slots) := by
  obtain ⟨context, path, args, property, position⟩ := c
  obtain ⟨_, _, _, _, position'⟩ := c'
  -- they differ in nothing but their places
  obtain ⟨rfl, rfl, rfl, rfl⟩ := h
  obtain ⟨hcontext, hpath, hargs⟩ := hwithin
  have htarget := hF.reroot hf hcontext site
  unfold Call.run
  dsimp only at hpath hargs htarget ⊢
  rw [hF.lookup htarget hpath, Formula.InReach.mapM_eval hF htarget hargs]
  cases (f'.reroot site context).lookup path with
  | function i =>
    refine Action.similar_bind (Action.similar_ofExcept (.refl (fun _ => rfl) _)) ?_
    rintro args _ rfl
    have hcall : Program.Similar (Scope.kinship F N T) (Matches Eq)
        (Action.call i (f.reroot site context) args)
        (Action.call i (f'.reroot site context) args) :=
      .ask (.call (K := Scope.kinship F N T) i args htarget) fun _ _ h => .done h
    refine Action.similar_bind hcall ?_
    rintro v _ rfl
    exact Action.similar_pure rfl
  | undefined | null | bool | number | text | array | object => exact .done (.error rfl)

theorem Call.similar_runAll {cs cs' : List Call} (h : List.Forall₂ Call.Like cs cs')
    (hwithin : ∀ c ∈ cs, c.InReach r) (site : Site) (slots : List Value) :
    Program.Similar (Scope.kinship F N T) (Matches Eq) (Call.runAll f site cs slots)
      (Call.runAll f' site cs' slots) := by
  induction h generalizing slots with
  | nil => exact Action.similar_pure rfl
  | cons hc _ ih =>
    have hrun := hc.similar_run (N := N) (T := T) hF hf (hwithin _ List.mem_cons_self)
      (.call site slots.length) slots
    refine Action.similar_bind (Action.similar_locate hrun _ _) ?_
    rintro v _ rfl
    exact ih (fun c hc => hwithin c (List.mem_cons_of_mem _ hc)) _

/-! ## Work shared by steps -/

/-- Passes over the same entries are made alike. -/
theorem similar_runEntries {body body' : Frame → Site → Action Unit}
    (hbody : ∀ g g' site, F r.inner g g' → Program.Similar (Scope.kinship F N T) (Matches Eq)
      (body g site) (body' g' site)) (site : Site) (es : Entries) :
    Program.Similar (Scope.kinship F N T) (Matches Eq) (runEntries body f site es)
      (runEntries body' f' site es) := by
  fun_induction runEntries body f site es with
  | case1 es h =>
    rw [runEntries.eq_def]
    split
    · exact Action.similar_pure rfl
    · next hsome =>
      rw [h] at hsome
      cases hsome
  | case2 es p rest h ih =>
    rw [runEntries.eq_def body' f' site es]
    split
    · next hnone =>
      rw [h] at hnone
      cases hnone
    · next hsome =>
      rw [h] at hsome
      cases hsome
      exact Action.similar_bind (hbody _ _ _ (hF.push _ hf)) fun _ _ _ => ih

/-- So are the passes that a value asks for. -/
theorem similar_runIteration {body body' : Frame → Site → Action Unit}
    (hbody : ∀ g g' site, F r.inner g g' → Program.Similar (Scope.kinship F N T) (Matches Eq)
      (body g site) (body' g' site)) (collection : Value) (site : Site) :
    Program.Similar (Scope.kinship F N T) (Matches Eq) (runIteration collection f site body)
      (runIteration collection f' site body') := by
  refine Action.similar_bind (Action.similar_ofExcept (.refl (fun _ => rfl) _)) ?_
  rintro es _ rfl
  exact similar_runEntries hF hf hbody site es

/-- Bodies that correspond are handed to the same function. -/
theorem similar_runCustom {path : String} (hpath : r.Covers (Path.ofString path).anchor)
    {bodies bodies' : List Scope}
    (hbodies : List.Forall₂ ((Scope.kinship F N T).scopes r) bodies bodies') (channel : Channel)
    (site : Site) :
    Program.Similar (Scope.kinship F N T) (Matches Eq) (runCustom channel path f site bodies)
      (runCustom channel path f' site bodies') := by
  have hblock : (Scope.kinship F N T).Blocks r ⟨channel, f, site, bodies⟩
      ⟨channel, f', site, bodies'⟩ := ⟨rfl, rfl, hf, hbodies⟩
  unfold runCustom
  rw [hF.lookup hf hpath]
  cases f'.lookup path with
  | function i => exact .ask (.custom i hblock) fun _ _ h => .done h
  | undefined | null | bool | number | text | array | object => exact Action.similar_pure rfl

/-- Templates within reach are included alike. -/
theorem similar_runTemplate {name : String} (hname : N r.inner name) (channel : Channel)
    (site : Site) :
    Program.Similar (Scope.kinship F N T) (Matches Eq) (runTemplate channel name f site)
      (runTemplate channel name f' site) := by
  have htemplate : Program.Similar (Scope.kinship F N T)
      (Matches ((Scope.kinship F N T).scopes r.inner)) (Action.template name)
      (Action.template name) :=
    .ask (.template (K := Scope.kinship F N T) hname) fun _ _ h => .done h
  refine Action.similar_bind htemplate fun s s' hs => ?_
  exact .ask (.enter channel (.part site 0) hs (hF.named name hf)) fun _ _ h => .done h

end Parts

/-- Fragments that stand for one another, rendered over the same data. -/
theorem similar_runFragment {F : Reach → Frame → Frame → Prop} (hF : Frame.Kinship F)
    {N : Reach → String → Prop} {T : String → Scope → Prop} {x y : Fragment}
    (h : (Scope.kinship F N T).Fragments x y) (channel : Channel) (data : Value) (site : Site) :
    Program.Similar (Scope.kinship F N T) (Matches Eq) (runFragment x channel data site)
      (runFragment y channel data site) := by
  obtain ⟨hmodifiers, r, hframe, hbody⟩ := h
  unfold runFragment
  rw [hmodifiers, hF.data hframe]
  exact .ask (.enter _ _ hbody (hF.push _ hframe)) fun _ _ h => .done h

/-! ## Branches -/

section Branches

variable {F : Reach → Frame → Frame → Prop} (hF : Frame.Kinship F) {N : Reach → String → Prop}
  {T : String → Scope → Prop} {r : Reach} {f f' : Frame} (hf : F r f f')
include hF hf

/-- A directive makes its calls, and then does its work in its own place. -/
theorem Head.Like.similar_directive {α β : Type} {R : α → β → Prop} {h h' : Head}
    (hlike : h.Like h') (hwithin : h.InReach r) (site : Site) {work : List Value → Action α}
    {work' : List Value → Action β}
    (hwork : ∀ slots, Program.Similar (Scope.kinship F N T) (Matches R) (work slots)
      (work' slots)) :
    Program.Similar (Scope.kinship F N T) (Matches R)
      (Call.runAll f site h.calls [] >>= fun slots => (work slots).locate h.position : Action α)
      (Call.runAll f' site h'.calls [] >>= fun slots => (work' slots).locate h'.position :
        Action β) := by
  refine Action.similar_bind (Call.similar_runAll hF hf hlike.calls hwithin.calls site []) ?_
  rintro slots _ rfl
  exact Action.similar_locate (hwork slots) _ _

/-- Tests that are alike hold on both sides or on neither. -/
theorem Head.Like.similar_tested {h h' : Head} (hlike : h.Like h')
    (hcontext : r.CoversContext h.context) {test test' : Option Test}
    (htest : Option.Rel Test.Like test test')
    (hwithin : ∀ t, test = some t → (∀ c ∈ t.calls, c.InReach r) ∧
      t.formula.InReach (r.reroot h.context)) (site : Site) :
    Program.Similar (Scope.kinship F N T) (Matches Eq) (h.tested f site test)
      (h'.tested f' site test') := by
  cases htest with
  | none => exact Action.similar_pure rfl
  | @some t t' ht =>
    obtain ⟨hcalls, hformula⟩ := hwithin t rfl
    unfold Head.tested
    refine Action.similar_bind (Call.similar_runAll hF hf ht.calls hcalls site []) ?_
    rintro slots _ rfl
    rw [← hlike.context, ← ht.formula,
      hformula.eval hF (hF.reroot hf hcontext site) slots]
    refine Action.similar_bind (R := Eq)
      (Action.similar_locate (Action.similar_ofExcept (.refl (fun _ => rfl) _)) _ _) ?_
    rintro v _ rfl
    exact Action.similar_pure rfl

/-- Branches that are taken run alike. -/
theorem Head.Like.similar_take {h h' : Head} (hlike : h.Like h') (hwithin : h.InReach r)
    {body body' : Scope}
    (hbody : ∀ channel site g g', F (r.reroot h.context) g g' →
      Program.Similar (Scope.kinship F N T) (Matches Eq) (body.run channel g site)
        (body'.run channel g' site)) (channel : Channel) (site : Site) :
    Program.Similar (Scope.kinship F N T) (Matches Eq) (h.take channel f site body)
      (h'.take channel f' site body') := by
  have htarget := hF.reroot hf hwithin.context site
  unfold Head.take
  refine Action.similar_bind (Call.similar_runAll hF hf hlike.calls hwithin.calls _ []) ?_
  rintro slots _ rfl
  rw [← hlike.context]
  refine Action.similar_bind (R := Eq) (Action.similar_locate
    (similar_applied hF htarget hlike hwithin.modifiers slots) _ _) ?_
  rintro modifiers _ rfl
  exact hbody _ _ _ _ htarget

end Branches

/-! ## Steps -/

/-- Whether the templates whose steps may stand in place of a step that includes them look no
further out than the frame that they are given, which may then be the one around it. -/
structure Scope.InPlace (F : Reach → Frame → Frame → Prop) (N : Reach → String → Prop)
    (T : String → Scope → Prop) : Prop where
  within {name : String} {s : Scope} : T name s → s.InReach N (.hops 0)
  named {name : String} {s : Scope} : T name s → ∀ {r : Reach} {f f' : Frame}, F r f f' →
    F (.hops 0) (f.named name) f'

section Steps

variable {F : Reach → Frame → Frame → Prop} {N : Reach → String → Prop}
  {T : String → Scope → Prop}

/-- A step that includes a template asks for it and enters it. -/
theorem Head.Plain.run_inclusion {h : Head} (hplain : h.Plain) (channel : Channel) (f : Frame)
    (site : Site) (name : String) :
    (Step.inclusion h (.fixed name)).run channel f site =
      (runTemplate channel name f site).locate h.position := by
  obtain ⟨_, _, _, position⟩ := h
  obtain ⟨rfl, rfl, rfl⟩ := hplain
  rfl

/-- A branch that is always taken is all that is run of a choice that starts with it. -/
theorem Test.Holds.run_choice {h : Head} (hplain : h.Plain) {test : Test} (htest : test.Holds)
    (channel : Channel) (f : Frame) (site : Site) (body : Scope) (others : List Alternative) :
    (Step.choice (.mk h (some test) body :: others)).run channel f site =
      body.run channel f (.part site 0) := by
  obtain ⟨_, _, _, position⟩ := h
  obtain ⟨rfl, rfl, rfl⟩ := hplain
  obtain ⟨calls, formula⟩ := test
  obtain ⟨rfl, hformula⟩ := htest
  obtain ⟨v, heval, hv⟩ := hformula f
  have htested : Head.tested f (.part site 0) ⟨none, [], [], position⟩ (some ⟨[], formula⟩) =
      (pure true : Action Bool) := by
    show ((Action.ofExcept (formula.eval f [])).locate position >>= fun v => pure v.truthy) = _
    rw [heval, ← hv]
    rfl
  rw [Step.run, runChoice_cons, htested]
  rfl

/-- A template that is included does what its steps do in place of the step that includes it. -/
theorem similar_inPlace (hT : Scope.InPlace F N T) {h : Head} {name : String}
    (hname : ∃ s, T name s) {r : Reach} {f f' : Frame} (hf : F r f f') {body : Scope}
    (channel : Channel) (site : Site) (hbody : ∀ s, T name s → ∀ g g', F (.hops 0) g g' →
      Program.Similar (Scope.kinship F N T) (Matches Eq) (s.run channel g (.part site 0))
        (body.run channel g' (.part site 0))) :
    Program.Similar (Scope.kinship F N T) (Matches Eq)
      ((runTemplate channel name f site).locate h.position)
      (body.run channel f' (.part site 0)) := by
  refine .templateLeft hname fun s hs => .enterLeft ?_
  have hplaced : ∀ o o' : Except RenderError Unit, Matches Eq o o' →
      Program.Similar (Scope.kinship F N T) (Matches Eq)
        (Program.done (o.mapError (·.locate h.position))) (Program.done o') :=
    fun _ _ ho => .done (ho.locate_left h.position)
  have hrun := (hbody s hs _ _ (hT.named hs hf)).bind hplaced
  rw [Program.bind_pure] at hrun
  exact hrun

mutual

/-- Steps that are alike do the same. -/
theorem Step.Like.similar_run (hF : Frame.Kinship F) (hT : Scope.InPlace F N T) {s s' : Step}
    (h : s.Like T s') {r : Reach} (hs : s.InReach N r)
    {f f' : Frame} (hf : F r f f') (channel : Channel) (site : Site) :
    Program.Similar (Scope.kinship F N T) (Matches Eq) (s.run channel f site)
      (s'.run channel f' site) := by
  -- an inclusion is like an inclusion, or like the segments in its place
  cases h with
  | text s =>
    rw [Step.run]
    exact Channel.similar_write _ channel s
  | @output h h' value hh =>
    obtain ⟨hhead, hvalue⟩ := hs
    have htarget := hF.reroot hf hhead.context site
    rw [Step.run, Step.run]
    refine hh.similar_directive hF hf hhead site fun slots => ?_
    dsimp only
    rw [← hh.context, ← hh.modifiers, hvalue.eval hF htarget slots]
    refine Action.similar_bind (Action.similar_ofExcept (.refl (fun _ => rfl) _)) ?_
    rintro v _ rfl
    refine Action.similar_bind (similar_modifyAll hF htarget hhead.modifiers slots v) ?_
    rintro v _ rfl
    exact Channel.similar_write _ channel v.display
  | choice has =>
    rw [Step.run, Step.run]
    exact has.similar_runChoice hF hT hs hf channel site 0
  | @iterate h h' body body' collection hh hbody =>
    obtain ⟨hhead, hcollection, hwithin⟩ := hs
    have htarget := hF.reroot hf hhead.context site
    rw [Step.run, Step.run]
    refine hh.similar_directive hF hf hhead site fun slots => ?_
    dsimp only
    rw [← hh.context, hcollection.eval hF htarget slots]
    refine Action.similar_bind (Action.similar_ofExcept (.refl (fun _ => rfl) _)) ?_
    rintro collection _ rfl
    refine Action.similar_bind (similar_applied hF htarget hh hhead.modifiers slots) ?_
    rintro modifiers _ rfl
    refine similar_runIteration hF htarget (fun g g' site hg => ?_) collection site
    exact hbody.similar_run hF hT hwithin hg _ site
  | @custom h h' bodies bodies' path hh hbodies =>
    obtain ⟨hhead, hpath, hwithin⟩ := hs
    have htarget := hF.reroot hf hhead.context site
    rw [Step.run, Step.run]
    refine hh.similar_directive hF hf hhead site fun slots => ?_
    dsimp only
    rw [← hh.context]
    refine Action.similar_bind (similar_applied hF htarget hh hhead.modifiers slots) ?_
    rintro modifiers _ rfl
    exact similar_runCustom hF htarget hpath (hbodies.forall₂ hwithin) _ site
  | @declare h h' body body' name hh hbody =>
    obtain ⟨hhead, hwithin⟩ := hs
    have htarget := hF.reroot hf hhead.context site
    rw [Step.run, Step.run]
    refine Action.similar_bind (Call.similar_runAll hF hf hh.calls hhead.calls site []) ?_
    rintro slots _ rfl
    unfold Head.declareNamed
    rw [← hh.context]
    refine Action.similar_bind (R := Eq)
      (Action.similar_locate (similar_applied hF htarget hh hhead.modifiers slots) _ _) ?_
    rintro modifiers _ rfl
    have hfragments : (Scope.kinship F N T).Fragments
        ⟨f.reroot site h.context, body, modifiers⟩ ⟨f'.reroot site h.context, body', modifiers⟩ :=
      ⟨rfl, _, htarget, hbody, hwithin⟩
    exact .ask (.declare name hfragments) fun _ _ _ => .done (.ok rfl)
  | @render h h' name hh =>
    have htarget := hF.reroot hf hs.context site
    rw [Step.run, Step.run]
    refine hh.similar_directive hF hf hs site fun slots => ?_
    dsimp only
    rw [← hh.context]
    have hresolve : Program.Similar (Scope.kinship F N T)
        (Matches (Option.Rel (Scope.kinship F N T).Fragments)) (Action.resolve name)
        (Action.resolve name) := .ask (.resolve name) fun _ _ h => .done (.ok h)
    refine Action.similar_bind hresolve fun x y hxy => ?_
    cases hxy with
    | none => exact Action.similar_pure rfl
    | some hxy =>
      refine Action.similar_bind (similar_applied hF htarget hh hs.modifiers slots) ?_
      rintro modifiers _ rfl
      rw [hF.data htarget]
      exact similar_runFragment hF hxy _ _ site
  | @inclusion h h' name hh =>
    obtain ⟨hhead, hname⟩ := hs
    have htarget := hF.reroot hf hhead.context site
    rw [Step.run, Step.run]
    refine hh.similar_directive hF hf hhead site fun slots => ?_
    dsimp only
    rw [← hh.context]
    refine Action.similar_bind (similar_templateName hF htarget hname slots) ?_
    rintro name _ ⟨rfl, hname⟩
    refine Action.similar_bind (similar_applied hF htarget hh hhead.modifiers slots) ?_
    rintro modifiers _ rfl
    exact similar_runTemplate hF htarget hname _ site
  | inPlace hh hh' htest hothers hname hbody =>
    rw [hh.run_inclusion, htest.run_choice hh']
    exact similar_inPlace hT hname hf channel site fun s hs g g' hg =>
      (hbody s hs).similar_run hF hT (hT.within hs) hg channel _

/-- Choices whose branches are alike do the same. -/
theorem AlternativesLike.similar_runChoice (hF : Frame.Kinship F) (hT : Scope.InPlace F N T)
    {as as' : List Alternative} (h : AlternativesLike T as as') {r : Reach}
    (has : AlternativesInReach N r as) {f f' : Frame} (hf : F r f f') (channel : Channel)
    (site : Site) (k : Nat) :
    Program.Similar (Scope.kinship F N T) (Matches Eq) (runChoice channel f site k as)
      (runChoice channel f' site k as') := by
  cases h with
  | nil => exact Action.similar_pure rfl
  | cons hh htest hbody hrest =>
    obtain ⟨hhead, htested, hwithin, hothers⟩ := has
    rw [runChoice_cons, runChoice_cons]
    refine Action.similar_bind (hh.similar_tested hF hf hhead.context htest htested _) ?_
    rintro holds _ rfl
    cases holds with
    | true =>
      exact hh.similar_take hF hf hhead
        (fun channel site g g' hg => hbody.similar_run hF hT hwithin hg channel site) channel _
    | false => exact hrest.similar_runChoice hF hT hothers hf channel site (k + 1)

/-- Scopes that are alike do the same. -/
theorem Scope.Like.similar_run (hF : Frame.Kinship F) (hT : Scope.InPlace F N T) {s s' : Scope}
    (h : s.Like T s') {r : Reach} (hs : s.InReach N r)
    {f f' : Frame} (hf : F r f f') (channel : Channel) (site : Site) :
    Program.Similar (Scope.kinship F N T) (Matches Eq) (s.run channel f site)
      (s'.run channel f' site) := by
  cases h with
  | mk h =>
    rw [Scope.run_mk, Scope.run_mk]
    exact h.similar_runSteps hF hT hs hf channel site 0

/-- Lists of steps that are alike do the same. -/
theorem StepsLike.similar_runSteps (hF : Frame.Kinship F) (hT : Scope.InPlace F N T)
    {ss ss' : List Step} (h : StepsLike T ss ss') {r : Reach}
    (hss : StepsInReach N r ss) {f f' : Frame} (hf : F r f f') (channel : Channel) (site : Site)
    (i : Nat) :
    Program.Similar (Scope.kinship F N T) (Matches Eq) (runSteps channel f site i ss)
      (runSteps channel f' site i ss') := by
  cases h with
  | nil => exact Action.similar_pure rfl
  | cons hs hrest =>
    rw [runSteps, runSteps]
    refine Action.similar_bind (hs.similar_run hF hT hss.1 hf channel _) fun _ _ _ => ?_
    exact hrest.similar_runSteps hF hT hss.2 hf channel site (i + 1)

end

end Steps

end Stencil
