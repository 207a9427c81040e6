import Stencil.Proofs.Expr.Tree
import Stencil.Proofs.Scope.Slots

/-!
# Stencil.Proofs.Scope.Single — formulas that leave one value

`Formula.height` follows the height of the stack through a formula, whatever the values on it
are. A formula is single when it adds one value to any stack: its evaluation never lacks an
operand and leaves just its value (`Formula.Ready.proper`).

The postorder of a tree is left as a single formula when its calls are taken out, and so are the
arguments of these calls, at any depth (`Formula.single_tree`). Together with the order of the
calls this makes formulas ready to be evaluated where they stand (`Formula.ready_ofPostfix`).
-/

namespace Stencil

/-! ## The height of the stack -/

/-- The height of the stack behind a step in front of which it is `n`; none when the step lacks an
operand. -/
def Op.height : Op → Nat → Option Nat
  | .value _, n | .lookup _, n | .slot _, n => some (n + 1)
  | .binary _, n + 2 => some (n + 1)
  | .negate _, n + 1 => some (n + 1)
  | .binary _, _ | .negate _, _ => none

namespace Formula

/-- The height of the stack behind a formula. -/
def height (f : Formula) (n : Nat) : Option Nat := f.foldlM (fun n op => op.height n) n

/-- Whether the formula adds one value to any stack. -/
def Single (f : Formula) : Prop := ∀ n, f.height n = some (n + 1)

/-- Whether the formula leaves one value when the results of `n` calls are there, and reads only
these. -/
def Ready (n : Nat) (f : Formula) : Prop := f.Within n ∧ f.Single

/-- An evaluation that finds every result it reads and leaves just one value on the stack. -/
def Proper (f : Formula) (frame : Frame) (slots : List Value) : Prop :=
  f.Within slots.length ∧ ∃ v, f.foldlM (step frame slots) [] = .ok [v]

/-- An operation that has enough on the stack succeeds, and leaves as many values as it says. -/
theorem exists_step {op : Op} {n m : Nat} (h : op.height n = some m) (frame : Frame)
    (slots : List Value) {stack : List Value} (hs : stack.length = n) :
    ∃ stack', step frame slots stack op = .ok stack' ∧ stack'.length = m := by
  cases op with
  | value v =>
    cases h
    exact ⟨v :: stack, rfl, by rw [List.length_cons, hs]⟩
  | lookup path =>
    cases h
    exact ⟨frame.lookup path :: stack, rfl, by rw [List.length_cons, hs]⟩
  | slot i =>
    cases h
    exact ⟨slots.getD i .undefined :: stack, rfl, by rw [List.length_cons, hs]⟩
  | binary op =>
    rcases stack with _ | ⟨b, _ | ⟨a, stack⟩⟩
    · -- with fewer than two values the height is not defined
      subst hs
      cases h
    · subst hs
      cases h
    · subst hs
      cases h
      exact ⟨op.onValues a b :: stack, rfl, List.length_cons⟩
  | negate n =>
    rcases stack with _ | ⟨v, stack⟩
    · subst hs
      cases h
    · subst hs
      cases h
      exact ⟨n.onValue v :: stack, rfl, List.length_cons⟩

/-- An evaluation that never lacks an operand ends, with a stack as high as foreseen. -/
theorem exists_foldlM {f : Formula} {n m : Nat} (h : f.height n = some m) (frame : Frame)
    (slots : List Value) {stack : List Value} (hs : stack.length = n) :
    ∃ stack', f.foldlM (step frame slots) stack = .ok stack' ∧ stack'.length = m := by
  induction f generalizing n stack with
  | nil =>
    cases h
    exact ⟨stack, rfl, hs⟩
  | cons op f ih =>
    obtain ⟨k, hk, hrest⟩ := Option.bind_eq_some_iff.1 h
    obtain ⟨stack₁, hstep, hlen⟩ := exists_step hk frame slots hs
    obtain ⟨stack₂, hfold, hlen₂⟩ := ih hrest hlen
    refine ⟨stack₂, ?_, hlen₂⟩
    rw [List.foldlM_cons, hstep]
    exact hfold

/-- A formula that is ready is evaluated properly in every frame. -/
theorem Ready.proper {f : Formula} {slots : List Value} (h : f.Ready slots.length)
    (frame : Frame) : f.Proper frame slots := by
  obtain ⟨stack, hfold, hlen⟩ := exists_foldlM (h.2 0) frame slots List.length_nil
  obtain ⟨v, rfl⟩ := List.length_eq_one_iff.1 hlen
  exact ⟨h.1, v, hfold⟩

/-- A proper evaluation has a value. -/
theorem Proper.exists_eval {f : Formula} {frame : Frame} {slots : List Value}
    (h : f.Proper frame slots) : ∃ v, f.eval frame slots = .ok v := by
  obtain ⟨-, v, hv⟩ := h
  refine ⟨v, ?_⟩
  rw [eval, hv]
  rfl

/-- A formula that is ready for some slots is so for more of them. -/
theorem Ready.mono {m n : Nat} {f : Formula} (h : f.Ready m) (hmn : m ≤ n) : f.Ready n :=
  ⟨h.1.mono hmn, h.2⟩

/-! ## Putting formulas together -/

theorem single_value (v : Value) : Single [.value v] := fun _ => rfl

theorem single_lookup (path : String) : Single [.lookup path] := fun _ => rfl

theorem single_slot (i : Nat) : Single [.slot i] := fun _ => rfl

/-- Formulas in a row work on what the ones before leave. -/
theorem height_append (f g : Formula) (n : Nat) :
    (f ++ g).height n = (f.height n).bind g.height :=
  List.foldlM_append

theorem Single.negate {f : Formula} (h : f.Single) (n : Expr.Negation) :
    Single (f ++ [.negate n]) := by
  intro k
  rw [height_append, h k]
  rfl

theorem Single.binary {f g : Formula} (hf : f.Single) (hg : g.Single) (op : Expr.Operator) :
    Single (f ++ g ++ [.binary op]) := by
  intro k
  rw [height_append, height_append, hf k, Option.bind_some, hg (k + 1)]
  rfl

end Formula

/-! ## Trees -/

/-- Whether each argument of the call is a single formula. -/
def Call.Single (c : Call) : Prop := ∀ f ∈ c.args, f.Single

namespace Formula

variable (context : Option String) (position : Option Position)

/-- Expressions are taken apart piece by piece. -/
theorem ofPostfix_append (e e' : Expr.Postfix) (calls : List Call) :
    ofPostfix context position (e ++ e') calls =
      ((ofPostfix context position e calls).1 ++
          (ofPostfix context position e' (ofPostfix context position e calls).2).1,
        (ofPostfix context position e' (ofPostfix context position e calls).2).2) := by
  induction e generalizing calls with
  | nil => simp [ofPostfix]
  | cons t e ih =>
    cases t with
    | call path args property =>
      rw [List.cons_append, ofPostfix_call, ofPostfix_call, ih]
      rfl
    | literal | path | operator | negate | opening | closing | separator =>
      rw [List.cons_append]
      simp only [ofPostfix, ih, List.cons_append]

/-- Taking calls out leaves single formulas, and adds only calls with such arguments. -/
def Singles (calls after : List Call) (formulas : List Formula) : Prop :=
  (∀ f ∈ formulas, f.Single) ∧ ((∀ c ∈ calls, c.Single) → ∀ c ∈ after, c.Single)

/-- A formula that needs no calls is one of its own. -/
theorem Singles.of_single {f : Formula} (h : f.Single) (calls : List Call) :
    Singles calls calls [f] := by
  refine ⟨fun g hg => ?_, id⟩
  rw [List.mem_singleton.1 hg]
  exact h

theorem Singles.single {calls after : List Call} {f : Formula} (h : Singles calls after [f]) :
    f.Single :=
  h.1 f (List.mem_singleton_self f)

mutual

/-- The postorder of a term is left as a single formula. -/
theorem single_term : ∀ (a : Expr.Term) (calls : List Call),
    Singles calls (ofPostfix context position a.postorder calls).2
      [(ofPostfix context position a.postorder calls).1]
  | .literal l, calls => by
    rw [Expr.Term.postorder, ofPostfix, ofPostfix]
    exact Singles.of_single (single_value l.value) calls
  | .path p, calls => by
    rw [Expr.Term.postorder, ofPostfix, ofPostfix]
    exact Singles.of_single (single_lookup p) calls
  | .call p args property, calls => by
    obtain ⟨hargs, hcalls⟩ := single_list args calls
    rw [Expr.Term.postorder, ofPostfix_call, ofPostfix]
    refine ⟨(Singles.of_single (single_slot _) calls).1, fun h c hc => ?_⟩
    -- behind the calls in its arguments there is the call itself
    rcases List.mem_append.1 hc with hc | hc
    · exact hcalls h c hc
    · rw [List.mem_singleton.1 hc]
      exact hargs
  | .group body, calls => by
    rw [Expr.Term.postorder]
    exact single_tree body calls
termination_by structural a => a

/-- What an operand is compiled to leaves one value. -/
theorem single_operand : ∀ (a : Option Expr.Negation × Expr.Term) (calls : List Call),
    Singles calls (ofPostfix context position (Expr.operandPostorder a) calls).2
      [(ofPostfix context position (Expr.operandPostorder a) calls).1]
  | (none, a), calls => by
    rw [Expr.operandPostorder]
    exact single_term a calls
  | (some n, a), calls => by
    have ha := single_term a calls
    rw [Expr.operandPostorder]
    split
    · rw [ofPostfix, ofPostfix]
      exact Singles.of_single (single_value _) calls
    · rw [ofPostfix_append, ofPostfix, ofPostfix]
      exact ⟨(Singles.of_single (ha.single.negate n) calls).1, ha.2⟩
termination_by structural a => a

/-- So does what a tree is compiled to. -/
theorem single_tree : ∀ (t : Expr.Tree) (calls : List Call),
    Singles calls (ofPostfix context position (Expr.Tree.postorder t) calls).2
      [(ofPostfix context position (Expr.Tree.postorder t) calls).1]
  | .operand a, calls => by
    rw [Expr.Tree.postorder]
    exact single_operand a calls
  | .node op l r, calls => by
    have hl := single_tree l calls
    have hr := single_tree r (ofPostfix context position (Expr.Tree.postorder l) calls).2
    rw [Expr.Tree.postorder, ofPostfix_append, ofPostfix_append, ofPostfix, ofPostfix]
    exact ⟨(Singles.of_single (hl.single.binary hr.single op) calls).1, fun h => hr.2 (hl.2 h)⟩
termination_by structural t => t

/-- So do arguments, each of them. -/
theorem single_list : ∀ (ts : List Expr.Tree) (calls : List Call),
    Singles calls (ofArguments context position (Expr.listPostorder ts) calls).2
      (ofArguments context position (Expr.listPostorder ts) calls).1
  | [], calls => by
    rw [Expr.listPostorder, ofArguments]
    exact ⟨fun _ hf => (nomatch hf), id⟩
  | t :: ts, calls => by
    have ht := single_tree t calls
    have hts := single_list ts (ofPostfix context position (Expr.Tree.postorder t) calls).2
    rw [Expr.listPostorder, ofArguments_cons]
    refine ⟨fun f hf => ?_, fun h => hts.2 (ht.2 h)⟩
    cases hf with
    | head => exact ht.single
    | tail _ hf => exact hts.1 f hf
termination_by structural ts => ts

end

end Formula

/-! ## Directives -/

/-- Whether the expression is a tree in postfix order. -/
def Expr.Postfix.IsTree (e : Expr.Postfix) : Prop := ∃ t, Expr.Tree.postorder t = e

/-- The postfix order of a phrase is that of a tree. -/
theorem Expr.Phrase.isTree_toPostfix (e : Expr.Phrase) : e.toPostfix.IsTree :=
  ⟨e.tree, e.postorder_tree⟩

/-- Trees in postfix order are the postfix order of a list of trees. -/
theorem Expr.exists_listPostorder {es : List Expr.Postfix} (h : ∀ e ∈ es, e.IsTree) :
    ∃ ts, listPostorder ts = es := by
  induction es with
  | nil => exact ⟨[], by rw [listPostorder]⟩
  | cons e es ih =>
    obtain ⟨t, ht⟩ := h e List.mem_cons_self
    obtain ⟨ts, hts⟩ := ih fun e he => h e (List.mem_cons_of_mem _ he)
    exact ⟨t :: ts, by rw [listPostorder, ht, hts]⟩

/-- Whether calls are ready to be made one after the other: each reads only results of those
before it, and all arguments are single formulas. -/
def Call.Ready (calls : List Call) : Prop := Call.InOrder 0 calls ∧ ∀ c ∈ calls, c.Single

theorem Call.ready_nil : Call.Ready [] := ⟨trivial, fun _ hc => nomatch hc⟩

namespace Formula

variable (context : Option String) (position : Option Position)

/-- Calls that are taken out of ready ones are ready, and so is what they leave. -/
theorem Hoists.ready {calls after : List Call} {formulas : List Formula}
    (h : Hoists calls after formulas) (hs : Singles calls after formulas)
    (hc : Call.Ready calls) :
    Call.Ready after ∧ calls.length ≤ after.length ∧ ∀ f ∈ formulas, f.Ready after.length := by
  obtain ⟨new, rfl, hnew, hwithin⟩ := h
  refine ⟨⟨Call.inOrder_append.2 ⟨hc.1, ?_⟩, hs.2 hc.2⟩, ?_, fun f hf => ⟨hwithin f hf, hs.1 f hf⟩⟩
  · rw [Nat.zero_add]
    exact hnew
  · rw [List.length_append]
    exact Nat.le_add_right ..

/-- An expression becomes a formula that is ready once the calls in the list are made. -/
theorem ready_ofPostfix {e : Expr.Postfix} (he : e.IsTree) {calls : List Call}
    (hc : Call.Ready calls) :
    Call.Ready (ofPostfix context position e calls).2 ∧
      calls.length ≤ (ofPostfix context position e calls).2.length ∧
      (ofPostfix context position e calls).1.Ready
        (ofPostfix context position e calls).2.length := by
  obtain ⟨t, rfl⟩ := he
  obtain ⟨hready, hle, hf⟩ := (ofPostfix_spec context position _ calls).ready
    (single_tree context position t calls) hc
  exact ⟨hready, hle, hf _ (List.mem_singleton_self _)⟩

/-- The arguments of the modifiers of a directive are ready once the calls of the directive are
made. -/
theorem ready_ofModifiers {ms : List ModifierCall} (hms : ∀ m ∈ ms, ∀ e ∈ m.args, e.IsTree)
    {calls : List Call} (hc : Call.Ready calls) :
    Call.Ready (ofModifiers context position ms calls).2 ∧
      calls.length ≤ (ofModifiers context position ms calls).2.length ∧
      ∀ m ∈ (ofModifiers context position ms calls).1, ∀ f ∈ m.args,
        f.Ready (ofModifiers context position ms calls).2.length := by
  induction ms generalizing calls with
  | nil => exact ⟨hc, Nat.le_refl _, fun _ hm => nomatch hm⟩
  | cons m ms ih =>
    obtain ⟨ts, hts⟩ := Expr.exists_listPostorder (hms m List.mem_cons_self)
    obtain ⟨hready, hle, hargs⟩ := (ofArguments_spec context position m.args calls).ready
      (hts ▸ single_list context position ts calls) hc
    obtain ⟨hready', hle', hrest⟩ := ih (fun m hm => hms m (List.mem_cons_of_mem _ hm)) hready
    refine ⟨hready', Nat.le_trans hle hle', fun n hn f hf => ?_⟩
    cases hn with
    | head => exact (hargs f hf).mono hle'
    | tail _ hn => exact hrest n hn f hf

end Formula

end Stencil
