import Stencil.Proofs.Expr.Parse
import Stencil.Proofs.Segment.Parsed
import Stencil.Proofs.Walk.Settle

/-!
# Stencil.Proofs.Walk.Evaluate — what the tree of an expression comes to

`Tree.evaluate` goes through the tree of an expression and does what each node says: operands from
left to right, the arguments of a call before the call, both sides of every operator, a negation
on the truth of its operand. Nothing is taken out of its place and nothing is worked out ahead.

The expression that is parsed, whose calls are made first and whose remaining formula is evaluated
on a stack, does the same (`Expr.Tree.evaluate_hoisted`): it makes the same calls with the same
arguments in the same order, and comes to the same value or the same first error, whatever the
functions are and whenever they answer.
-/

namespace Stencil

/-! ## Evaluating trees -/

namespace Expr

mutual

/-- How many calls a term makes. -/
def Term.callCount : Term → Nat
  | .literal _ | .path _ => 0
  | .call _ args _ => listCallCount args + 1
  | .group body => Tree.callCount body
termination_by structural a => a

/-- How many calls an operand makes. -/
def operandCallCount : Option Negation × Term → Nat
  | (_, a) => a.callCount
termination_by structural a => a

/-- How many calls a tree makes. -/
def Tree.callCount : Tree → Nat
  | .operand a => operandCallCount a
  | .node _ l r => Tree.callCount l + Tree.callCount r
termination_by structural t => t

/-- How many calls a list of arguments makes. -/
def listCallCount : List Tree → Nat
  | [] => 0
  | t :: ts => Tree.callCount t + listCallCount ts
termination_by structural ts => ts

end

/-- Calls the function that `target` has at a path, and takes what is wanted of the result. -/
def invoke (target : Frame) (path : String) (args : List Value) (property : Option String) :
    Action Value :=
  match target.lookup path with
  | .function f => do
    let v ← Action.call f target args
    match property with
    | some p => return (Frame.ofData v).lookup p
    | none => return v
  | _ => throw (.notCallable path)

section Evaluate

-- each call has the directive's frame re-rooted for itself: `own k` is that of call number `k`
variable (own : Nat → Frame) (position : Option Position)

mutual

/-- The value of a term whose paths are looked up in `target`, when `n` calls are made before it;
with it comes the number of calls that are made then. A call comes behind those in its arguments,
and has these looked up in its own frame. -/
def Term.evaluate : Term → Frame → Nat → Action (Value × Nat)
  | .literal l, _, n => return (l.value, n)
  | .path p, target, n => return (target.lookup p, n)
  | .call p args property, _, n => do
    let target := own (n + listCallCount args)
    let (vs, n) ← evaluateList args target n
    let v ← (invoke target p vs property).locate position
    return (v, n + 1)
  | .group body, target, n => Tree.evaluate body target n
termination_by structural a => a

/-- The value of an operand: that of its term, or with `!` in front whether the term is not true,
and with `!!` whether it is. -/
def evaluateOperand : Option Negation × Term → Frame → Nat → Action (Value × Nat)
  | (none, a), target, n => a.evaluate target n
  | (some .not, a), target, n => do
    let (v, n) ← a.evaluate target n
    return (.bool (if v.truthy then false else true), n)
  | (some .double, a), target, n => do
    let (v, n) ← a.evaluate target n
    return (.bool (if v.truthy then true else false), n)
termination_by structural a => a

/-- The value of a tree: both sides are evaluated, the left one first. -/
def Tree.evaluate : Tree → Frame → Nat → Action (Value × Nat)
  | .operand a, target, n => evaluateOperand a target n
  | .node op l r, target, n => do
    let (v, n) ← Tree.evaluate l target n
    let (w, n) ← Tree.evaluate r target n
    return (op.onValues v w, n)
termination_by structural t => t

/-- The values of the arguments of a call, from left to right. -/
def evaluateList : List Tree → Frame → Nat → Action (List Value × Nat)
  | [], _, n => return ([], n)
  | t :: ts, target, n => do
    let (v, n) ← Tree.evaluate t target n
    let (vs, n) ← evaluateList ts target n
    return (v :: vs, n)
termination_by structural ts => ts

end

/-- What a negation makes of its operand is what a step of a formula makes of it. -/
theorem evaluateOperand_negated (m : Negation) (a : Term) (target : Frame) (n : Nat) :
    evaluateOperand own position (some m, a) target n = (do
      let (v, n) ← a.evaluate own position target n
      return (m.onValue v, n)) := by
  cases m with
  | not =>
    rw [evaluateOperand]
    refine bind_congr fun ⟨v, n⟩ => ?_
    cases h : v.truthy <;> simp [h, Negation.onValue, Negation.apply]
  | double =>
    rw [evaluateOperand]
    refine bind_congr fun ⟨v, n⟩ => ?_
    cases h : v.truthy <;> simp [h, Negation.onValue, Negation.apply]

/-! ## Counting calls -/

mutual

/-- Evaluating a term counts its calls. -/
theorem Term.always_evaluate : ∀ (a : Term) (target : Frame) (n : Nat),
    Action.Always (fun r => r.2 = n + a.callCount) (a.evaluate own position target n)
  | .literal l, target, n => Action.always_pure rfl
  | .path p, target, n => Action.always_pure rfl
  | .call p args property, target, n => by
    have hargs := always_evaluateList args (own (n + listCallCount args)) n
    rw [Term.evaluate]
    refine hargs.bind ?_
    rintro ⟨vs, m⟩ rfl
    exact (Action.always_true _).bind fun v _ => Action.always_pure rfl
  | .group body, target, n => Tree.always_evaluate body target n
termination_by structural a => a

theorem always_evaluateOperand : ∀ (a : Option Negation × Term) (target : Frame) (n : Nat),
    Action.Always (fun r => r.2 = n + operandCallCount a) (evaluateOperand own position a target n)
  | (none, a), target, n => a.always_evaluate target n
  | (some m, a), target, n => by
    have ha := a.always_evaluate target n
    rw [evaluateOperand_negated]
    refine ha.bind ?_
    rintro ⟨v, k⟩ rfl
    exact Action.always_pure rfl
termination_by structural a => a

/-- Evaluating a tree makes as many calls as the tree has. -/
theorem Tree.always_evaluate : ∀ (t : Tree) (target : Frame) (n : Nat),
    Action.Always (fun r => r.2 = n + Tree.callCount t) (Tree.evaluate own position t target n)
  | .operand a, target, n => always_evaluateOperand a target n
  | .node op l r, target, n => by
    have hl := Tree.always_evaluate l target n
    have hr := Tree.always_evaluate r target (n + Tree.callCount l)
    rw [Tree.evaluate]
    refine hl.bind ?_
    rintro ⟨v, k⟩ rfl
    refine hr.bind ?_
    rintro ⟨w, k⟩ rfl
    exact Action.always_pure (Nat.add_assoc ..)
termination_by structural t => t

theorem always_evaluateList : ∀ (ts : List Tree) (target : Frame) (n : Nat),
    Action.Always (fun r => r.2 = n + listCallCount ts) (evaluateList own position ts target n)
  | [], target, n => Action.always_pure rfl
  | t :: ts, target, n => by
    have ht := Tree.always_evaluate t target n
    have hts := always_evaluateList ts target (n + Tree.callCount t)
    rw [evaluateList]
    refine ht.bind ?_
    rintro ⟨v, k⟩ rfl
    refine hts.bind ?_
    rintro ⟨vs, k⟩ rfl
    exact Action.always_pure (Nat.add_assoc ..)
termination_by structural ts => ts

end

end Evaluate

/-! ## Truth values worked out ahead -/

/-- A literal counts as true just when its value does. -/
theorem Literal.truthy_value (l : Literal) : l.value.truthy = l.truthy := by
  cases l with
  | number n => rfl
  | text s => rfl
  | reserved r => cases r <;> decide

/-- The truth value that stands for a negated literal is the value of the negation. -/
theorem Negation.value_fold (m : Negation) (l : Literal) :
    (m.fold l).value = m.onValue l.value := by
  rw [Negation.onValue, l.truthy_value, m.fold_eq]
  cases m.apply l.truthy <;> rfl

section Literal

variable (own : Nat → Frame) (position : Option Position) (target : Frame) (n : Nat)

mutual

/-- What reads as a literal has its value and calls nothing. -/
theorem Term.evaluate_of_literal? {l : Literal} : ∀ a : Term, a.literal? = some l →
    a.evaluate own position target n = pure (l.value, n)
  | .literal m, h => by
    cases h
    rw [Term.evaluate]
  | .group body, h => Tree.evaluate_of_literal? body h
termination_by structural a => a

theorem evaluateOperand_of_literal? {l : Literal} : ∀ a : Option Negation × Term,
    operandLiteral? a = some l → evaluateOperand own position a target n = pure (l.value, n)
  | (none, a), h => a.evaluate_of_literal? h
  | (some m, a), h => by
    obtain ⟨k, hk, rfl⟩ := Option.map_eq_some_iff.1 h
    rw [evaluateOperand_negated, a.evaluate_of_literal? hk, pure_bind, Negation.value_fold]
termination_by structural a => a

/-- A tree that is a single literal but for parentheses and negations has the value of that
literal, and makes no calls. -/
theorem Tree.evaluate_of_literal? {l : Literal} : ∀ t : Tree, Tree.literal? t = some l →
    Tree.evaluate own position t target n = pure (l.value, n)
  | .operand a, h => evaluateOperand_of_literal? a h
termination_by structural t => t

end

end Literal

end Expr

/-! ## Formulas on a stack -/

namespace Formula

/-- What a formula without slots makes of a stack. -/
def onStack (frame : Frame) (f : Formula) (stack : List Value) : Except RenderError (List Value) :=
  f.foldlM (step frame []) stack

/-- Two formulas behind one another work on the stack one behind the other. -/
theorem onStack_append (frame : Frame) (f g : Formula) :
    (f ++ g).onStack frame = fun stack => f.onStack frame stack >>= g.onStack frame := by
  funext stack
  exact List.foldlM_append

/-- The value that a stack of one leaves. -/
def result (stack : Except RenderError (List Value)) : Except RenderError Value := do
  match ← stack with
  | [] => return .undefined
  | [v] => return v
  | _ => throw .malformedExpression

/-- The value of a formula is what it leaves on an empty stack. -/
theorem eval_eq_result (frame : Frame) (f : Formula) :
    f.eval frame [] = result (f.onStack frame []) := rfl

end Formula

/-! ## Making the calls of a tree where they stand -/

namespace Walk

section Append

variable (context : Option String) (position : Option Position) (frame : Frame) (site : Site)

/-- Expressions behind one another are settled one behind the other. -/
theorem settle_append (e e' : Expr.Postfix) (n : Nat) :
    settle context position frame site (e ++ e') n =
      (settle context position frame site e n >>= fun r =>
        settle context position frame site e' r.2 >>= fun r' => pure (r.1 ++ r'.1, r'.2)) := by
  induction e generalizing n with
  | nil =>
    rw [List.nil_append, settle, pure_bind]
    exact (bind_pure _).symm
  | cons t e ih =>
    -- only a call asks for something; every other token is kept as it is
    cases t with
    | call path args property =>
      rw [List.cons_append, settle, settle]
      simp only [ih, bind_assoc, pure_bind, List.cons_append]
    | literal | path | operator | negate | opening | closing | separator =>
      rw [List.cons_append, settle, settle]
      simp only [ih, bind_assoc, pure_bind, List.cons_append]

end Append

/-- Calls the function at a path, when evaluating the arguments has come to `vs`. -/
def callWith (target : Frame) (p : String) (property : Option String)
    (vs : Except RenderError (List Value)) : Action Value :=
  match target.lookup p with
  | .function f => do
    let vs ← Action.ofExcept vs
    let v ← Action.call f target vs
    match property with
    | some q => return (Frame.ofData v).lookup q
    | none => return v
  | _ => throw (.notCallable p)

/-- A hoisted call evaluates its arguments in the frame of its directive and calls with them. -/
theorem run_eq_callWith (context : Option String) (position : Option Position) (frame : Frame)
    (site : Site) (p : String) (fs : List Formula) (property : Option String) :
    Call.run ⟨context, p, fs, property, position⟩ frame site [] =
      callWith (frame.reroot site context) p property
        (fs.mapM fun f => f.eval (frame.reroot site context) []) := by
  cases property <;> rfl

section Evaluate

variable (context : Option String) (position : Option Position) (frame : Frame) (site : Site)

/-- The frame that call number `k` of a directive is made in. -/
def ownFrame (k : Nat) : Frame := frame.reroot (.call site k) context

mutual

/-- **The hoisted calls of a term, and then its formula, evaluate it.** What follows is a parameter,
since a formula works on the stack that it finds. -/
theorem settle_term : ∀ (a : Expr.Term) (target : Frame) (n : Nat) {α : Type}
    (k : (List Value → Except RenderError (List Value)) → Nat → Action α),
    (settle context position frame site a.postorder n >>= fun r => k (r.1.onStack target) r.2) =
      (a.evaluate (ownFrame context frame site) position target n >>= fun r =>
        k (fun stack => .ok (r.1 :: stack)) r.2)
  | .literal l, target, n, _, k => by
    rw [Expr.Term.postorder, settle, settle]
    rfl
  | .path p, target, n, _, k => by
    rw [Expr.Term.postorder, settle, settle]
    rfl
  | .call p args property, target, n, _, k => by
    -- settling the arguments counts their calls, which numbers the frame of this one
    have hcount : Action.Always (fun r => r.2 = n + Expr.listCallCount args)
        (settleAll context position frame site (Expr.listPostorder args) n) := by
      have hlist := settle_list args frame n fun _ m => (pure m : Action Nat)
      refine Action.Always.of_bind_pure (P := (· = n + Expr.listCallCount args)) ?_
      rw [hlist]
      refine (Expr.always_evaluateList _ position args frame n).bind fun r hr => ?_
      exact Action.always_pure hr
    have hargs := settle_list args (ownFrame context frame site (n + Expr.listCallCount args)) n
      fun vs m => (callWith (ownFrame context frame site (n + Expr.listCallCount args)) p property
        vs).locate position >>= fun v => k (fun stack => .ok (v :: stack)) (m + 1)
    rw [Expr.Term.postorder, settle, Expr.Term.evaluate, bind_assoc]
    simp only [bind_assoc, pure_bind]
    refine Eq.trans ?_ hargs
    refine Action.bind_congr_of_always hcount ?_
    rintro ⟨fs, m⟩ rfl
    -- the number of the call is known before its arguments are evaluated, and so is its frame
    rw [run_eq_callWith]
    refine bind_congr fun v => ?_
    rw [settle]
    rfl
  | .group body, target, n, _, k => by
    rw [Expr.Term.postorder]
    exact settle_tree body target n k
termination_by structural a => a

/-- An operand is negated after it has been evaluated. -/
theorem settle_operand : ∀ (a : Option Expr.Negation × Expr.Term) (target : Frame) (n : Nat)
    {α : Type} (k : (List Value → Except RenderError (List Value)) → Nat → Action α),
    (settle context position frame site (Expr.operandPostorder a) n >>= fun r =>
        k (r.1.onStack target) r.2) =
      (Expr.evaluateOperand (ownFrame context frame site) position a target n >>= fun r =>
        k (fun stack => .ok (r.1 :: stack)) r.2)
  | (none, a), target, n, _, k => by
    rw [Expr.operandPostorder]
    exact settle_term a target n k
  | (some m, a), target, n, _, k => by
    rw [Expr.operandPostorder]
    split
    · -- a single literal: its truth value has been worked out ahead
      next l hl =>
      rw [Expr.evaluateOperand_negated, a.evaluate_of_literal? _ _ _ _ hl, pure_bind, settle, settle,
        m.value_fold l]
      rfl
    · have ha := settle_term a target n fun φ n =>
        k (fun stack => φ stack >>= Formula.onStack target [.negate m]) n
      rw [settle_append, Expr.evaluateOperand_negated]
      simp only [bind_assoc, settle, pure_bind, Formula.onStack_append]
      exact ha
termination_by structural a => a

/-- Making the calls of a tree where they stand, and putting what remains onto a stack, puts the
value of the tree there. -/
theorem settle_tree : ∀ (t : Expr.Tree) (target : Frame) (n : Nat) {α : Type}
    (k : (List Value → Except RenderError (List Value)) → Nat → Action α),
    (settle context position frame site (Expr.Tree.postorder t) n >>= fun r =>
        k (r.1.onStack target) r.2) =
      (Expr.Tree.evaluate (ownFrame context frame site) position t target n >>= fun r =>
        k (fun stack => .ok (r.1 :: stack)) r.2)
  | .operand a, target, n, _, k => by
    rw [Expr.Tree.postorder]
    exact settle_operand a target n k
  | .node op l r, target, n, _, k => by
    have hl := settle_tree l target n fun φ n =>
      settle context position frame site (Expr.Tree.postorder r) n >>= fun s =>
        k (fun stack => φ stack >>= s.1.onStack target >>= Formula.onStack target [.binary op]) s.2
    rw [Expr.Tree.postorder, settle_append, settle_append, Expr.Tree.evaluate]
    simp only [bind_assoc, settle, pure_bind, Formula.onStack_append] at hl ⊢
    refine hl.trans ?_
    refine bind_congr fun ⟨v, m⟩ => ?_
    exact settle_tree r target m fun φ n =>
      k (fun stack => φ (v :: stack) >>= Formula.onStack target [.binary op]) n
termination_by structural t => t

/-- The arguments of a call are evaluated from left to right. -/
theorem settle_list : ∀ (ts : List Expr.Tree) (target : Frame) (n : Nat) {α : Type}
    (k : Except RenderError (List Value) → Nat → Action α),
    (settleAll context position frame site (Expr.listPostorder ts) n >>= fun r =>
        k (r.1.mapM fun f => f.eval target []) r.2) =
      (Expr.evaluateList (ownFrame context frame site) position ts target n >>= fun r =>
        k (.ok r.1) r.2)
  | [], target, n, _, k => by
    rw [Expr.listPostorder, settleAll, Expr.evaluateList]
    rfl
  | t :: ts, target, n, _, k => by
    have ht := settle_tree t target n fun φ n =>
      settleAll context position frame site (Expr.listPostorder ts) n >>= fun s =>
        k (do return (← Formula.result (φ [])) :: (← s.1.mapM fun f => f.eval target [])) s.2
    rw [Expr.listPostorder, settleAll, Expr.evaluateList]
    simp only [bind_assoc, pure_bind, List.mapM_cons, Formula.eval_eq_result] at ht ⊢
    refine ht.trans ?_
    refine bind_congr fun ⟨v, m⟩ => ?_
    exact settle_list ts target m fun vs n => k (do return v :: (← vs)) n
termination_by structural ts => ts

end

end Evaluate

end Walk

/-! ## Parsed expressions -/

/-- An expression that is parsed, whose calls are taken out and made first, and whose remaining
formula is then evaluated, does what evaluating its tree does: the two are the same requests in
the same order, up to the same first error, and the same value. This holds for every tree that
a text spells, in every context and frame, whatever the functions answer. -/
theorem Expr.Tree.evaluate_hoisted (text : String) (t : Expr.Tree) (ht : Expr.Tree.Ordered t)
    (hs : Expr.Lexemes.Spell text (Expr.Tree.symbols t)) :
    ∃ tokens, Expr.Postfix.parse text = .ok tokens ∧
      ∀ (context : Option String) (position : Option Position) (frame : Frame) (site : Site),
        (do
          let (formula, calls) := Formula.ofPostfix context position tokens []
          let slots ← Call.runAll frame site calls []
          Action.ofExcept (formula.eval (frame.reroot site context) slots)) =
        (do
          let (v, _) ← Expr.Tree.evaluate (Walk.ownFrame context frame site) position t
            (frame.reroot site context) 0
          return v) := by
  refine ⟨Expr.Tree.postorder t, ?_, fun context position frame site => ?_⟩
  · -- the text is the one that the tree is written as, and reading it gives the tree back
    have hphrase : (Expr.Tree.phrase t).tree = t := Expr.tree_phrase t ht
    have hspell : Expr.Lexemes.Spell text (Expr.Tree.phrase t).symbols := by
      rw [t.symbols_phrase ht]
      exact hs
    have hparse := (Expr.Phrase.parse_eq_ok_iff text (Expr.Tree.phrase t)).2 hspell
    rw [Expr.Postfix.parse, hparse, ← hphrase, Expr.Phrase.postorder_tree, hphrase]
    rfl
  · obtain ⟨new, hnew, -, -⟩ :=
      Formula.ofPostfix_spec context position (Expr.Tree.postorder t) []
    have hempty : ([] : List Value).length = ([] : List Call).length := rfl
    have hsettle := Walk.settle_eq context position frame site (Expr.Tree.postorder t) hempty hnew
    have htree := Walk.settle_tree context position frame site t (frame.reroot site context) 0
      fun φ _ => Action.ofExcept (Formula.result (φ []))
    rw [List.nil_append] at hnew
    rw [List.length_nil] at hsettle
    rw [hsettle, bind_assoc] at htree
    simp only [pure_bind, ← Formula.eval_eq_result, Formula.eval_settled] at htree
    rw [← hnew] at htree
    exact htree

namespace Expr

/-- A call with a property, of a negated literal. -/
def propertyOfCall : String := "f(!null).a"

/-- The tree of `propertyOfCall`. -/
def propertyOfCallTree : Tree :=
  .operand (none, .call "f" [.operand (some .not, .literal (.reserved .null))] (some "a"))

theorem ofChars_propertyOfCall : Lexemes.ofChars propertyOfCall.toList =
    ⟨[⟨.path "f", ['f'], 0⟩, ⟨.opening, ['('], 1⟩, ⟨.negate .not, ['!'], 2⟩,
      ⟨.literal (.reserved .null), "null".toList, 3⟩, ⟨.closing, [')'], 7⟩,
      ⟨.property "a", ['.', 'a'], 8⟩], .finish 10⟩ := by
  cbv

/-- The tree of the example is written as its text. -/
theorem spell_propertyOfCall :
    Lexemes.Spell propertyOfCall (Tree.symbols propertyOfCallTree) := by
  unfold Lexemes.Spell
  rw [ofChars_propertyOfCall]
  exact ⟨⟨10, rfl⟩, rfl⟩

/-- A call with a negated argument, and a property of what it returns. -/
theorem Tree.evaluate_hoisted_propertyOfCall :
    Tree.Ordered propertyOfCallTree ∧
      Lexemes.Spell propertyOfCall (Tree.symbols propertyOfCallTree) ∧
      ∃ tokens, Postfix.parse propertyOfCall = .ok tokens ∧
        ∀ (context : Option String) (position : Option Position) (frame : Frame) (site : Site),
          (do
            let (formula, calls) := Formula.ofPostfix context position tokens []
            let slots ← Call.runAll frame site calls []
            Action.ofExcept (formula.eval (frame.reroot site context) slots)) =
          (do
            let (v, _) ← Tree.evaluate (Walk.ownFrame context frame site) position
              propertyOfCallTree (frame.reroot site context) 0
            return v) := by
  have hordered : Tree.Ordered propertyOfCallTree := ⟨trivial, trivial⟩
  exact ⟨hordered, spell_propertyOfCall,
    Tree.evaluate_hoisted propertyOfCall propertyOfCallTree hordered spell_propertyOfCall⟩

end Expr

end Stencil
