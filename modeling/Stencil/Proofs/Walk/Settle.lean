import Stencil.Proofs.Program.Run
import Stencil.Proofs.Scope.Slots

/-!
# Stencil.Proofs.Walk.Settle — making the calls of an expression where they stand

`settle` reads an expression from left to right. It makes each call when it comes to it, those
in the arguments first, and leaves the result in its place; what remains has no calls and
needs no slots. Calls that are taken out of an expression and made in order come to the
same (`settle_eq`).
-/

namespace Stencil

/-! ## Results in their places -/

/-- The step with the result in place of its number. -/
def Op.settled (slots : List Value) : Op → Op
  | .slot i => .value (slots.getD i .undefined)
  | op => op

namespace Formula

/-- The formula with results in place of their numbers. -/
def settled (slots : List Value) (f : Formula) : Formula := f.map (Op.settled slots)

/-- A formula whose slots have been filled in has the value it had with the slots. -/
theorem eval_settled (f : Formula) (frame : Frame) (slots : List Value) :
    (f.settled slots).eval frame [] = f.eval frame slots := by
  have hstep : ∀ stack op, step frame [] stack (op.settled slots) = step frame slots stack op := by
    intro stack op
    cases op <;> rfl
  have hfold : ∀ stack, (f.settled slots).foldlM (step frame []) stack =
      f.foldlM (step frame slots) stack := by
    intro stack
    rw [settled, List.foldlM_map]
    congr 1
    funext stack op
    exact hstep stack op
  unfold eval
  rw [hfold]

/-- Later results do not matter to a formula that reads earlier ones. -/
theorem settled_append {n : Nat} {f : Formula} (hf : f.Within n) {slots : List Value}
    (hn : n ≤ slots.length) (more : List Value) :
    f.settled (slots ++ more) = f.settled slots := by
  refine List.map_congr_left fun op hop => ?_
  cases op with
  | slot i =>
    have hi : i < slots.length := Nat.lt_of_lt_of_le (hf i hop) hn
    simp only [Op.settled, List.getD_eq_getElem?_getD, List.getElem?_append_left hi]
  | value | lookup | binary | negate => rfl

end Formula

theorem Call.run_settled (c : Call) (frame : Frame) (site : Site) (slots : List Value) :
    Call.run { c with args := c.args.map (·.settled slots) } frame site [] =
      c.run frame site slots := by
  have hargs : ∀ target, (c.args.map (·.settled slots)).mapM (fun f => Evaluator.eval f target []) =
      c.args.mapM (fun f => Evaluator.eval f target slots) := by
    intro target
    rw [List.mapM_map]
    congr 1
    funext f
    exact f.eval_settled target slots
  unfold Call.run
  simp only [hargs]
  rfl

namespace PendingModifier

/-- The modifier with results in place of their numbers. -/
def settled (slots : List Value) (m : PendingModifier) : PendingModifier :=
  ⟨m.name, m.args.map (·.settled slots)⟩

theorem apply_settled (m : PendingModifier) (frame : Frame) (slots : List Value) :
    (m.settled slots).apply frame [] = m.apply frame slots := by
  unfold apply settled
  rw [List.mapM_map]
  congr 2
  funext f
  exact f.eval_settled frame slots

end PendingModifier

theorem modifyAll_settled (frame : Frame) (slots : List Value) (ms : List PendingModifier)
    (v : Value) :
    modifyAll frame [] (ms.map (·.settled slots)) v = modifyAll frame slots ms v := by
  induction ms generalizing v with
  | nil => rfl
  | cons m ms ih =>
    rw [List.map_cons, modifyAll, modifyAll, m.apply_settled]
    refine bind_congr fun m => bind_congr fun v => ?_
    exact ih v

/-! ## Making the calls of an expression -/

namespace Walk

variable (context : Option String) (position : Option Position) (frame : Frame) (site : Site)

mutual

/-- Makes the calls of an expression, when the step has made `n` calls before. What remains has
the results in their places; with it comes the number of calls that the step has made now. -/
def settle : Expr.Postfix → Nat → Action (Formula × Nat)
  | [], n => return ([], n)
  | .call path args property :: rest, n => do
    let (args, n) ← settleAll args n
    let call : Call := ⟨context, path, args, property, position⟩
    let v ← (call.run frame (.call site n) []).locate position
    let (ops, n) ← settle rest (n + 1)
    return (.value v :: ops, n)
  | .literal l :: rest, n => do
    let (ops, n) ← settle rest n
    return (.value l.value :: ops, n)
  | .path p :: rest, n => do
    let (ops, n) ← settle rest n
    return (.lookup p :: ops, n)
  | .operator op :: rest, n => do
    let (ops, n) ← settle rest n
    return (.binary op :: ops, n)
  | .negate m :: rest, n => do
    let (ops, n) ← settle rest n
    return (.negate m :: ops, n)
  | .opening :: rest, n | .closing :: rest, n | .separator :: rest, n => settle rest n

/-- Makes the calls of each argument in turn. -/
def settleAll : List Expr.Postfix → Nat → Action (List Formula × Nat)
  | [], n => return ([], n)
  | e :: es, n => do
    let (f, n) ← settle e n
    let (fs, n) ← settleAll es n
    return (f :: fs, n)

end

/-- Makes the calls in the arguments of each modifier in turn. -/
def settleModifiers : List ModifierCall → Nat → Action (List PendingModifier × Nat)
  | [], n => return ([], n)
  | m :: ms, n => do
    let (args, n) ← settleAll context position frame site m.args n
    let (pending, n) ← settleModifiers ms n
    return (⟨m.name, args⟩ :: pending, n)

open Formula

mutual

/-- Making the calls of an expression where they stand is making those taken out of it in
order. -/
theorem settle_eq : ∀ (e : Expr.Postfix) {calls new : List Call} {slots : List Value},
    slots.length = calls.length → (ofPostfix context position e calls).2 = calls ++ new →
      settle context position frame site e slots.length =
        (Call.runAll frame site new slots >>= fun s =>
          pure ((ofPostfix context position e calls).1.settled s, s.length))
  | [], calls, new, slots, hlen, hnew => by
    rw [ofPostfix] at hnew ⊢
    obtain rfl : new = [] := List.self_eq_append_right.1 hnew
    rw [settle]
    rfl
  | .call path args property :: rest, calls, new, slots, hlen, hnew => by
    obtain ⟨newArgs, hargs, -, -⟩ := ofArguments_spec context position args calls
    obtain ⟨newRest, hrest, -, -⟩ := ofPostfix_spec context position rest
      ((ofArguments context position args calls).2 ++
        [callOf context position path args property calls])
    have hrun := (callOf context position path args property calls).run_settled frame
    have hplace : (callOf context position path args property calls).position = position := rfl
    rw [ofPostfix_call] at hnew ⊢
    rw [callOf] at hrun
    -- the calls in the arguments come first, then the call, then those behind it
    obtain rfl : new = newArgs ++ callOf context position path args property calls :: newRest := by
      rw [hrest, hargs] at hnew
      simpa using hnew.symm
    rw [settle, settleAll_eq args hlen hargs, Call.runAll_append, bind_assoc, bind_assoc]
    refine Action.bind_congr_of_always (Call.always_runAll frame site newArgs slots) ?_
    rintro s ⟨t, rfl, ht⟩
    rw [pure_bind, Call.runAll, bind_assoc, hplace]
    dsimp only
    rw [hrun]
    refine bind_congr fun v => ?_
    have hlen' : (slots ++ t ++ [v]).length = ((ofArguments context position args calls).2 ++
        [callOf context position path args property calls]).length := by
      rw [hargs]
      simp [hlen, ht]
    have hsucc : (slots ++ t).length + 1 = (slots ++ t ++ [v]).length := by
      simp [Nat.add_assoc]
    rw [hsucc, settle_eq rest hlen' hrest, bind_assoc]
    refine Action.bind_congr_of_always (Call.always_runAll frame site newRest _) ?_
    rintro s' ⟨t', rfl, -⟩
    -- the number of the call is where its result stands
    have hslot : (ofArguments context position args calls).2.length = (slots ++ t).length := by
      rw [hargs, List.length_append, List.length_append, hlen, ht]
    rw [pure_bind, hslot]
    have hget : (slots ++ t ++ [v] ++ t').getD (slots ++ t).length .undefined = v := by
      simp [List.getD_eq_getElem?_getD]
    simp only [settled, List.map_cons, Op.settled, hget]
  | .literal l :: rest, calls, new, slots, hlen, hnew => by
    rw [ofPostfix] at hnew ⊢
    rw [settle, settle_eq rest hlen hnew, bind_assoc]
    rfl
  | .path p :: rest, calls, new, slots, hlen, hnew => by
    rw [ofPostfix] at hnew ⊢
    rw [settle, settle_eq rest hlen hnew, bind_assoc]
    rfl
  | .operator op :: rest, calls, new, slots, hlen, hnew => by
    rw [ofPostfix] at hnew ⊢
    rw [settle, settle_eq rest hlen hnew, bind_assoc]
    rfl
  | .negate m :: rest, calls, new, slots, hlen, hnew => by
    rw [ofPostfix] at hnew ⊢
    rw [settle, settle_eq rest hlen hnew, bind_assoc]
    rfl
  | .opening :: rest, calls, new, slots, hlen, hnew => by
    rw [ofPostfix] at hnew ⊢
    rw [settle, settle_eq rest hlen hnew]
  | .closing :: rest, calls, new, slots, hlen, hnew => by
    rw [ofPostfix] at hnew ⊢
    rw [settle, settle_eq rest hlen hnew]
  | .separator :: rest, calls, new, slots, hlen, hnew => by
    rw [ofPostfix] at hnew ⊢
    rw [settle, settle_eq rest hlen hnew]

/-- The arguments of a call are settled by running the calls hoisted from them. -/
theorem settleAll_eq : ∀ (es : List Expr.Postfix) {calls new : List Call} {slots : List Value},
    slots.length = calls.length → (ofArguments context position es calls).2 = calls ++ new →
      settleAll context position frame site es slots.length =
        (Call.runAll frame site new slots >>= fun s =>
          pure ((ofArguments context position es calls).1.map (·.settled s), s.length))
  | [], calls, new, slots, hlen, hnew => by
    rw [ofArguments] at hnew ⊢
    obtain rfl : new = [] := List.self_eq_append_right.1 hnew
    rw [settleAll]
    rfl
  | e :: es, calls, new, slots, hlen, hnew => by
    obtain ⟨new₁, h₁, -, hw⟩ := ofPostfix_spec context position e calls
    obtain ⟨new₂, h₂, -, -⟩ :=
      ofArguments_spec context position es (ofPostfix context position e calls).2
    rw [ofArguments_cons] at hnew ⊢
    -- the calls hoisted from the first argument stand before those from the others
    obtain rfl : new = new₁ ++ new₂ := by
      rw [h₂, h₁] at hnew
      simpa using hnew.symm
    rw [settleAll, settle_eq e hlen h₁, Call.runAll_append, bind_assoc, bind_assoc]
    refine Action.bind_congr_of_always (Call.always_runAll frame site new₁ slots) ?_
    rintro s ⟨t, rfl, ht⟩
    have hlen' : (slots ++ t).length = (ofPostfix context position e calls).2.length := by
      rw [h₁, List.length_append, List.length_append, hlen, ht]
    rw [pure_bind]
    dsimp only
    rw [settleAll_eq es hlen' h₂, bind_assoc]
    refine Action.bind_congr_of_always (Call.always_runAll frame site new₂ _) ?_
    rintro s' ⟨t', rfl, -⟩
    -- the results of later calls do not matter to the first formula
    have hsame := settled_append (hw _ (List.mem_singleton_self _)) (Nat.le_of_eq hlen'.symm) t'
    rw [pure_bind, List.map_cons, hsame]

end

/-- So are those of modifiers. -/
theorem settleModifiers_eq (ms : List ModifierCall) {calls new : List Call} {slots : List Value}
    (hlen : slots.length = calls.length)
    (hnew : (ofModifiers context position ms calls).2 = calls ++ new) :
    settleModifiers context position frame site ms slots.length =
      (Call.runAll frame site new slots >>= fun s =>
        pure ((ofModifiers context position ms calls).1.map (·.settled s), s.length)) := by
  induction ms generalizing calls new slots with
  | nil =>
    obtain rfl : new = [] := List.self_eq_append_right.1 hnew
    rfl
  | cons m ms ih =>
    obtain ⟨new₁, h₁, -, hw⟩ := ofArguments_spec context position m.args calls
    obtain ⟨new₂, h₂, -, -⟩ :=
      ofModifiers_spec context position ms (ofArguments context position m.args calls).2
    rw [ofModifiers] at hnew ⊢
    obtain rfl : new = new₁ ++ new₂ := by
      dsimp only at hnew
      rw [h₂, h₁] at hnew
      simpa using hnew.symm
    rw [settleModifiers, settleAll_eq context position frame site m.args hlen h₁,
      Call.runAll_append, bind_assoc, bind_assoc]
    refine Action.bind_congr_of_always (Call.always_runAll frame site new₁ slots) ?_
    rintro s ⟨t, rfl, ht⟩
    have hlen' : (slots ++ t).length = (ofArguments context position m.args calls).2.length := by
      rw [h₁, List.length_append, List.length_append, hlen, ht]
    rw [pure_bind]
    dsimp only
    rw [ih hlen' h₂, bind_assoc]
    refine Action.bind_congr_of_always (Call.always_runAll frame site new₂ _) ?_
    rintro s' ⟨t', rfl, -⟩
    -- the results of later calls do not matter to the arguments of the first modifier
    have hsame : (ofArguments context position m.args calls).1.map (·.settled (slots ++ t ++ t')) =
        (ofArguments context position m.args calls).1.map (·.settled (slots ++ t)) :=
      List.map_congr_left fun f hf => settled_append (hw f hf) (Nat.le_of_eq hlen'.symm) t'
    rw [pure_bind, List.map_cons, PendingModifier.settled, hsame]

/-! ## The calls of a directive -/

variable {α : Type}

/-- The calls of a directive that has modifiers only. -/
theorem settleModifiers_bind (ms : List ModifierCall) (k : List PendingModifier → Action α) :
    (do
      let (pending, _) ← settleModifiers context position frame site ms 0
      k pending) =
    (do
      let slots ← Call.runAll frame site (ofModifiers context position ms []).2 []
      k ((ofModifiers context position ms []).1.map (·.settled slots))) := by
  have hlen : ([] : List Value).length = ([] : List Call).length := rfl
  have h := settleModifiers_eq context position frame site ms hlen (List.nil_append _).symm
  rw [List.length_nil] at h
  rw [h, bind_assoc]
  rfl

/-- The calls of a directive that has an expression and modifiers: those of the expression come
first. -/
theorem settle_bind (e : Expr.Postfix) (ms : List ModifierCall)
    (k : Formula → List PendingModifier → Action α) :
    (do
      let (f, n) ← settle context position frame site e 0
      let (pending, _) ← settleModifiers context position frame site ms n
      k f pending) =
    (do
      let slots ← Call.runAll frame site
        (ofModifiers context position ms (ofPostfix context position e []).2).2 []
      k ((ofPostfix context position e []).1.settled slots)
        ((ofModifiers context position ms (ofPostfix context position e []).2).1.map
          (·.settled slots))) := by
  obtain ⟨new₁, h₁, -, hw⟩ := ofPostfix_spec context position e []
  obtain ⟨new₂, h₂, -, -⟩ :=
    ofModifiers_spec context position ms (ofPostfix context position e []).2
  have hlen : ([] : List Value).length = ([] : List Call).length := rfl
  have he := settle_eq context position frame site e hlen h₁
  rw [List.length_nil] at he
  rw [List.nil_append] at h₁
  rw [he, h₂, h₁, Call.runAll_append, bind_assoc, bind_assoc]
  -- the calls of the expression fill the first slots, so its formula is settled once they have run
  refine Action.bind_congr_of_always (Call.always_runAll frame site new₁ []) ?_
  rintro s ⟨_, rfl, ht⟩
  rw [pure_bind]
  dsimp only
  rw [h₁] at h₂ hw
  rw [settleModifiers_eq context position frame site ms ht h₂, bind_assoc]
  refine Action.bind_congr_of_always (Call.always_runAll frame site new₂ s) ?_
  rintro s' ⟨t', rfl, -⟩
  rw [pure_bind, settled_append (hw _ (List.mem_singleton_self _)) (Nat.le_of_eq ht.symm) t']

end Walk

end Stencil
