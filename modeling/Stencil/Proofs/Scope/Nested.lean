import Mathlib.Data.List.Basic
import Mathlib.Data.List.Induction
import Stencil.Proofs.Scope.Slots

/-!
# Stencil.Proofs.Scope.Nested — calls put back into expressions

Compiling takes the calls out of an expression and leaves the numbers of their results. With
each number replaced by its call again, and by what that call has taken out of its own
arguments, the expression is back as it was written (`Formula.nest_ofPostfix`), and so are the
arguments of modifiers (`Formula.nest_ofModifiers`). So no call is lost, exchanged with another
or given another context.
-/

namespace Stencil

/-! ## Expressions with their calls -/

/-- One step of an expression in which the calls stand where they are made. -/
inductive Nested where
  | value (v : Value)
  | lookup (path : String)
  /-- A call, with the context in which its function and its arguments are looked up. -/
  | call (context : Option String) (path : String) (args : List (List Nested))
      (property : Option String)
  | binary (op : Expr.Operator)
  | negate (n : Expr.Negation)

namespace Nested

variable (context : Option String)

mutual

/-- The steps of an expression of a directive with this context. -/
def ofPostfix : Expr.Postfix → List Nested
  | [] => []
  | .call path args property :: rest =>
    .call context path (ofArguments args) property :: ofPostfix rest
  | .literal l :: rest => .value l.value :: ofPostfix rest
  | .path p :: rest => .lookup p :: ofPostfix rest
  | .operator op :: rest => .binary op :: ofPostfix rest
  | .negate n :: rest => .negate n :: ofPostfix rest
  | .opening :: rest | .closing :: rest | .separator :: rest => ofPostfix rest

/-- The steps of each argument. -/
def ofArguments : List Expr.Postfix → List (List Nested)
  | [] => []
  | e :: es => ofPostfix e :: ofArguments es

end

end Nested

/-- A modifier with the calls of its arguments in their places. -/
structure NestedModifier where
  name : String
  args : List (List Nested)

/-- The modifier of a directive with this context. -/
def ModifierCall.nest (context : Option String) (m : ModifierCall) : NestedModifier :=
  ⟨m.name, Nested.ofArguments context m.args⟩

/-! ## Putting calls back -/

/-- What a step of an evaluation stands for when these calls are made before it. -/
def Op.nest? (earlier : List Nested) : Op → Option Nested
  | .value v => some (.value v)
  | .lookup path => some (.lookup path)
  | .slot i => earlier[i]?
  | .binary op => some (.binary op)
  | .negate n => some (.negate n)

/-- A formula with the numbers of calls replaced by these calls. -/
def Formula.nest (earlier : List Nested) (f : Formula) : List Nested :=
  f.filterMap (Op.nest? earlier)

/-- A modifier with the numbers of calls replaced by these calls. -/
def PendingModifier.nest (earlier : List Nested) (m : PendingModifier) : NestedModifier :=
  ⟨m.name, m.args.map (·.nest earlier)⟩

namespace Call

/-- The call with those in its arguments put back. -/
def nest (earlier : List Nested) (c : Call) : Nested :=
  .call c.context c.path (c.args.map (·.nest earlier)) c.property

/-- Calls in the order in which they are made, each with those in its arguments put back. -/
def nestAll (calls : List Call) : List Nested :=
  calls.foldl (fun earlier c => earlier ++ [c.nest earlier]) []

/-- The last call is put back into those before it. -/
theorem nestAll_concat (calls : List Call) (c : Call) :
    nestAll (calls ++ [c]) = nestAll calls ++ [c.nest (nestAll calls)] := by
  rw [nestAll, List.foldl_append]
  rfl

@[simp] theorem length_nestAll (calls : List Call) : (nestAll calls).length = calls.length := by
  induction calls using List.reverseRecOn with
  | nil => rfl
  | append_singleton calls c ih => simp [nestAll_concat, ih]

/-- Later calls leave the earlier ones as they are. -/
theorem exists_nestAll_append (calls more : List Call) :
    ∃ later, nestAll (calls ++ more) = nestAll calls ++ later := by
  induction more using List.reverseRecOn with
  | nil => exact ⟨[], by simp⟩
  | append_singleton more c ih =>
    obtain ⟨later, h⟩ := ih
    exact ⟨later ++ [c.nest (nestAll (calls ++ more))], by
      rw [← List.append_assoc, nestAll_concat, h, List.append_assoc, ← h]⟩

end Call

namespace Formula

/-- Later calls do not matter to a formula that reads earlier ones. -/
theorem nest_append {calls : List Call} {f : Formula} (hf : f.Within calls.length)
    (more : List Call) : f.nest (Call.nestAll (calls ++ more)) = f.nest (Call.nestAll calls) := by
  obtain ⟨later, hlater⟩ := Call.exists_nestAll_append calls more
  refine List.filterMap_congr fun op hop => ?_
  cases op with
  | slot i =>
    have hi : i < (Call.nestAll calls).length := by
      rw [Call.length_nestAll]
      exact hf i hop
    rw [Op.nest?, Op.nest?, hlater, List.getElem?_append_left hi]
  | value | lookup | binary | negate => rfl

variable (context : Option String) (position : Option Position)

mutual

/-- An expression whose calls were taken out, with the calls put back. -/
theorem nest_ofPostfix : ∀ (e : Expr.Postfix) (calls : List Call),
    (ofPostfix context position e calls).1.nest
      (Call.nestAll (ofPostfix context position e calls).2) = Nested.ofPostfix context e
  | [], calls => by
    rw [ofPostfix, Nested.ofPostfix]
    rfl
  | .call path args property :: rest, calls => by
    have hargs := nest_ofArguments args calls
    have hrest := nest_ofPostfix rest ((ofArguments context position args calls).2 ++
      [callOf context position path args property calls])
    obtain ⟨new, hnew, -, -⟩ := ofPostfix_spec context position rest
      ((ofArguments context position args calls).2 ++
        [callOf context position path args property calls])
    rw [ofPostfix_call, Nested.ofPostfix, ← hrest, ← hargs]
    -- the number of the call is where it stands, behind those in its arguments
    have hslot : (Call.nestAll (ofPostfix context position rest
        ((ofArguments context position args calls).2 ++
          [callOf context position path args property calls])).2)[
        (ofArguments context position args calls).2.length]? =
          some ((callOf context position path args property calls).nest
            (Call.nestAll (ofArguments context position args calls).2)) := by
      obtain ⟨later, hlater⟩ := Call.exists_nestAll_append
        ((ofArguments context position args calls).2 ++
          [callOf context position path args property calls]) new
      rw [hnew, hlater, Call.nestAll_concat]
      simp
    exact List.filterMap_cons_some hslot
  | .literal l :: rest, calls => by
    rw [ofPostfix, Nested.ofPostfix, ← nest_ofPostfix rest calls]
    rfl
  | .path p :: rest, calls => by
    rw [ofPostfix, Nested.ofPostfix, ← nest_ofPostfix rest calls]
    rfl
  | .operator op :: rest, calls => by
    rw [ofPostfix, Nested.ofPostfix, ← nest_ofPostfix rest calls]
    rfl
  | .negate n :: rest, calls => by
    rw [ofPostfix, Nested.ofPostfix, ← nest_ofPostfix rest calls]
    rfl
  | .opening :: rest, calls => by
    rw [ofPostfix, Nested.ofPostfix]
    exact nest_ofPostfix rest calls
  | .closing :: rest, calls => by
    rw [ofPostfix, Nested.ofPostfix]
    exact nest_ofPostfix rest calls
  | .separator :: rest, calls => by
    rw [ofPostfix, Nested.ofPostfix]
    exact nest_ofPostfix rest calls

/-- Arguments are back as they were written. -/
theorem nest_ofArguments : ∀ (es : List Expr.Postfix) (calls : List Call),
    (ofArguments context position es calls).1.map
      (·.nest (Call.nestAll (ofArguments context position es calls).2)) =
        Nested.ofArguments context es
  | [], calls => by
    rw [ofArguments, Nested.ofArguments]
    rfl
  | e :: es, calls => by
    obtain ⟨-, -, -, hwithin⟩ := ofPostfix_spec context position e calls
    obtain ⟨new, hnew, -, -⟩ :=
      ofArguments_spec context position es (ofPostfix context position e calls).2
    rw [ofArguments_cons, Nested.ofArguments, ← nest_ofPostfix e calls,
      ← nest_ofArguments es (ofPostfix context position e calls).2, List.map_cons, hnew,
      nest_append (hwithin _ (List.mem_singleton_self _))]

end

/-- The modifiers of a directive, with the calls of their arguments put back. -/
theorem nest_ofModifiers (ms : List ModifierCall) (calls : List Call) :
    (ofModifiers context position ms calls).1.map
      (·.nest (Call.nestAll (ofModifiers context position ms calls).2)) =
        ms.map (·.nest context) := by
  induction ms generalizing calls with
  | nil => rfl
  | cons m ms ih =>
    obtain ⟨-, -, -, hwithin⟩ := ofArguments_spec context position m.args calls
    obtain ⟨new, hnew, -, -⟩ :=
      ofModifiers_spec context position ms (ofArguments context position m.args calls).2
    rw [ofModifiers, List.map_cons, List.map_cons, ← ih, ModifierCall.nest,
      ← nest_ofArguments context position m.args calls]
    dsimp only
    -- later calls do not matter to the arguments of the first modifier
    have hsame : (ofArguments context position m.args calls).1.map (·.nest
        (Call.nestAll (ofModifiers context position ms
          (ofArguments context position m.args calls).2).2)) =
        (ofArguments context position m.args calls).1.map (·.nest
          (Call.nestAll (ofArguments context position m.args calls).2)) := by
      rw [hnew]
      exact List.map_congr_left fun f hf => nest_append (hwithin f hf) new
    rw [PendingModifier.nest, hsame]

end Formula

end Stencil
