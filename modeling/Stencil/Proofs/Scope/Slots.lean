import Stencil.Scope.Build

/-!
# Stencil.Proofs.Scope.Slots — where the results of calls are read

Taking the calls out of an expression adds them behind those that are there, and leaves
formulas that read only results of calls in the list (`ofPostfix_spec`). The arguments of a
call read only results of calls before it: the list is in order (`Call.InOrder`).
-/

namespace Stencil

/-- Whether the formula reads only the first `n` results. -/
def Formula.Within (n : Nat) (f : Formula) : Prop := ∀ i, Op.slot i ∈ f → i < n

/-- Whether each call reads only results of calls before it, when `n` calls are made before the
first. -/
def Call.InOrder (n : Nat) : List Call → Prop
  | [] => True
  | c :: cs => (∀ f ∈ c.args, f.Within n) ∧ InOrder (n + 1) cs

namespace Formula

theorem within_nil (n : Nat) : Within n [] := by
  intro i hi
  cases hi

/-- The slots are still there when there are more of them. -/
theorem Within.mono {m n : Nat} {f : Formula} (h : f.Within m) (hmn : m ≤ n) : f.Within n :=
  fun i hi => Nat.lt_of_lt_of_le (h i hi) hmn

/-- An operation uses a slot that is there, if it uses any. -/
theorem Within.cons {n : Nat} {f : Formula} (h : f.Within n) {op : Op}
    (hop : ∀ i, op = .slot i → i < n) : Within n (op :: f) := by
  intro i hi
  cases hi with
  | head => exact hop i rfl
  | tail _ hi => exact h i hi

end Formula

/-- Calls in a row use the results of those before them only. -/
theorem Call.inOrder_append {n : Nat} {cs ds : List Call} :
    Call.InOrder n (cs ++ ds) ↔ Call.InOrder n cs ∧ Call.InOrder (n + cs.length) ds := by
  induction cs generalizing n with
  | nil => simp [InOrder]
  | cons c cs ih =>
    rw [List.cons_append, InOrder, InOrder, ih, List.length_cons, and_assoc]
    rw [show n + 1 + cs.length = n + (cs.length + 1) by omega]

namespace Formula

variable (context : Option String) (position : Option Position)

/-- The call that is left of a call token when those in its arguments are taken out. -/
def callOf (path : String) (args : List Expr.Postfix) (property : Option String)
    (calls : List Call) : Call :=
  ⟨context, path, (ofArguments context position args calls).1, property, position⟩

/-- The call is taken out behind those of its arguments, and its result is in the slot of its
number. -/
theorem ofPostfix_call (path : String) (args : List Expr.Postfix) (property : Option String)
    (rest : Expr.Postfix) (calls : List Call) :
    ofPostfix context position (.call path args property :: rest) calls =
      (.slot (ofArguments context position args calls).2.length ::
          (ofPostfix context position rest ((ofArguments context position args calls).2 ++
            [callOf context position path args property calls])).1,
        (ofPostfix context position rest ((ofArguments context position args calls).2 ++
          [callOf context position path args property calls])).2) := by
  rw [ofPostfix]
  rfl

/-- Arguments are compiled one after the other. -/
theorem ofArguments_cons (e : Expr.Postfix) (es : List Expr.Postfix) (calls : List Call) :
    ofArguments context position (e :: es) calls =
      ((ofPostfix context position e calls).1 ::
          (ofArguments context position es (ofPostfix context position e calls).2).1,
        (ofArguments context position es (ofPostfix context position e calls).2).2) := by
  rw [ofArguments]

/-- What taking out calls gives: calls in order behind those that were there, and formulas that
read results of these. -/
def Hoists (calls after : List Call) (formulas : List Formula) : Prop :=
  ∃ new, after = calls ++ new ∧ Call.InOrder calls.length new ∧
    ∀ f ∈ formulas, f.Within after.length

/-- Calls are taken out one part after the other. -/
theorem Hoists.trans {calls mid after : List Call} {fs gs : List Formula}
    (h₁ : Hoists calls mid fs) (h₂ : Hoists mid after gs) : Hoists calls after (fs ++ gs) := by
  obtain ⟨new₁, rfl, ho₁, hw₁⟩ := h₁
  obtain ⟨new₂, rfl, ho₂, hw₂⟩ := h₂
  refine ⟨new₁ ++ new₂, List.append_assoc .., ?_, ?_⟩
  · rw [List.length_append] at ho₂
    exact Call.inOrder_append.2 ⟨ho₁, ho₂⟩
  · intro f hf
    rcases List.mem_append.1 hf with hf | hf
    · refine (hw₁ f hf).mono ?_
      simp
    · exact hw₂ f hf

theorem Hoists.refl (calls : List Call) : Hoists calls calls [] :=
  ⟨[], (List.append_nil calls).symm, trivial, fun _ hf => nomatch hf⟩

/-- A formula may go on with anything that reads no result. -/
theorem Hoists.cons {calls after : List Call} {f : Formula} (h : Hoists calls after [f]) {op : Op}
    (hop : ∀ i, op ≠ .slot i) : Hoists calls after [op :: f] := by
  obtain ⟨new, hnew, ho, hw⟩ := h
  refine ⟨new, hnew, ho, fun g hg => ?_⟩
  rw [List.mem_singleton.1 hg]
  exact (hw f (List.mem_singleton_self f)).cons fun i hi => absurd hi (hop i)

mutual

/-- The calls of an expression are added in order, and what remains reads results of calls in
the list. -/
theorem ofPostfix_spec : ∀ (e : Expr.Postfix) (calls : List Call),
    Hoists calls (ofPostfix context position e calls).2 [(ofPostfix context position e calls).1]
  | [], calls => by
    rw [ofPostfix]
    refine ⟨[], (List.append_nil calls).symm, trivial, fun f hf => ?_⟩
    rw [List.mem_singleton.1 hf]
    exact within_nil _
  | .call path args property :: rest, calls => by
    obtain ⟨new, hnew, ho, hw⟩ := ofArguments_spec args calls
    have hrest := ofPostfix_spec rest ((ofArguments context position args calls).2 ++
      [callOf context position path args property calls])
    -- the call itself stands behind those in its arguments, which it reads
    have hcall : Hoists calls ((ofArguments context position args calls).2 ++
        [callOf context position path args property calls]) [] := by
      refine ⟨new ++ [callOf context position path args property calls], ?_, ?_, ?_⟩
      · rw [hnew, List.append_assoc]
      · refine Call.inOrder_append.2 ⟨ho, ?_, trivial⟩
        rw [hnew, List.length_append] at hw
        exact hw
      · intro f hf
        cases hf
    obtain ⟨new', hnew', ho', hw'⟩ := hcall.trans hrest
    rw [ofPostfix_call]
    refine ⟨new', hnew', ho', fun f hf => ?_⟩
    rw [List.mem_singleton.1 hf]
    refine (hw' _ (List.mem_singleton_self _)).cons fun i hi => ?_
    cases hi
    obtain ⟨more, hmore, -, -⟩ := hrest
    rw [hmore]
    simp only [List.length_append, List.length_singleton]
    omega
  | .literal _ :: rest, calls => by
    rw [ofPostfix]
    exact (ofPostfix_spec rest calls).cons fun _ h => by cases h
  | .path _ :: rest, calls => by
    rw [ofPostfix]
    exact (ofPostfix_spec rest calls).cons fun _ h => by cases h
  | .operator _ :: rest, calls => by
    rw [ofPostfix]
    exact (ofPostfix_spec rest calls).cons fun _ h => by cases h
  | .negate _ :: rest, calls => by
    rw [ofPostfix]
    exact (ofPostfix_spec rest calls).cons fun _ h => by cases h
  | .opening :: rest, calls => by
    rw [ofPostfix]
    exact ofPostfix_spec rest calls
  | .closing :: rest, calls => by
    rw [ofPostfix]
    exact ofPostfix_spec rest calls
  | .separator :: rest, calls => by
    rw [ofPostfix]
    exact ofPostfix_spec rest calls

/-- Arguments take out their calls and use slots that are there. -/
theorem ofArguments_spec : ∀ (es : List Expr.Postfix) (calls : List Call),
    Hoists calls (ofArguments context position es calls).2
      (ofArguments context position es calls).1
  | [], calls => by
    rw [ofArguments]
    exact Hoists.refl calls
  | e :: es, calls => by
    rw [ofArguments_cons]
    exact (ofPostfix_spec e calls).trans
      (ofArguments_spec es (ofPostfix context position e calls).2)

end

/-- The modifiers of a directive, their calls added to `calls`. -/
def ofModifiers : List ModifierCall → List Call → List PendingModifier × List Call
  | [], calls => ([], calls)
  | m :: ms, calls =>
    let (args, calls) := ofArguments context position m.args calls
    let (pending, calls) := ofModifiers ms calls
    (⟨m.name, args⟩ :: pending, calls)

theorem ofModifiers_spec (ms : List ModifierCall) (calls : List Call) :
    Hoists calls (ofModifiers context position ms calls).2
      ((ofModifiers context position ms calls).1.flatMap (·.args)) := by
  induction ms generalizing calls with
  | nil => exact Hoists.refl calls
  | cons m ms ih =>
    have hargs := ofArguments_spec context position m.args calls
    exact hargs.trans (ih _)

end Formula

/-- The modifiers of a segment are compiled one after the other. -/
theorem Scope.pendingModifiers_eq (debug : Bool) (s : Segment) (calls : List Call) :
    pendingModifiers debug s calls =
      Formula.ofModifiers s.context (place debug s) s.modifiers calls := by
  have h : ∀ (ms : List ModifierCall) (done : List PendingModifier) (calls : List Call),
      ms.foldl (fun (done, calls) m =>
        let (args, calls) := Formula.ofArguments s.context (place debug s) m.args calls
        (done ++ [⟨m.name, args⟩], calls)) (done, calls) =
      (done ++ (Formula.ofModifiers s.context (place debug s) ms calls).1,
        (Formula.ofModifiers s.context (place debug s) ms calls).2) := by
    intro ms
    induction ms with
    | nil => simp [Formula.ofModifiers]
    | cons m ms ih =>
      intro done calls
      rw [List.foldl_cons, ih]
      simp [Formula.ofModifiers]
  exact h s.modifiers [] calls

/-- What the head of a segment is made of. -/
theorem Scope.head_eq (debug : Bool) (s : Segment) (calls : List Call) :
    head debug s calls =
      ⟨s.context, (Formula.ofModifiers s.context (place debug s) s.modifiers calls).2,
        (Formula.ofModifiers s.context (place debug s) s.modifiers calls).1, place debug s⟩ := by
  rw [head, pendingModifiers_eq]

end Stencil
