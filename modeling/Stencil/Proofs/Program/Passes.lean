import Mathlib.Algebra.Order.Field.Power
import Mathlib.Algebra.Order.Field.Rat
import Mathlib.Tactic.Positivity
import Stencil.Program.Run

/-!
# Stencil.Proofs.Program.Passes — which passes an iteration makes

A sequence makes a pass for each of its items, an object one for each of its members, and a number
that is whole and not negative as many as it says, as long as these are not too many; nothing else
makes any (`Value.Plans`). An iteration plans its passes so (`Value.plans_ofValue`), and makes them
one after the other (`runIteration_eq`).
-/

namespace Stencil

/-! ## Whole numbers -/

namespace Decimal

/-- The number that a binary fraction is. -/
def Binary.value (b : Binary) : ℚ :=
  (if b.negative then -1 else 1) * (b.mantissa * 2 ^ b.exponent)

/-- The number that a float is, if it is finite. -/
def value? (x : Float) : Option ℚ := (Binary.ofFloat? x).map Binary.value

/-- The whole number without its sign, if the fraction is one. -/
def Binary.magnitude? (b : Binary) : Option Nat :=
  if 0 ≤ b.exponent then some (b.mantissa * Nat.pow 2 b.exponent.toNat)
  else
    let unit := Nat.pow 2 (-b.exponent).toNat
    if b.mantissa % unit = 0 then some (b.mantissa / unit) else none

/-- A whole number has its sign besides its magnitude. -/
theorem Binary.integer?_eq (b : Binary) :
    b.integer? = b.magnitude?.map fun n : Nat => if b.negative then -(n : ℤ) else n := by
  show (b.magnitude? >>= fun n => pure (n : ℤ)).map _ = _
  cases b.magnitude? <;> rfl

/-- The magnitude is the number without its sign, if that is whole. -/
theorem Binary.magnitude?_eq_some_iff (b : Binary) (n : Nat) :
    b.magnitude? = some n ↔ (b.mantissa : ℚ) * 2 ^ b.exponent = n := by
  unfold magnitude?
  split
  · next h =>
    obtain ⟨e, he⟩ := Int.eq_ofNat_of_zero_le h
    rw [he, Option.some_inj, Int.toNat_natCast, zpow_natCast, Nat.pow_eq]
    exact_mod_cast Iff.rfl
  · next h =>
    -- below the point, the number is whole if the unit divides the mantissa
    obtain ⟨e, he⟩ := Int.eq_ofNat_of_zero_le (a := -b.exponent) (by omega)
    have hunit : (2 : ℚ) ^ e ≠ 0 := pow_ne_zero e two_ne_zero
    have hexponent : b.exponent = -(e : ℤ) := by omega
    have hpos : 0 < 2 ^ e := Nat.two_pow_pos e
    have hvalue : (b.mantissa : ℚ) * 2 ^ b.exponent = n ↔ b.mantissa = n * 2 ^ e := by
      rw [hexponent, zpow_neg, zpow_natCast, mul_inv_eq_iff_eq_mul₀ hunit]
      exact_mod_cast Iff.rfl
    rw [hvalue, he, Int.toNat_natCast, Nat.pow_eq]
    dsimp only
    constructor
    · intro hsome
      split at hsome
      · next hmod =>
        cases hsome
        exact (Nat.div_mul_cancel (Nat.dvd_of_mod_eq_zero hmod)).symm
      · cases hsome
    · intro hmantissa
      rw [hmantissa, if_pos (Nat.mul_mod_left n _), Nat.mul_div_cancel n hpos]

/-- A binary fraction is found to be the whole number that it is. -/
theorem Binary.integer?_eq_some_iff (b : Binary) (n : ℤ) : b.integer? = some n ↔ b.value = n := by
  have hnonneg : (0 : ℚ) ≤ b.mantissa * 2 ^ b.exponent := by positivity
  rw [integer?_eq, Option.map_eq_some_iff, value]
  cases b.negative with
  | true =>
    rw [if_pos rfl, neg_one_mul, neg_eq_iff_eq_neg]
    constructor
    · rintro ⟨m, hm, rfl⟩
      rw [(b.magnitude?_eq_some_iff m).1 hm, if_pos rfl]
      push_cast
      exact (neg_neg _).symm
    · intro hvalue
      obtain ⟨m, hm⟩ := Int.eq_ofNat_of_zero_le (a := -n) (by exact_mod_cast hvalue ▸ hnonneg)
      refine ⟨m, (b.magnitude?_eq_some_iff m).2 ?_, ?_⟩
      · exact_mod_cast hvalue.trans (by exact_mod_cast hm)
      · rw [if_pos rfl]
        omega
  | false =>
    rw [if_neg (by decide), one_mul]
    constructor
    · rintro ⟨m, hm, rfl⟩
      exact_mod_cast (b.magnitude?_eq_some_iff m).1 hm
    · intro hvalue
      obtain ⟨m, rfl⟩ := Int.eq_ofNat_of_zero_le (a := n) (by exact_mod_cast hvalue ▸ hnonneg)
      exact ⟨m, (b.magnitude?_eq_some_iff m).2 (by exact_mod_cast hvalue), rfl⟩

/-- A float is found to be the whole number that it is. -/
theorem integer?_eq_some_iff (x : Float) (n : ℤ) :
    integer? x = some n ↔ value? x = some (n : ℚ) := by
  unfold integer? value?
  rw [Option.bind_eq_some_iff, Option.map_eq_some_iff]
  exact exists_congr fun b => and_congr_right fun _ => b.integer?_eq_some_iff n

end Decimal

/-! ## Passes -/

/-- The passes, the first of them first. -/
def Entries.passes : Entries → List Pass
  | listed index rest => rest.mapIdx fun i entry => ⟨index + i, entry.1, entry.2⟩
  | counted index rest => (List.range' index rest).map fun i => ⟨i, Pass.number i, Pass.number i⟩

/-- Without a next entry there is no pass. -/
theorem Entries.passes_of_none {es : Entries} (h : es.next? = none) : es.passes = [] := by
  cases es with
  | listed index rest =>
    cases rest with
    | nil => rfl
    | cons entry rest => cases h
  | counted index rest =>
    cases rest with
    | zero => rfl
    | succ rest => cases h

/-- The next entry is the first pass. -/
theorem Entries.passes_of_some {es rest : Entries} {p : Pass} (h : es.next? = some (p, rest)) :
    es.passes = p :: rest.passes := by
  cases es with
  | listed index entries =>
    cases entries with
    | nil => cases h
    | cons entry entries =>
      cases h
      rw [passes, passes, List.mapIdx_cons]
      refine congrArg _ (List.mapIdx_eq_mapIdx_iff.2 fun i hi => ?_)
      rw [Nat.add_right_comm, Nat.add_assoc]
  | counted index n =>
    cases n with
    | zero => cases h
    | succ n =>
      cases h
      rfl

/-- The passes that an iteration over a value makes, or the error that it fails with before any of
them. -/
inductive Value.Plans : Value → Except RenderError (List Pass) → Prop
  | items (id : Identity) (items : List Value) :
      Plans (.array id items) (.ok (items.mapIdx fun i v => ⟨i, Pass.number i, v⟩))
  | members (id : Identity) (members : Members Value) :
      Plans (.object id members) (.ok (members.toList.mapIdx fun i m => ⟨i, .text m.1, m.2⟩))
  | count {x : Float} {n : ℕ} (hx : Decimal.value? x = some (n : ℚ)) (hn : n ≤ 2 ^ 32 - 1) :
      Plans (.number x) (.ok ((List.range n).map fun i => ⟨i, Pass.number i, Pass.number i⟩))
  | tooMany {x : Float} {n : ℕ} (hx : Decimal.value? x = some (n : ℚ)) (hn : 2 ^ 32 - 1 < n) :
      Plans (.number x) (.error (.iterationLimit x))
  | noCount {x : Float} (hx : ∀ n : ℕ, Decimal.value? x ≠ some (n : ℚ)) :
      Plans (.number x) (.ok [])
  | neither {v : Value} (harray : ∀ id items, v ≠ .array id items)
      (hobject : ∀ id members, v ≠ .object id members) (hnumber : ∀ x, v ≠ .number x) :
      Plans v (.ok [])

/-- An iteration plans the passes that the value asks for. -/
theorem Value.plans_ofValue (v : Value) : v.Plans ((Entries.ofValue v).map Entries.passes) := by
  cases v with
  | undefined | null | bool | text | function =>
    exact .neither (fun _ _ h => by cases h) (fun _ _ h => by cases h) fun _ h => by cases h
  | array id items =>
    have hpasses : Entries.passes (.listed 0 (items.zipIdx.map fun p => (Pass.number p.2, p.1))) =
        items.mapIdx fun i v => ⟨i, Pass.number i, v⟩ := by
      refine List.ext_getElem? fun i => ?_
      simp only [Entries.passes, List.getElem?_mapIdx, List.getElem?_map, List.getElem?_zipIdx,
        Option.map_map, Nat.zero_add]
      rfl
    have hplan := Plans.items id items
    rw [← hpasses] at hplan
    exact hplan
  | object id members =>
    have hpasses : Entries.passes (.listed 0 (members.map fun m => (.text m.1, m.2))) =
        members.toList.mapIdx fun i m => ⟨i, .text m.1, m.2⟩ := by
      refine List.ext_getElem? fun i => ?_
      simp only [Entries.passes, Members.map, List.getElem?_mapIdx, List.getElem?_map,
        Option.map_map, Nat.zero_add]
      rfl
    have hplan := Plans.members id members
    rw [← hpasses] at hplan
    exact hplan
  | number x =>
    rw [Entries.ofValue]
    split
    · next n hn =>
      have hvalue : Decimal.value? x = some (n : ℚ) := (Decimal.integer?_eq_some_iff x n).1 hn
      by_cases hcount : n ≤ Entries.maxCount
      · rw [if_pos hcount]
        have hplan := Plans.count hvalue hcount
        rw [List.range_eq_range'] at hplan
        exact hplan
      · rw [if_neg hcount]
        exact .tooMany hvalue (Nat.lt_of_not_le hcount)
    · next hn =>
      exact .noCount fun n hvalue => hn n ((Decimal.integer?_eq_some_iff x n).2 hvalue)

/-- A value has only one plan. -/
theorem Value.Plans.unique {v : Value} {plan plan' : Except RenderError (List Pass)}
    (h : v.Plans plan) (h' : v.Plans plan') : plan = plan' := by
  -- a float is at most one number
  have hcount : ∀ {x : Float} {m n : ℕ}, Decimal.value? x = some (m : ℚ) →
      Decimal.value? x = some (n : ℚ) → m = n := fun hm hn =>
    Nat.cast_injective (Option.some_inj.1 (hm.symm.trans hn))
  cases h with
  | items id items =>
    cases h' with
    | items => rfl
    | neither harray => exact absurd rfl (harray id items)
  | members id members =>
    cases h' with
    | members => rfl
    | neither _ hobject => exact absurd rfl (hobject id members)
  | @count x n hx hn =>
    cases h' with
    | count hx' => rw [hcount hx hx']
    | tooMany hx' hn' => exact absurd hn (Nat.not_le_of_lt (hcount hx hx' ▸ hn'))
    | noCount hx' => exact absurd hx (hx' n)
    | neither _ _ hnumber => exact absurd rfl (hnumber x)
  | @tooMany x n hx hn =>
    cases h' with
    | count hx' hn' => exact absurd hn' (Nat.not_le_of_lt (hcount hx hx' ▸ hn))
    | tooMany => rfl
    | noCount hx' => exact absurd hx (hx' n)
    | neither _ _ hnumber => exact absurd rfl (hnumber x)
  | @noCount x hx =>
    cases h' with
    | @count _ n hx' => exact absurd hx' (hx n)
    | @tooMany _ n hx' => exact absurd hx' (hx n)
    | noCount => rfl
    | neither _ _ hnumber => exact absurd rfl (hnumber x)
  | neither harray hobject hnumber =>
    cases h' with
    | items id items => exact absurd rfl (harray id items)
    | members id members => exact absurd rfl (hobject id members)
    | @count x => exact absurd rfl (hnumber x)
    | @tooMany x => exact absurd rfl (hnumber x)
    | @noCount x => exact absurd rfl (hnumber x)
    | neither => rfl

/-- Actions one after the other, each when the one before it has succeeded. -/
def Action.inTurn : List (Action Unit) → Action Unit
  | [] => return ()
  | x :: xs => do
    x
    inTurn xs

/-- The passes are made one after the other. -/
theorem runEntries_eq (body : Frame → Site → Action Unit) (base : Frame) (site : Site)
    (es : Entries) :
    runEntries body base site es =
      Action.inTurn (es.passes.map fun p => body (p.frame base site) (p.site site)) := by
  fun_induction runEntries body base site es with
  | case1 es h => rw [Entries.passes_of_none h]; rfl
  | case2 es p rest h ih =>
    rw [Entries.passes_of_some h, List.map_cons, Action.inTurn, ih]

end Stencil
