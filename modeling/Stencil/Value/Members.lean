/-!
# Stencil.Value.Members — the members of an object

Values under keys, each key there once, in the order in which keys were added. `Members` carries
the proof of that: an object with a key twice cannot be built. As a list (`Members.toList`) members
are changed by setting keys one after the other (`Value.put`), which leaves every key there once
(`Value.nodup_keys_put`).
-/

namespace Stencil

/-! ## Pairs -/

namespace Value

variable {α : Type}

/-- The pairs with the value of `key` set: in place, or added at the end. -/
def put (members : List (String × α)) (key : String) (v : α) : List (String × α) :=
  if members.any (·.1 == key) then
    members.map fun m => if m.1 == key then (key, v) else m
  else members ++ [(key, v)]

/-- The pairs with many values set, one after the other. -/
def putAll (members : List (String × α)) (added : List (String × α)) : List (String × α) :=
  added.foldl (fun members m => put members m.1 m.2) members

/-- The keys stay in their order, and a new one is added at the end. -/
theorem keys_put (members : List (String × α)) (key : String) (v : α) :
    (put members key v).map (·.1) =
      if key ∈ members.map (·.1) then members.map (·.1) else members.map (·.1) ++ [key] := by
  have hany : members.any (·.1 == key) = true ↔ key ∈ members.map (·.1) := by
    rw [List.any_eq_true, List.mem_map]
    simp only [beq_iff_eq]
  unfold put
  by_cases hkey : key ∈ members.map (·.1)
  · have hsame : ∀ m : String × α, (if m.1 == key then (key, v) else m).1 = m.1 := by
      intro m
      split
      · next h => exact (beq_iff_eq.1 h).symm
      · rfl
    rw [if_pos (hany.2 hkey), if_pos hkey, List.map_map]
    exact List.map_congr_left fun m _ => hsame m
  · rw [if_neg (mt hany.1 hkey), if_neg hkey, List.map_append]
    rfl

/-- Setting a key leaves every key there once. -/
theorem nodup_keys_put {members : List (String × α)} (h : (members.map (·.1)).Nodup)
    (key : String) (v : α) : ((put members key v).map (·.1)).Nodup := by
  rw [keys_put]
  split
  · exact h
  · next hkey =>
    -- the key at the end is new
    refine List.nodup_append.2 ⟨h, List.nodup_cons.2 ⟨List.not_mem_nil, List.nodup_nil⟩, ?_⟩
    rintro other hother _ hother' rfl
    exact hkey (List.mem_singleton.1 hother' ▸ hother)

/-- However many are set, every key is there once. -/
theorem nodup_keys_putAll {members : List (String × α)} (h : (members.map (·.1)).Nodup)
    (added : List (String × α)) : ((putAll members added).map (·.1)).Nodup := by
  induction added generalizing members with
  | nil => exact h
  | cons m added ih => exact ih (nodup_keys_put h m.1 m.2)

end Value

/-! ## Members -/

/-- Values under keys, in the order in which the keys were added. -/
structure Members (α : Type) where
  keys : List String
  distinct : keys.Nodup
  value : Fin keys.length → α

namespace Members

variable {α : Type}

/-- The members as pairs. -/
def toList (m : Members α) : List (String × α) :=
  List.ofFn fun i => (m.keys.get i, m.value i)

/-- What a function makes of each of the pairs. -/
def map {β : Type} (m : Members α) (f : String × α → β) : List β := m.toList.map f

/-- The value under a key. -/
def find? (m : Members α) (key : String) : Option α := (m.keys.finIdxOf? key).map m.value

/-- Pairs that have each key once, as members. -/
def ofPairs (pairs : List (String × α)) (h : (pairs.map (·.1)).Nodup) : Members α where
  keys := pairs.map (·.1)
  distinct := h
  value i := (pairs.get (i.cast (List.length_map _))).2

/-- No members. -/
def empty : Members α := ofPairs [] List.nodup_nil

/-- The pairs have the keys, in their order. -/
theorem keys_toList (m : Members α) : m.toList.map (·.1) = m.keys := by
  refine List.ext_getElem ?_ fun i h₁ h₂ => ?_
  · simp [toList]
  · simp [toList]

/-- Pairs that are taken as members are their pairs. -/
theorem toList_ofPairs (pairs : List (String × α)) (h : (pairs.map (·.1)).Nodup) :
    (ofPairs pairs h).toList = pairs := by
  refine List.ext_getElem ?_ fun i h₁ h₂ => ?_
  · simp [toList, ofPairs]
  · simp [toList, ofPairs]

/-- A key is found where it is among the pairs. -/
theorem find?_eq (m : Members α) (key : String) : m.find? key = m.toList.lookup key := by
  suffices h : ∀ (keys : List String) (value : Fin keys.length → α),
      (keys.finIdxOf? key).map value =
        (List.ofFn fun i => (keys.get i, value i)).lookup key from h m.keys m.value
  intro keys
  induction keys with
  | nil => exact fun value => rfl
  | cons first keys ih =>
    intro value
    have hrest := ih fun i => value i.succ
    have hpairs : (List.ofFn fun i => ((first :: keys).get i, value i)) =
        (first, value 0) :: List.ofFn fun i => (keys.get i, value i.succ) := List.ofFn_succ
    rw [List.finIdxOf?_cons, hpairs, List.lookup_cons, ← hrest]
    by_cases hkey : first = key
    · simp [hkey]
    · rw [if_neg (mt beq_iff_eq.1 hkey), Option.map_map, beq_false_of_ne (Ne.symm hkey)]
      rfl

/-- The members with others set, one after the other. -/
def putAll (m : Members α) (added : List (String × α)) : Members α :=
  ofPairs (Value.putAll m.toList added)
    (Value.nodup_keys_putAll (m.keys_toList ▸ m.distinct) added)

/-- Members from pairs. Of those with the same key the last one counts, at the place of the first
one. -/
def ofList (pairs : List (String × α)) : Members α := empty.putAll pairs

/-- Pairs may stand where members are expected. -/
instance : Coe (List (String × α)) (Members α) := ⟨ofList⟩

end Members

end Stencil
