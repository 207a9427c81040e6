import Mathlib.Data.List.Nodup
import Stencil.Program.Run

/-!
# Stencil.Proofs.Program.Merge — the data of a named render

A named render gives data over those of the declaration. `Value.Merged` says what comes of the
two: of two objects one with the keys of both, those of the declaration first, in which the call
site's values win; what is given otherwise; and the declared data where nothing is given. This is
what is made of them (`Value.merged_mergeData`).
-/

namespace Stencil.Value

/-! ## Setting a member -/

section Put

variable {α : Type} (members : List (String × α)) (key : String) (v : α)

/-- A key that is not there has no value. -/
theorem lookup_eq_none_of_not_mem (h : key ∉ members.map (·.1)) : members.lookup key = none := by
  refine List.lookup_eq_none_iff.2 fun m hm => bne_iff_ne.2 ?_
  rintro rfl
  exact h (List.mem_map_of_mem hm)

/-- Where a key is there, the value that is set in place is found. -/
theorem lookup_map_of_mem (h : key ∈ members.map (·.1)) :
    (members.map fun m => if m.1 == key then (key, v) else m).lookup key = some v := by
  induction members with
  | nil => cases h
  | cons m members ih =>
    rcases m with ⟨first, u⟩
    rw [List.map_cons]
    by_cases hfirst : first = key
    · rw [if_pos (beq_iff_eq.2 hfirst)]
      exact List.lookup_cons_self
    · have hrest : key ∈ members.map (·.1) := by
        rcases List.mem_cons.1 h with rfl | hrest
        · exact absurd rfl hfirst
        · exact hrest
      rw [if_neg (mt beq_iff_eq.1 hfirst), List.lookup_cons, beq_false_of_ne (Ne.symm hfirst)]
      exact ih hrest

/-- What is set is what is found. -/
theorem lookup_put_self : (put members key v).lookup key = some v := by
  unfold put
  split
  · next h =>
    refine lookup_map_of_mem members key v ?_
    obtain ⟨m, hm, hkey⟩ := List.any_eq_true.1 h
    exact List.mem_map.2 ⟨m, hm, beq_iff_eq.1 hkey⟩
  · next h =>
    have hnone : members.lookup key = none := by
      refine lookup_eq_none_of_not_mem members key fun hkey => h ?_
      obtain ⟨m, hm, rfl⟩ := List.mem_map.1 hkey
      exact List.any_eq_true.2 ⟨m, hm, beq_self_eq_true _⟩
    rw [List.lookup_append, hnone]
    exact List.lookup_cons_self

/-- Nothing else changes. -/
theorem lookup_put_of_ne {other : String} (h : other ≠ key) :
    (put members key v).lookup other = members.lookup other := by
  have hnot : (other == key) = false := beq_false_of_ne h
  unfold put
  split
  · clear * - hnot
    induction members with
    | nil => rfl
    | cons m members ih =>
      rcases m with ⟨first, u⟩
      rw [List.map_cons, List.lookup_cons, List.lookup_cons, ih]
      by_cases hfirst : first = key
      · simp [hfirst, hnot]
      · simp [hfirst]
  · rw [List.lookup_append, List.lookup_cons, hnot]
    exact Option.or_none

end Put

/-! ## Setting many -/

section PutAll

variable {α : Type} {added : List (String × α)} (kept : List (String × α))

/-- The keys that are there come first, in their order, then the new ones in theirs. -/
theorem keys_putAll (h : (added.map (·.1)).Nodup) :
    (putAll kept added).map (·.1) =
      kept.map (·.1) ++ (added.map (·.1)).filter (· ∉ kept.map (·.1)) := by
  induction added generalizing kept with
  | nil => exact (List.append_nil _).symm
  | cons m added ih =>
    rcases m with ⟨key, v⟩
    obtain ⟨hkey, hrest⟩ := List.nodup_cons.1 h
    rw [putAll, List.foldl_cons]
    change (putAll (put kept key v) added).map (·.1) = _
    rw [ih _ hrest, keys_put, List.map_cons]
    -- a key that is there already stays where it is, and any other comes last
    by_cases hmem : key ∈ kept.map (·.1)
    · rw [if_pos hmem, List.filter_cons_of_neg (by simpa using hmem)]
    · have hfilter : (added.map (·.1)).filter (· ∉ kept.map (·.1) ++ [key]) =
          (added.map (·.1)).filter (· ∉ kept.map (·.1)) := by
        refine List.filter_congr fun other hother => ?_
        have hne : other ≠ key := by
          rintro rfl
          exact hkey hother
        simp [hne]
      rw [if_neg hmem, hfilter, List.filter_cons_of_pos (by simpa using hmem),
        List.append_assoc, List.singleton_append]

/-- What is set wins over what is there. -/
theorem lookup_putAll (h : (added.map (·.1)).Nodup) (key : String) :
    (putAll kept added).lookup key =
      (added.lookup key).or (kept.lookup key) := by
  induction added generalizing kept with
  | nil => rfl
  | cons m added ih =>
    rcases m with ⟨first, v⟩
    obtain ⟨hfirst, hrest⟩ := List.nodup_cons.1 h
    rw [putAll, List.foldl_cons]
    change (putAll (put kept first v) added).lookup key = _
    rw [ih _ hrest, List.lookup_cons]
    by_cases hkey : key = first
    · -- nothing behind it has this key, so it is not set again
      subst hkey
      rw [lookup_put_self, lookup_eq_none_of_not_mem added key hfirst, beq_self_eq_true]
      rfl
    · rw [lookup_put_of_ne kept first v hkey, beq_false_of_ne hkey]

end PutAll

end Stencil.Value

/-! ## Members -/

namespace Stencil.Members

variable {α : Type}

theorem nodup_keys_toList (m : Members α) : (m.toList.map (·.1)).Nodup :=
  m.keys_toList ▸ m.distinct

/-- The keys of both, those that were there first. -/
theorem keys_putAll (kept added : Members α) :
    (kept.putAll added.toList).keys = kept.keys ++ added.keys.filter (· ∉ kept.keys) := by
  have hkeys := Value.keys_putAll kept.toList added.nodup_keys_toList
  rwa [keys_toList, keys_toList] at hkeys

/-- What is set wins over what is there. -/
theorem find?_putAll (kept added : Members α) (key : String) :
    (kept.putAll added.toList).find? key = (added.find? key).or (kept.find? key) := by
  rw [find?_eq, find?_eq, find?_eq, putAll, toList_ofPairs]
  exact Value.lookup_putAll kept.toList added.nodup_keys_toList key

end Stencil.Members

/-! ## Merging -/

namespace Stencil.Value

/-- Whether these are the data of a named render that is made at this place, when `given` is what
the call site gives. -/
inductive Merged (site : Site) : (given declared data : Value) → Prop
  /-- The declared data, where nothing is given. -/
  | declared {given declared : Value} (h : given.isNullish = true) :
      Merged site given declared (declared.heldAt site)
  /-- A new object with the keys of both. The call site's values win. -/
  | members {i j : Identity} {added kept both : Members Value}
      (keys : both.keys = kept.keys ++ added.keys.filter (· ∉ kept.keys))
      (values : ∀ key, both.find? key = (added.find? key).or (kept.find? key)) :
      Merged site (object i added) (object j kept) (object (.made site) both)
  /-- What is given, unless both are objects. -/
  | given {given declared : Value} (h : given.isNullish = false)
      (hnot : ∀ i added j kept, given = object i added → declared ≠ object j kept) :
      Merged site given declared (given.heldAt site)

/-- These are the data that are made of what is given and what was declared. -/
theorem merged_mergeData (site : Site) (given declared : Value) :
    Merged site given declared ((mergeData given declared).heldAt site) := by
  cases given with
  | undefined => exact .declared rfl
  | null => exact .declared rfl
  | object i added =>
    cases declared with
    | object j kept => exact .members (kept.keys_putAll added) (kept.find?_putAll added)
    | undefined | null | bool | number | text | array | function =>
      exact .given rfl fun _ _ _ _ _ hdeclared => nomatch hdeclared
  | bool | number | text | array | function =>
    exact .given rfl fun _ _ _ _ hgiven => nomatch hgiven

end Stencil.Value
