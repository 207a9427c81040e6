import Stencil.Proofs.Frame.Follow

/-!
# Stencil.Proofs.Frame.Gaps — what stands for nothing in what a key finds

A key that is applied to a sequence leaves out the items in which it finds nothing, and finds `null`
if it finds nothing in any of them. It takes over what it finds in an item that is a sequence
itself as it is. So the values in a sequence that was found stand for something, but for those
that stood in the sequences that were put together (`Value.nullish_mem_collect_iff`).
-/

namespace Stencil

namespace Value

/-- Whether a value is `null`, or a sequence that is not empty and in which no value stands for
nothing. -/
inductive Gapless : Value → Prop
  | null : Gapless .null
  | items {i : Identity} {found : List Value} (hne : found ≠ [])
      (hfull : ∀ v ∈ found, v.isNullish = false) : Gapless (.array i found)

/-- What a key finds in a sequence: nothing at all, or what it finds in each item. -/
theorem fanOut_cases (key : String) (items : List Value) :
    (fanOut key items = null ∧ collect items key = []) ∨
      (fanOut key items = array .fresh (collect items key) ∧ collect items key ≠ []) := by
  have hflat : items.flatMap (contribution key) = collect items key :=
    List.flatMap_congr fun item _ => contribution_eq key item
  unfold fanOut
  rw [hflat]
  cases collect items key with
  | nil => exact .inl ⟨rfl, rfl⟩
  | cons v vs => exact .inr ⟨rfl, List.cons_ne_nil v vs⟩

/-- A value that stands for nothing is no element of anything but a sequence. -/
theorem nullish_mem_elements_iff {v w : Value} (hv : v.isNullish = true) :
    v ∈ w.elements ↔ ∃ i nested, w = array i nested ∧ v ∈ nested := by
  constructor
  · intro hmem
    cases w with
    | array i nested => exact ⟨i, nested, rfl, hmem⟩
    | undefined | null => cases hmem
    | bool | number | text | object | function =>
      -- the only element is the value itself, which stands for something
      rw [List.mem_singleton.1 hmem] at hv
      cases hv
  · rintro ⟨i, nested, rfl, hmem⟩
    exact hmem

/-- What stands for nothing in what a key finds stood in a sequence that it has found in an item. -/
theorem nullish_mem_collect_iff {v : Value} (hv : v.isNullish = true) (items : List Value)
    (key : String) :
    v ∈ collect items key ↔
      ∃ item ∈ items, ∃ i nested, item.property key = array i nested ∧ v ∈ nested := by
  unfold collect
  rw [List.mem_flatMap]
  exact exists_congr fun item => and_congr_right fun _ => nullish_mem_elements_iff hv

/-- What a key finds in a sequence has no gaps just when the sequences that it finds in the items
have none. -/
theorem gapless_fanOut_iff (key : String) (items : List Value) :
    (fanOut key items).Gapless ↔
      ∀ item ∈ items, ∀ i nested, item.property key = array i nested →
        ∀ v ∈ nested, v.isNullish = false := by
  -- what is left out is left out item by item, so that nested sequences alone can bring it in
  have hfull : (∀ v ∈ collect items key, v.isNullish = false) ↔
      ∀ item ∈ items, ∀ i nested, item.property key = array i nested →
        ∀ v ∈ nested, v.isNullish = false := by
    constructor
    · intro h item hitem i nested hnested v hv
      refine Bool.eq_false_iff.2 fun hnull => ?_
      have hmem : v ∈ collect items key :=
        (nullish_mem_collect_iff hnull items key).2 ⟨item, hitem, i, nested, hnested, hv⟩
      exact Bool.eq_false_iff.1 (h v hmem) hnull
    · intro h v hv
      refine Bool.eq_false_iff.2 fun hnull => ?_
      obtain ⟨item, hitem, i, nested, hnested, hmem⟩ :=
        (nullish_mem_collect_iff hnull items key).1 hv
      exact Bool.eq_false_iff.1 (h item hitem i nested hnested v hmem) hnull
  rw [← hfull]
  rcases fanOut_cases key items with ⟨heq, hnil⟩ | ⟨heq, hne⟩
  · rw [heq, hnil]
    exact iff_of_true .null (List.forall_mem_nil _)
  · rw [heq]
    constructor
    · intro h
      cases h with
      | items _ h => exact h
    · exact .items hne

end Value

namespace Frame

/-- A path whose last key comes to a sequence leads to what the key finds in it. -/
theorem data_get_sequence {f : Frame} {path : String} {keys : List String} {key : String}
    (hkeys : (Path.ofString path).keys = keys ++ [key]) {i : Identity} {items : List Value}
    (hitems : (f.start (Path.ofString path).anchor).data.follow keys = .array i items) :
    (f.get path).data = Value.fanOut key items := by
  show f.lookup path = _
  unfold lookup
  dsimp only
  rw [hkeys, Value.follow_append, hitems]
  rfl

/-- **A key leaves out the items of a sequence in which it finds nothing.** A path whose last key is
applied to a sequence leads to `null`, if the key finds nothing in any item, or else to a sequence
that is not empty, of what it finds in the items, one after the other. It has no gaps if the
sequences that the key finds in the items have none, and only then: their items are taken over
whether they stand for something or not. -/
theorem gapless_get_iff {f : Frame} {path : String} {keys : List String} {key : String}
    (hkeys : (Path.ofString path).keys = keys ++ [key]) {i : Identity} {items : List Value}
    (hitems : (f.start (Path.ofString path).anchor).data.follow keys = .array i items) :
    (((f.get path).data = .null ∧ ∀ item ∈ items, (item.property key).elements = []) ∨
      ∃ found, found ≠ [] ∧ (f.get path).data = .array .fresh found ∧
        found = items.flatMap fun item => (item.property key).elements) ∧
    ((f.get path).data.Gapless ↔ ∀ item ∈ items, ∀ j nested,
      item.property key = .array j nested → ∀ v ∈ nested, v.isNullish = false) := by
  rw [data_get_sequence hkeys hitems]
  refine ⟨?_, Value.gapless_fanOut_iff key items⟩
  rcases Value.fanOut_cases key items with ⟨heq, hnil⟩ | ⟨heq, hne⟩
  · exact .inl ⟨heq, List.flatMap_eq_nil_iff.1 hnil⟩
  · exact .inr ⟨_, hne, heq, rfl⟩

/-- Items with a text, with nothing, with `null`, and with a sequence. -/
def people : List Value :=
  [.object (.given 1) (.ofList [("a", .text "x")]), .object (.given 2) .empty,
    .object (.given 3) (.ofList [("a", .null)]),
    .object (.given 4) (.ofList [("a", .array (.given 5) [.text "y", .text "z"])])]

/-- Nothing and `null` are left out, and the sequence is taken over. -/
theorem gapless_get_iff_people :
    let f := ofData (.object (.given 0) (.ofList [("xs", .array (.given 6) people)]))
    (Path.ofString "xs.a").keys = ["xs"] ++ ["a"] ∧
      f.data.follow ["xs"] = .array (.given 6) people ∧
      (f.get "xs.a").data = .array .fresh [.text "x", .text "y", .text "z"] ∧
      (f.get "xs.a").data.Gapless := by
  intro f
  have hkeys : (Path.ofString "xs.a").keys = ["xs"] ++ ["a"] := by decide
  have hitems : f.data.follow ["xs"] = .array (.given 6) people := rfl
  refine ⟨hkeys, hitems, rfl, (gapless_get_iff (f := f) hkeys hitems).2.2 ?_⟩
  intro item hitem j nested hnested
  rcases List.mem_cons.1 hitem with rfl | hitem
  · cases hnested
  rcases List.mem_cons.1 hitem with rfl | hitem
  · cases hnested
  rcases List.mem_cons.1 hitem with rfl | hitem
  · cases hnested
  rcases List.mem_singleton.1 hitem with rfl
  cases hnested
  exact List.forall_mem_cons.2 ⟨rfl, List.forall_mem_singleton.2 rfl⟩

/-- A `null` that stands in a sequence of an item is found. -/
theorem gap_found_in_nested_sequence :
    ¬ ∀ (f : Frame) (path : String) (keys : List String) (key : String) (i : Identity)
        (items : List Value), (Path.ofString path).keys = keys ++ [key] →
          (f.start (Path.ofString path).anchor).data.follow keys = .array i items →
            (f.get path).data.Gapless := by
  intro h
  let item : Value := .object (.given 1) (.ofList [("a", .array (.given 2) [.null, .text "x"])])
  let f := ofData (.object (.given 0) (.ofList [("xs", .array (.given 3) [item])]))
  have hgapless := h f "xs.a" ["xs"] "a" (.given 3) [item] (by decide) rfl
  have hdata : (f.get "xs.a").data = .array .fresh [.null, .text "x"] := rfl
  rw [hdata] at hgapless
  cases hgapless with
  | items _ hfull => cases hfull .null List.mem_cons_self

end Frame

end Stencil
