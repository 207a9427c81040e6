import Stencil.Frame.Basic
import Stencil.Proofs.Frame.Pattern

/-!
# Stencil.Proofs.Frame.Follow — paths one behind the other

The keys of a path are applied one after the other (`Value.follow_eq_foldl`), so a path behind
another one finds what both together do. A key is applied to a whole sequence at a time, and what
it finds may be `null` or a sequence again. Seen by its elements (`Value.elements`) all of this is
one thing: each key collects what it finds in each element of what came before
(`Value.elements_follow`), so a path through a sequence finds what it finds in its parts.
-/

namespace Stencil

namespace Value

/-! ## One key after the other -/

/-- What one key finds in a value. -/
def find (v : Value) (key : String) : Value :=
  match v with
  | array _ items => fanOut key items
  | v => v.property key

/-- Nothing is found in what is not there. -/
theorem foldl_find_undefined (keys : List String) : keys.foldl find undefined = undefined := by
  induction keys with
  | nil => rfl
  | cons key keys ih => exact ih

/-- A path is followed key by key. -/
theorem follow_eq_foldl (keys : List String) (v : Value) : v.follow keys = keys.foldl find v := by
  induction keys generalizing v with
  | nil => rfl
  | cons key keys ih =>
    cases v with
    -- nothing is left to find, which is what finding on comes to
    | undefined => exact (foldl_find_undefined keys).symm
    | null => exact (foldl_find_undefined keys).symm
    | array i items => exact ih (fanOut key items)
    | object i members => exact ih ((object i members).property key)
    | bool | number | text | function => exact ih undefined

/-- Keys behind others find what all of them do. -/
theorem follow_append (ks ls : List String) (v : Value) :
    v.follow (ks ++ ls) = (v.follow ks).follow ls := by
  simp only [follow_eq_foldl, List.foldl_append]

/-- By which place a frame knows its data is the same to keys. -/
theorem follow_heldAt {keys : List String} (h : keys ≠ []) (site : Site) (v : Value) :
    (v.heldAt site).follow keys = v.follow keys := by
  cases keys with
  | nil => exact absurd rfl h
  | cons key keys =>
    have hfind : (v.heldAt site).find key = v.find key := by
      cases v <;> rfl
    rw [follow_eq_foldl, follow_eq_foldl, List.foldl_cons, hfind, List.foldl_cons]

/-! ## Element by element -/

/-- The elements of a sequence. Anything else is its only element, and what stands for nothing has
none. -/
def elements : Value → List Value
  | undefined | null => []
  | array _ items => items
  | v => [v]

/-- What a key finds in each of the values. -/
def collect (found : List Value) (key : String) : List Value :=
  found.flatMap fun item => (item.property key).elements

/-- An item contributes the elements of what it has under the key. -/
theorem contribution_eq (key : String) (item : Value) :
    contribution key item = (item.property key).elements := by
  unfold contribution
  cases item.property key <;> rfl

/-- The elements of a fan-out are what its items contribute. -/
theorem elements_fanOut (key : String) (items : List Value) :
    (fanOut key items).elements = collect items key := by
  have hflat : items.flatMap (contribution key) = collect items key :=
    List.flatMap_congr fun item _ => contribution_eq key item
  unfold fanOut
  rw [hflat]
  cases collect items key <;> rfl

theorem collect_singleton (v : Value) (key : String) :
    collect [v] key = (v.property key).elements :=
  List.flatMap_singleton ..

/-- What a key finds has the elements that it finds in each element. -/
theorem elements_find (v : Value) (key : String) :
    (v.find key).elements = collect v.elements key := by
  cases v with
  | array i items => exact elements_fanOut key items
  | undefined | null => rfl
  | bool b => exact (collect_singleton (bool b) key).symm
  | number n => exact (collect_singleton (number n) key).symm
  | text s => exact (collect_singleton (text s) key).symm
  | object i members => exact (collect_singleton (object i members) key).symm
  | function f => exact (collect_singleton (function f) key).symm

/-- So does what a list of keys finds. -/
theorem elements_follow (keys : List String) (v : Value) :
    (v.follow keys).elements = keys.foldl collect v.elements := by
  rw [follow_eq_foldl]
  induction keys generalizing v with
  | nil => rfl
  | cons key keys ih => rw [List.foldl_cons, List.foldl_cons, ih, elements_find]

/-- Two sequences in a row contribute one after the other. -/
theorem foldl_collect_append (keys : List String) (A B : List Value) :
    keys.foldl collect (A ++ B) = keys.foldl collect A ++ keys.foldl collect B := by
  induction keys generalizing A B with
  | nil => rfl
  | cons key keys ih =>
    have happend : collect (A ++ B) key = collect A key ++ collect B key := List.flatMap_append
    rw [List.foldl_cons, List.foldl_cons, List.foldl_cons, happend, ih]

/-- Keys find in a sequence of one value what they find in the value. -/
theorem elements_follow_singleton {keys : List String} (h : keys ≠ []) (i : Identity) {v : Value}
    (hv : ∀ j items, v ≠ array j items) :
    ((array i [v]).follow keys).elements = (v.follow keys).elements := by
  cases keys with
  | nil => exact absurd rfl h
  | cons key keys =>
    have hfind : v.find key = v.property key := by
      cases v with
      | array j items => exact absurd rfl (hv j items)
      | undefined | null | bool | number | text | object | function => rfl
    have hkey : collect v.elements key = collect [v] key := by
      rw [← elements_find, hfind, collect_singleton]
    rw [elements_follow, elements_follow, List.foldl_cons, List.foldl_cons, hkey]
    rfl

end Value

/-! ## The keys of paths -/

namespace Path

/-- A name has at least one piece. -/
theorem pieces_ne_nil (cs : List Char) : pieces cs ≠ [] := by
  cases cs with
  | nil => exact List.cons_ne_nil _ _
  | cons c cs =>
    rw [pieces]
    split
    · exact List.cons_ne_nil _ _
    · split <;> exact List.cons_ne_nil _ _

/-- A dot separates pieces. -/
theorem pieces_append_dot (xs ys : List Char) :
    pieces (xs ++ '.' :: ys) = pieces xs ++ pieces ys := by
  induction xs with
  | nil => rfl
  | cons c xs ih =>
    rw [List.cons_append, pieces, pieces, ih]
    split
    · rfl
    · obtain ⟨p, ps, hp⟩ := List.exists_cons_of_ne_nil (pieces_ne_nil xs)
      rw [hp]
      rfl

/-- The keys of a path behind another one are those of both. -/
theorem keysOf_append_dot (xs ys : List Char) :
    keysOf (xs ++ '.' :: ys) = keysOf xs ++ keysOf ys := by
  unfold keysOf
  rw [pieces_append_dot, List.filter_append, List.map_append]

/-- A path that starts with a name starts at the frame itself, and follows keys. -/
theorem ofChars_of_startsIdent {cs : List Char} (h : Expr.Name.startsIdent cs = true) :
    ofChars cs = ⟨.up 0, keysOf cs⟩ ∧ keysOf cs ≠ [] := by
  cases cs with
  | nil => cases h
  | cons c cs =>
    have hhead : Expr.Name.isHead c = true := h
    -- an identifier begins with no mark, so there is no anchor
    have htilde : c ≠ '~' := by
      rintro rfl
      cases hhead
    have hdot : c ≠ '.' := by
      rintro rfl
      cases hhead
    constructor
    · unfold ofChars
      split
      · next heq => exact absurd (List.cons.inj heq).1 htilde
      · rw [List.takeWhile_cons_of_neg (by simpa using hdot)]
        rfl
    · obtain ⟨p, ps, hp⟩ := List.exists_cons_of_ne_nil (pieces_ne_nil cs)
      unfold keysOf
      rw [pieces, if_neg hdot, hp]
      simp

end Path

namespace Frame

variable {p : String}

/-- A dotted name leads from the data of the frame itself. -/
theorem data_get (hp : p.toList ∈ Path.dotted.matches') (f : Frame) :
    (f.get p).data = f.data.follow (Path.keysOf p.toList) := by
  have hpath := (Path.ofChars_of_startsIdent (Expr.Name.takeDotted_of_mem hp).1).1
  unfold Frame.get lookup Path.ofString
  rw [hpath]
  rfl

theorem keysOf_ne_nil (hp : p.toList ∈ Path.dotted.matches') : Path.keysOf p.toList ≠ [] :=
  (Path.ofChars_of_startsIdent (Expr.Name.takeDotted_of_mem hp).1).2

/-- A directive with a context sees the data at the end of it, known by a place. -/
theorem data_reroot (f : Frame) (site : Site) (p : String) :
    (f.reroot site (some p)).data = (f.get p).data.heldAt site := rfl

/-- **Paths resolve one behind the other, and through sequences part by part.** -/
theorem resolves_compositionally {p q : String} (hp : p.toList ∈ Path.dotted.matches')
    (hq : q.toList ∈ Path.dotted.matches') :
    (∀ f : Frame, ((f.get p).get q).data = (f.get (p ++ "." ++ q)).data) ∧
    (∀ (f : Frame) (site : Site),
      ((f.reroot site (some p)).get q).data = (f.get (p ++ "." ++ q)).data) ∧
    (∀ (f g h : Frame) (i j k : Identity) (A B : List Value),
      f.data = .array i (A ++ B) → g.data = .array j A → h.data = .array k B →
        (f.get p).data.elements = (g.get p).data.elements ++ (h.get p).data.elements) ∧
    (∀ (f g : Frame) (i : Identity) (v : Value), (∀ j items, v ≠ .array j items) →
      f.data = .array i [v] → g.data = v →
        (f.get p).data.elements = (g.get p).data.elements) := by
  have hchars : (p ++ "." ++ q).toList = p.toList ++ '.' :: q.toList := by
    rw [String.toList_append, String.toList_append, List.append_assoc]
    rfl
  have hboth : (p ++ "." ++ q).toList ∈ Path.dotted.matches' := by
    rw [hchars]
    exact Expr.Name.append_dot_mem_dotted hp hq
  -- a longer path is a shorter one that is followed further
  have hfollow : ∀ f : Frame,
      (f.get (p ++ "." ++ q)).data = (f.get p).data.follow (Path.keysOf q.toList) := by
    intro f
    rw [data_get hboth, data_get hp, hchars, Path.keysOf_append_dot, Value.follow_append]
  refine ⟨?_, ?_, ?_, ?_⟩
  · intro f
    rw [data_get hq, hfollow]
  · intro f site
    rw [data_get hq, data_reroot, Value.follow_heldAt (keysOf_ne_nil hq), hfollow]
  · intro f g h i j k A B hf hg hh
    rw [data_get hp, data_get hp, data_get hp, hf, hg, hh, Value.elements_follow,
      Value.elements_follow, Value.elements_follow]
    exact Value.foldl_collect_append (Path.keysOf p.toList) A B
  · intro f g i v hv hf hg
    rw [data_get hp, data_get hp, hf, hg]
    exact Value.elements_follow_singleton (keysOf_ne_nil hp) i hv

/-- Objects whose member `b` is a sequence, nothing, or a text. -/
def nested : List Value :=
  [.object (.given 1) (.ofList [("b", .array (.given 2) [.text "x", .text "y"])]),
    .object (.given 3) (.ofList [("b", .null)]), .object (.given 4) (.ofList [("b", .text "z")])]

/-- The names lead through all of these objects, through those of each part, and through one. -/
theorem resolves_compositionally_nested :
    let both : Value := .object (.given 5) (.ofList [("a", .array (.given 6) nested)])
    let last : Value := .object (.given 4) (.ofList [("b", .text "z")])
    (((ofData both).get "a").get "b").data = .array .fresh [.text "x", .text "y", .text "z"] ∧
      ((ofData (.array (.given 6) (nested ++ nested))).get "b").data.elements =
        [.text "x", .text "y", .text "z"] ++ [.text "x", .text "y", .text "z"] ∧
      ((ofData (.array (.given 6) [last])).get "b").data.elements = [.text "z"] := by
  intro both last
  have hname : ∀ cs, Expr.Name.startsIdent cs = true →
      (Expr.Name.takeDotted cs).1 ∈ Path.dotted.matches' := fun _ => Expr.Name.takeDotted_mem
  have ha : "a".toList ∈ Path.dotted.matches' := hname "a".toList rfl
  have hb : "b".toList ∈ Path.dotted.matches' := hname "b".toList rfl
  refine ⟨?_, ?_, ?_⟩
  · exact (resolves_compositionally ha hb).1 (ofData _)
  · exact (resolves_compositionally hb ha).2.2.1 (ofData _) (ofData (.array (.given 6) nested))
      (ofData (.array (.given 7) nested)) _ _ _ nested nested rfl rfl rfl
  · exact (resolves_compositionally hb ha).2.2.2 (ofData _) (ofData last) _ _
      (fun _ _ => Value.noConfusion) rfl rfl

end Frame

end Stencil
