import Stencil.Proofs.Environment.History

/-!
# Stencil.Proofs.Catalog.Names — names of templates

A catalog keeps a template under its name without the extension, and looks for it in the same way.
So names that differ in one extension mean the same template, whatever has been done with the
catalog (`Catalog.keyed_by_stem`). Only one extension is taken away: a template whose name carried
two is listed under a name that still carries one, and is not found under that name
(`Catalog.listed_name_not_found`).
-/

namespace Stencil

/-! ## Names without their extension -/

/-- An ending is stripped off a name that has it, and off no other. -/
theorem stripEnding?_eq_some_iff {ending name stem : List Char} :
    stripEnding? ending name = some stem ↔ name = stem ++ ending := by
  unfold stripEnding?
  constructor
  · intro h
    split at h
    · next hsuffix =>
      obtain ⟨start, rfl⟩ := List.reverse_prefix.1 (List.isPrefixOf_iff_prefix.1 hsuffix)
      cases h
      simp
    · cases h
  · rintro rfl
    rw [if_pos (List.isPrefixOf_iff_prefix.2 (List.reverse_prefix.2 (List.suffix_append _ _)))]
    simp

/-- Whether a name carries no extension, or is nothing else. -/
def IsPlainName (name : String) : Prop :=
  ∀ stem ≠ "", ∀ ending ∈ templateExtensions, name ≠ stem ++ ending

/-- No name has both extensions at its end. -/
theorem stripEnding?_append_of_ne {ending other : String} (hending : ending ∈ templateExtensions)
    (hother : other ∈ templateExtensions) (hne : other ≠ ending) (stem : String) :
    stripEnding? other.toList (stem ++ ending).toList = none := by
  by_contra hsome
  obtain ⟨start, hstart⟩ := Option.ne_none_iff_exists'.1 hsome
  have hends := congrArg List.reverse (stripEnding?_eq_some_iff.1 hstart)
  simp only [templateExtensions, List.mem_cons, List.not_mem_nil, or_false] at hending hother
  rcases hending with rfl | rfl <;> rcases hother with rfl | rfl
  · exact hne rfl
  · simp at hends
  · simp at hends
  · exact hne rfl

/-- A stem with an extension is found to be just that: no extension ends in another. -/
theorem findSome?_stripEnding?_append {ending : String} (hending : ending ∈ templateExtensions)
    (stem : String) :
    (templateExtensions.findSome? fun e => stripEnding? e.toList (stem ++ ending).toList) =
      some stem.toList := by
  have hfound : stripEnding? ending.toList (stem ++ ending).toList = some stem.toList :=
    stripEnding?_eq_some_iff.2 String.toList_append
  have hsome : (templateExtensions.findSome? fun e =>
      stripEnding? e.toList (stem ++ ending).toList).isSome = true :=
    List.findSome?_isSome_iff.2 ⟨ending, hending, by rw [hfound, Option.isSome_some]⟩
  obtain ⟨start, hstart⟩ := Option.isSome_iff_exists.1 hsome
  obtain ⟨other, hother, heq⟩ := List.exists_of_findSome?_eq_some hstart
  -- the extension that is found is the one that is there
  by_cases hne : other = ending
  · rw [hstart, ← heq, hne, hfound]
  · rw [stripEnding?_append_of_ne hending hother hne] at heq
    cases heq

/-- What stands in front of an extension is what is left of the name. -/
theorem normalizeName_append {stem ending : String} (hstem : stem ≠ "")
    (hending : ending ∈ templateExtensions) : normalizeName (stem ++ ending) = stem := by
  unfold normalizeName
  rw [findSome?_stripEnding?_append hending stem]
  cases hchars : stem.toList with
  | nil => exact absurd (String.toList_eq_nil_iff.1 hchars) hstem
  | cons c cs =>
    dsimp only
    rw [← hchars, String.ofList_toList]

/-- A name without an extension is its own key. -/
theorem normalizeName_of_isPlainName {name : String} (h : IsPlainName name) :
    normalizeName name = name := by
  unfold normalizeName
  split
  · next c cs hfound =>
    obtain ⟨ending, hending, heq⟩ := List.exists_of_findSome?_eq_some hfound
    have hname : name = String.ofList (c :: cs) ++ ending :=
      String.toList_inj.1 (by
        rw [stripEnding?_eq_some_iff.1 heq, String.toList_append, String.toList_ofList])
    -- a stem was found, so that the name is not plain after all
    refine absurd hname (h _ (fun hempty => ?_) ending hending)
    have hnil := congrArg String.toList hempty
    rw [String.toList_ofList] at hnil
    cases hnil
  · rfl

/-- A name is left as it is just if there is nothing to take away. -/
theorem normalizeName_eq_self_iff {name : String} :
    normalizeName name = name ↔ IsPlainName name := by
  refine ⟨?_, normalizeName_of_isPlainName⟩
  rintro h stem hstem ending hending rfl
  rw [normalizeName_append hstem hending] at h
  -- what an extension was taken from has become shorter
  have hlength := congrArg String.length h
  rw [String.length_append] at hlength
  have hpos : ∀ e ∈ templateExtensions, 0 < e.length := by decide
  have := hpos ending hending
  omega

namespace Catalog

/-! ## Catalogs with a past -/

/-- What can be done with a catalog. -/
inductive Operation where
  | add (name source : String)
  /-- A template is asked for, and compiled if it has not been. -/
  | ask (debug : Bool) (name : String)
  | clear

/-- What an operation makes of a catalog. -/
def perform (c : Catalog) : Operation → Catalog
  | .add name source => c.add name source
  | .ask debug name => (c.get debug name).2
  | .clear => empty

/-- The catalog that has come of an empty one, the latest operation being the first of the list. -/
def after : List Operation → Catalog
  | [] => empty
  | op :: past => (after past).perform op

/-- The templates that have been added since the catalog was last cleared, under the names that were
given, the latest first. -/
def added : List Operation → List (String × String)
  | [] => []
  | .add name source :: past => (name, source) :: added past
  | .ask .. :: past => added past
  | .clear :: _ => []

/-- The source that was added last under a name that is kept under this key. -/
def latest? (past : List Operation) (key : String) : Option String :=
  ((added past).find? fun a => normalizeName a.1 = key).map (·.2)

/-- There is a latest source under a key if anything has been added under it. -/
theorem latest?_isSome_iff (past : List Operation) (key : String) :
    (latest? past key).isSome = true ↔ ∃ a ∈ added past, normalizeName a.1 = key := by
  rw [latest?, Option.isSome_map, List.find?_isSome]
  simp

/-- A catalog has the latest sources, and has compiled nothing else. -/
theorem holds_latest? (past : List Operation) : (after past).Holds (latest? past) := by
  induction past with
  | nil => exact ⟨fun _ => rfl, fun h => nomatch h⟩
  | cons op past ih =>
    cases op with
    | add name source =>
      have hadd := ih.add name source
      have heq : (fun key => if key = normalizeName name then some source else latest? past key) =
          latest? (.add name source :: past) := by
        funext key
        show _ = (((name, source) :: added past).find? _).map _
        rw [List.find?_cons]
        split
        · next hkey => simp [hkey]
        · next hkey => simp [Ne.symm hkey, latest?]
      exact heq ▸ hadd
    | ask debug name => exact ih.get debug name
    | clear => exact ⟨fun _ => rfl, fun h => nomatch h⟩

theorem names_get (c : Catalog) (debug : Bool) (name : String) :
    (c.get debug name).2.names = c.names := by
  obtain heq | ⟨_, _, -, -, -, heq⟩ := c.get_cases debug name <;> rw [heq]
  rfl

/-- A template that is added is named once, before all others. -/
theorem names_add (c : Catalog) (name source : String) :
    (c.add name source).names =
      normalizeName name :: c.names.filter (· ≠ normalizeName name) := by
  show _ :: (without c.sources _).map (·.1) = _
  rw [without, names, List.filter_map]
  rfl

/-- Each key is listed once. -/
theorem nodup_names (past : List Operation) : (after past).names.Nodup := by
  induction past with
  | nil => exact List.nodup_nil
  | cons op past ih =>
    cases op with
    | add name source =>
      rw [after, perform, names_add]
      refine List.nodup_cons.2 ⟨fun h => ?_, ih.filter _⟩
      simpa using List.of_mem_filter h
    | ask debug name =>
      rw [after, perform, names_get]
      exact ih
    | clear => exact List.nodup_nil

/-- The keys that are listed are what is left of the names of the templates. -/
theorem mem_names_iff (past : List Operation) (key : String) :
    key ∈ (after past).names ↔ ∃ a ∈ added past, normalizeName a.1 = key := by
  rw [← latest?_isSome_iff, ← (holds_latest? past).source, List.lookup_isSome_iff, names,
    List.mem_map]
  exact exists_congr fun entry => and_congr_right fun _ => eq_comm.trans beq_iff_eq.symm

/-- The source of a name is the latest one under its key. -/
theorem source?_after (past : List Operation) (name : String) :
    (after past).source? name = latest? past (normalizeName name) :=
  (holds_latest? past).source _

/-- A template is there if one has been added under the same key. -/
theorem contains_after_iff (past : List Operation) (name : String) :
    (after past).contains name = true ↔
      ∃ a ∈ added past, normalizeName a.1 = normalizeName name := by
  rw [contains, source?_after, latest?_isSome_iff]

/-- What is given out for a name is compiled from the source that is kept for it. -/
theorem get_after (past : List Operation) (debug : Bool) (name : String) :
    match (after past).source? name with
    | none => ((after past).get debug name).1 = .error (.templateNotFound (normalizeName name))
    | some source => ∃ debug', ((after past).get debug name).1 =
        (Scope.compileText debug' source).mapError (.invalidTemplate (normalizeName name)) := by
  have hholds := holds_latest? past
  rw [source?_after]
  cases hget : ((after past).get debug name).1 with
  | ok scope =>
    obtain ⟨source, hsource, debug', hcompiled⟩ := hholds.get_ok hget
    rw [hsource]
    exact ⟨debug', by rw [hcompiled]; rfl⟩
  | error e =>
    obtain ⟨hnone, rfl⟩ | ⟨source, e', hsource, he', rfl⟩ := hholds.get_error hget
    · rw [hnone]
    · rw [hsource]
      exact ⟨debug, by rw [he']; rfl⟩

/-- Whatever has been done with a catalog, a template is found under the names that leave the same
as its own when one extension is taken away: by its latest source, and compiled from that. Each
such rest is listed once. In front of an extension any name is left as it is, so all names that add
one extension to it mean the same template. So does the name itself, and if it is listed it means
the template that it is listed for, just if it carries no extension of its own. -/
theorem keyed_by_stem (past : List Operation) :
    (∀ name, (after past).source? name = latest? past (normalizeName name)) ∧
    (∀ name, (after past).contains name = true ↔
      ∃ a ∈ added past, normalizeName a.1 = normalizeName name) ∧
    (∀ debug name, match (after past).source? name with
      | none => ((after past).get debug name).1 = .error (.templateNotFound (normalizeName name))
      | some source => ∃ debug', ((after past).get debug name).1 =
          (Scope.compileText debug' source).mapError (.invalidTemplate (normalizeName name))) ∧
    (after past).names.Nodup ∧
    (∀ key, key ∈ (after past).names ↔ ∃ a ∈ added past, normalizeName a.1 = key) ∧
    (∀ name ≠ "", ∀ ending ∈ templateExtensions,
      (after past).source? (name ++ ending) = latest? past name) ∧
    (∀ name, normalizeName name = name ↔ IsPlainName name) ∧
    (∀ key ∈ (after past).names, IsPlainName key →
      (after past).contains key = true ∧ (after past).source? key = latest? past key) := by
  refine ⟨source?_after past, contains_after_iff past, get_after past, nodup_names past,
    mem_names_iff past, fun name hname ending hending => ?_, fun _ => normalizeName_eq_self_iff,
    fun key hkey hplain => ?_⟩
  · rw [source?_after, normalizeName_append hname hending]
  · -- a plain name is looked up under itself, so what is listed is also found
    have hself := normalizeName_of_isPlainName hplain
    refine ⟨(contains_after_iff past key).2 ?_, ?_⟩
    · rw [hself]
      exact (mem_names_iff past key).1 hkey
    · rw [source?_after, hself]

/-- A template that is replaced under another spelling of its name. -/
theorem keyed_by_stem_replaced :
    "header" ≠ "" ∧ ".txt" ∈ templateExtensions ∧ IsPlainName "header" ∧
      "header" ∈ (after [.add "header" "second", .add "header.weft" "first"]).names ∧
      (after [.add "header" "second", .add "header.weft" "first"]).source? "header.txt" =
        some "second" ∧
      (after [.add "header" "second", .add "header.weft" "first"]).contains "header" = true ∧
      (after [.add "header" "second", .add "header.weft" "first"]).source? "header" =
        some "second" := by
  have hplain : IsPlainName "header" := normalizeName_eq_self_iff.1 (by decide)
  obtain ⟨-, -, -, -, hmem, hending, -, hlisted⟩ :=
    keyed_by_stem [.add "header" "second", .add "header.weft" "first"]
  have hname : "header" ∈ (after [.add "header" "second", .add "header.weft" "first"]).names :=
    (hmem "header").2 (by decide)
  obtain ⟨hcontains, hsource⟩ := hlisted "header" hname hplain
  exact ⟨by decide, by decide, hplain, hname, hending "header" (by decide) ".txt" (by decide),
    hcontains, hsource⟩

/-- A template whose name carried two extensions is listed under a name that it is not found
under. -/
theorem listed_name_not_found :
    (after [.add "a.weft.txt" "x"]).names = ["a.weft"] ∧
      (after [.add "a.weft.txt" "x"]).contains "a.weft" = false ∧
      (after [.add "a.weft.txt" "x"]).source? "a.weft.txt" = some "x" ∧
      (after [.add "a.weft.txt" "x"]).source? "a.weft" = none := by
  decide

end Catalog

end Stencil
