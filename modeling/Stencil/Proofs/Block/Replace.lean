import Stencil.Proofs.Block.Scan

/-!
# Stencil.Proofs.Block.Replace — segments that stand in place of others

In a list of segments some that include a template may be replaced, each by segments that write out
one node (`Replaced`). Scanning then finds the same nodes, but for those that are replaced
(`Node.exists_rewritten`).
-/

namespace Stencil

variable {R : Segment → List Segment → Prop}

/-! ## Segments -/

/-- Whether a list of segments is another one in which some segments are replaced; `R` tells which
may be replaced, and by what. -/
inductive Replaced (R : Segment → List Segment → Prop) : List Segment → List Segment → Prop
  | nil : Replaced R [] []
  | keep (s : Segment) {xs ys : List Segment} (h : Replaced R xs ys) :
      Replaced R (s :: xs) (s :: ys)
  | put {s : Segment} {chunk xs ys : List Segment} (hs : R s chunk) (h : Replaced R xs ys) :
      Replaced R (s :: xs) (chunk ++ ys)

namespace Replaced

theorem refl (xs : List Segment) : Replaced R xs xs := by
  induction xs with
  | nil => exact .nil
  | cons s xs ih => exact .keep s ih

/-- One segment is replaced, and all others stay. -/
theorem single {s : Segment} {chunk : List Segment} (hs : R s chunk)
    (before behind : List Segment) :
    Replaced R (before ++ s :: behind) (before ++ (chunk ++ behind)) := by
  induction before with
  | nil =>
    show Replaced R (s :: behind) (chunk ++ behind)
    exact .put hs (refl behind)
  | cons b before ih => exact .keep b ih

/-- What stands for two lists in a row is what stands for the first, then what stands for the
second. -/
theorem exists_append {xs ys zs : List Segment} (h : Replaced R (xs ++ ys) zs) :
    ∃ xs' ys', zs = xs' ++ ys' ∧ Replaced R xs xs' ∧ Replaced R ys ys' := by
  induction xs generalizing zs with
  | nil => exact ⟨[], zs, rfl, .nil, h⟩
  | cons s xs ih =>
    cases h with
    | keep _ h =>
      obtain ⟨xs', ys', rfl, hxs, hys⟩ := ih h
      exact ⟨s :: xs', ys', rfl, .keep s hxs, hys⟩
    | @put _ chunk _ _ hs h =>
      obtain ⟨xs', ys', rfl, hxs, hys⟩ := ih h
      exact ⟨chunk ++ xs', ys', (List.append_assoc ..).symm, .put hs hxs, hys⟩

theorem exists_cons {s : Segment} (hs : ∀ chunk, ¬ R s chunk) {xs zs : List Segment}
    (h : Replaced R (s :: xs) zs) : ∃ ys, zs = s :: ys ∧ Replaced R xs ys := by
  cases h with
  | keep _ h => exact ⟨_, rfl, h⟩
  | put hput h => exact absurd hput (hs _)

end Replaced

/-! ## Nodes -/

/-- Two lists of nodes in a row are spelled one after the other. -/
theorem Flattens.append {nodes more : List Node} {xs ys : List Segment} (hmore : Flattens more ys) :
    Flattens nodes xs → Flattens (nodes ++ more) (xs ++ ys) := by
  intro h
  cases h with
  | nil => exact hmore
  | text hs h => exact .text hs (append hmore h)
  | output hs h => exact .output hs (append hmore h)
  | inline hk hs h => exact .inline hk hs (append hmore h)
  | block hs hbody hblock hc h =>
    have hall := Flattens.block hs hbody hblock hc (append hmore h)
    simpa only [List.cons_append, List.append_assoc] using hall

namespace Node

mutual

/-- Whether a node is another one in which some of the segments are replaced. -/
inductive Rewritten (R : Segment → List Segment → Prop) : Node → Node → Prop
  | text (s : Segment) : Rewritten R (.text s) (.text s)
  | output (s : Segment) : Rewritten R (.output s) (.output s)
  | inline (s : Segment) : Rewritten R (.inline s) (.inline s)
  | put {s : Segment} {chunk : List Segment} {node : Node} (hs : R s chunk)
      (h : Flattens [node] chunk) : Rewritten R (.inline s) node
  | block (s : Segment) {body body' : List Node} {more more' : List Branch}
      (hbody : NodesRewritten R body body') (hmore : BranchesRewritten R more more') :
      Rewritten R (.block s body more) (.block s body' more')

/-- So it is with a list of nodes. -/
inductive NodesRewritten (R : Segment → List Segment → Prop) : List Node → List Node → Prop
  | nil : NodesRewritten R [] []
  | cons {node node' : Node} {nodes nodes' : List Node} (h : Rewritten R node node')
      (hs : NodesRewritten R nodes nodes') : NodesRewritten R (node :: nodes) (node' :: nodes')

/-- So it is with continuations. -/
inductive BranchesRewritten (R : Segment → List Segment → Prop) :
    List Branch → List Branch → Prop
  | nil : BranchesRewritten R [] []
  | cons (s : Segment) {body body' : List Node} {more more' : List Branch}
      (hbody : NodesRewritten R body body') (hmore : BranchesRewritten R more more') :
      BranchesRewritten R (.mk s body :: more) (.mk s body' :: more')

end

theorem ne_inclusion_of_opensBlock {kind : Kind} (h : kind.opensBlock = true) :
    kind ≠ .inclusion := by
  rintro rfl
  cases h

variable (hR : ∀ s chunk, R s chunk → s.kind = .inclusion ∧ ∃ node, Flattens [node] chunk)

include hR

theorem not_replaced {s : Segment} (hs : s.kind ≠ .inclusion) (chunk : List Segment) :
    ¬ R s chunk := fun h => hs (hR s chunk h).1

mutual

/-- A list of segments in which some are replaced writes out the nodes with these replaced. -/
theorem exists_rewritten {nodes : List Node} {xs : List Segment} :
    Flattens nodes xs → ∀ {ys : List Segment}, Replaced R xs ys →
      ∃ nodes', Flattens nodes' ys ∧ NodesRewritten R nodes nodes'
  | .nil, ys, hreplaced => by
    cases hreplaced
    exact ⟨[], .nil, .nil⟩
  | @Flattens.text s _ _ hs h, ys, hreplaced => by
    obtain ⟨ys, rfl, hys⟩ := hreplaced.exists_cons (not_replaced hR (by rw [hs]; decide))
    obtain ⟨nodes', hflat, hnodes⟩ := exists_rewritten h hys
    exact ⟨.text s :: nodes', .text hs hflat, .cons (.text s) hnodes⟩
  | @Flattens.output s _ _ hs h, ys, hreplaced => by
    obtain ⟨ys, rfl, hys⟩ := hreplaced.exists_cons (not_replaced hR (by rw [hs]; decide))
    obtain ⟨nodes', hflat, hnodes⟩ := exists_rewritten h hys
    exact ⟨.output s :: nodes', .output hs hflat, .cons (.output s) hnodes⟩
  | @Flattens.inline s _ _ hk hs h, ys, hreplaced => by
    cases hreplaced with
    | keep _ hys =>
      obtain ⟨nodes', hflat, hnodes⟩ := exists_rewritten h hys
      exact ⟨.inline s :: nodes', .inline hk hs hflat, .cons (.inline s) hnodes⟩
    | put hput hys =>
      obtain ⟨node, hchunk⟩ := (hR _ _ hput).2
      obtain ⟨nodes', hflat, hnodes⟩ := exists_rewritten h hys
      exact ⟨node :: nodes', hflat.append hchunk, .cons (.put hput hchunk) hnodes⟩
  | @Flattens.block s body more c nodes _ _ rest hs hbody hmore hc h, ys, hreplaced => by
    -- the segments that open and close the block stay, so what is replaced lies between them
    have hopens := (Bool.and_eq_true_iff.1 (Segment.opensBlock_iff.1 hs).1).1
    have hinclusion := ne_inclusion_of_opensBlock hopens
    obtain ⟨ys, rfl, hys⟩ := hreplaced.exists_cons (not_replaced hR hinclusion)
    obtain ⟨ysBody, ys, rfl, hysBody, hinside⟩ := hys.exists_append
    obtain ⟨ysMore, ys, rfl, hysMore, hbehind⟩ := hinside.exists_append
    obtain ⟨ys, rfl, hrest⟩ := hbehind.exists_cons (not_replaced hR (hc.1 ▸ hinclusion))
    obtain ⟨body', hflatBody, hbody'⟩ := exists_rewritten hbody hysBody
    obtain ⟨more', hflatMore, hmore'⟩ := exists_rewrittenMore hmore hopens hysMore
    obtain ⟨nodes', hflat, hnodes⟩ := exists_rewritten h hrest
    exact ⟨.block s body' more' :: nodes', .block hs hflatBody hflatMore hc hflat,
      .cons (.block s hbody' hmore') hnodes⟩

theorem exists_rewrittenMore {kind : Kind} {more : List Branch} {xs : List Segment} :
    FlattensMore kind more xs → kind.opensBlock = true → ∀ {ys : List Segment},
      Replaced R xs ys → ∃ more', FlattensMore kind more' ys ∧ BranchesRewritten R more more'
  | .nil, _, ys, hreplaced => by
    cases hreplaced
    exact ⟨[], .nil, .nil⟩
  | @FlattensMore.cons _ s body more _ _ hs hbody hmore, hopens, ys, hreplaced => by
    have hinclusion := ne_inclusion_of_opensBlock hopens
    obtain ⟨ys, rfl, hys⟩ := hreplaced.exists_cons (not_replaced hR (hs.1 ▸ hinclusion))
    obtain ⟨ysBody, ysMore, rfl, hysBody, hysMore⟩ := hys.exists_append
    obtain ⟨body', hflatBody, hbody'⟩ := exists_rewritten hbody hysBody
    obtain ⟨more', hflatMore, hmore'⟩ := exists_rewrittenMore hmore hopens hysMore
    exact ⟨.mk s body' :: more', .cons hs hflatBody hflatMore, .cons s hbody' hmore'⟩

end

end Node

end Stencil
