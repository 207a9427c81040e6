import Stencil.Block.Basic

/-!
# Stencil.Proofs.Block.WellNested — what it means for blocks to be well nested

`Flattens nodes segments` says that a list of segments writes a list of nodes out: leaves
stand for themselves, and a block is its opening segment, its body, each continuation with
its body, and a closing segment of its kind. The closing segments are not part of the nodes.

`nests` decides the same thing with one stack of open kinds:

* `nests_append` — what is written out leaves the stack of open kinds alone;
* `exists_flattens_iff` — a list writes out some nodes just when the stack accepts it;
* `segmentsOf_of_flattens` — writing nodes out keeps their segments in order and adds nothing
  but closing segments.
-/

namespace Stencil

namespace Segment

/-! ## The roles of segments -/

/-- Whether the segment starts, continues or ends a block. -/
def delimits (s : Segment) : Bool := s.kind.opensBlock && !s.isSelfContained

/-- Whether the segment ends a block. -/
def closesBlock (s : Segment) : Bool := s.delimits && s.closing

/-- Whether the segment starts a block. -/
def opensBlock (s : Segment) : Bool := s.delimits && !s.closing && !s.next

/-- Whether the segment ends a block of this kind. -/
def Closes (kind : Kind) (s : Segment) : Prop :=
  s.kind = kind ∧ s.delimits = true ∧ s.closing = true

/-- Whether the segment starts another body in a block of this kind. -/
def Continues (kind : Kind) (s : Segment) : Prop :=
  s.kind = kind ∧ s.delimits = true ∧ s.closing = false ∧ s.next = true

/-- A block is opened by what delimits one, neither closing nor continuing it. -/
theorem opensBlock_iff {s : Segment} :
    s.opensBlock = true ↔ s.delimits = true ∧ s.closing = false ∧ s.next = false := by
  simp [opensBlock, and_assoc]

/-- What delimits a block is not complete in itself. -/
theorem isSelfContained_of_delimits {s : Segment} (h : s.delimits = true) :
    s.isSelfContained = false := by
  simpa using (Bool.and_eq_true_iff.1 h).2

/-- A segment that does not delimit a block is a text or stands for itself. -/
theorem kind_eq_text_of_not_delimits {s : Segment} (h : s.delimits = false)
    (hs : s.isSelfContained = false) : s.kind = .text := by
  cases hk : s.kind <;> simp_all [delimits, isSelfContained, Kind.opensBlock]

theorem not_delimits_of_text {s : Segment} (h : s.kind = .text) : s.delimits = false := by
  simp [delimits, h, Kind.opensBlock]

theorem not_delimits_of_isSelfContained {s : Segment} (h : s.isSelfContained = true) :
    s.delimits = false := by
  simp [delimits, h]

theorem ne_text_of_isSelfContained {s : Segment} (h : s.isSelfContained = true) :
    s.kind ≠ .text := by
  intro hk
  simp [isSelfContained, hk] at h

theorem ne_text_of_opensBlock {s : Segment} (h : s.opensBlock = true) : s.kind ≠ .text := by
  intro hk
  have hd := not_delimits_of_text hk
  rw [(opensBlock_iff.1 h).1] at hd
  cases hd

theorem isSelfContained_of_output {s : Segment} (h : s.kind = .output) :
    s.isSelfContained = true := by
  simp [isSelfContained, h]

end Segment

/-! ## Writing nodes out -/

mutual

/-- The segments write the nodes out. -/
inductive Flattens : List Node → List Segment → Prop where
  | nil : Flattens [] []
  | text {s nodes rest} (hs : s.kind = .text) (h : Flattens nodes rest) :
      Flattens (.text s :: nodes) (s :: rest)
  | output {s nodes rest} (hs : s.kind = .output) (h : Flattens nodes rest) :
      Flattens (.output s :: nodes) (s :: rest)
  | inline {s nodes rest} (hk : s.kind ≠ .output) (hs : s.isSelfContained = true)
      (h : Flattens nodes rest) : Flattens (.inline s :: nodes) (s :: rest)
  | block {s body more c nodes xs ys rest} (hs : s.opensBlock = true) (hbody : Flattens body xs)
      (hmore : FlattensMore s.kind more ys) (hc : c.Closes s.kind) (h : Flattens nodes rest) :
      Flattens (.block s body more :: nodes) (s :: (xs ++ (ys ++ c :: rest)))

/-- The segments write continuations of a block of this kind out, with their bodies. -/
inductive FlattensMore : Kind → List Branch → List Segment → Prop where
  | nil {kind} : FlattensMore kind [] []
  | cons {kind s body more xs ys} (hs : s.Continues kind) (hbody : Flattens body xs)
      (hmore : FlattensMore kind more ys) :
      FlattensMore kind (.mk s body :: more) (s :: (xs ++ ys))

end

mutual

/-- The segments of nodes, in order. -/
def segmentsOf : List Node → List Segment
  | [] => []
  | .text s :: nodes | .output s :: nodes | .inline s :: nodes => s :: segmentsOf nodes
  | .block s body more :: nodes =>
    s :: (segmentsOf body ++ (segmentsOfMore more ++ segmentsOf nodes))

/-- The segments of continuations and of their bodies, in order. -/
def segmentsOfMore : List Branch → List Segment
  | [] => []
  | .mk s body :: more => s :: (segmentsOf body ++ segmentsOfMore more)

end

theorem Segment.Continues.not_closesBlock {kind : Kind} {s : Segment} (h : s.Continues kind) :
    s.closesBlock = false := by
  simp [closesBlock, h.2.2.1]

mutual

/-- Writing nodes out keeps their segments in order and adds only closing segments. -/
theorem segmentsOf_of_flattens {nodes : List Node} {xs : List Segment} :
    Flattens nodes xs → segmentsOf nodes = xs.filter fun s => !s.closesBlock
  | .nil => by simp [segmentsOf]
  | .text hs h => by
    have hd := Segment.not_delimits_of_text hs
    simp [segmentsOf, Segment.closesBlock, hd, segmentsOf_of_flattens h]
  | .output hs h => by
    have hd := Segment.not_delimits_of_isSelfContained (Segment.isSelfContained_of_output hs)
    simp [segmentsOf, Segment.closesBlock, hd, segmentsOf_of_flattens h]
  | .inline _ hs h => by
    have hd := Segment.not_delimits_of_isSelfContained hs
    simp [segmentsOf, Segment.closesBlock, hd, segmentsOf_of_flattens h]
  | .block hs hbody hmore hc h => by
    have ho := (Segment.opensBlock_iff.1 hs).2.1
    simp [segmentsOf, Segment.closesBlock, ho, hc.2.1, hc.2.2, segmentsOf_of_flattens hbody,
      segmentsOfMore_of_flattens hmore, segmentsOf_of_flattens h]

/-- Branches keep all segments but those that close blocks in them. -/
theorem segmentsOfMore_of_flattens {kind : Kind} {more : List Branch} {xs : List Segment} :
    FlattensMore kind more xs → segmentsOfMore more = xs.filter fun s => !s.closesBlock
  | .nil => by simp [segmentsOfMore]
  | .cons hs hbody hmore => by
    simp [segmentsOfMore, hs.not_closesBlock, segmentsOf_of_flattens hbody,
      segmentsOfMore_of_flattens hmore]

end

/-! ## The stack of open kinds -/

/-- Whether the segments end every block that is open, innermost first, and every block that
they start; a segment may only end or continue the innermost one. -/
def nests : List Kind → List Segment → Bool
  | outer, [] => outer.isEmpty
  | outer, s :: rest =>
    if !s.delimits then nests outer rest
    else if s.closing then
      match outer with
      | kind :: outer => s.kind = kind && nests outer rest
      | [] => false
    else if s.next then
      match outer with
      | kind :: outer => s.kind = kind && nests (kind :: outer) rest
      | [] => false
    else nests (s.kind :: outer) rest

/-- A segment that delimits nothing leaves the open blocks as they are. -/
theorem nests_leaf {s : Segment} (hs : s.delimits = false) (outer : List Kind)
    (rest : List Segment) : nests outer (s :: rest) = nests outer rest := by
  simp [nests, hs]

/-- A block that is opened is inside the others. -/
theorem nests_opens {s : Segment} (hs : s.opensBlock = true) (outer : List Kind)
    (rest : List Segment) : nests outer (s :: rest) = nests (s.kind :: outer) rest := by
  obtain ⟨hd, hc, hn⟩ := Segment.opensBlock_iff.1 hs
  simp [nests, hd, hc, hn]

/-- Only the innermost block can be closed, by its own kind. -/
theorem nests_closes {kind : Kind} {s : Segment} (hs : s.Closes kind) (outer : List Kind)
    (rest : List Segment) : nests (kind :: outer) (s :: rest) = nests outer rest := by
  obtain ⟨hk, hd, hc⟩ := hs
  simp [nests, hk, hd, hc]

/-- Only the innermost block can be continued, by its own kind. -/
theorem nests_continues {kind : Kind} {s : Segment} (hs : s.Continues kind) (outer : List Kind)
    (rest : List Segment) :
    nests (kind :: outer) (s :: rest) = nests (kind :: outer) rest := by
  obtain ⟨hk, hd, hc, hn⟩ := hs
  simp [nests, hk, hd, hc, hn]

mutual

/-- What writes nodes out leaves the stack alone. -/
theorem nests_append {nodes : List Node} {xs : List Segment} (outer : List Kind)
    (rest : List Segment) : Flattens nodes xs → nests outer (xs ++ rest) = nests outer rest
  | .nil => rfl
  | .text hs h => by
    rw [List.cons_append, nests_leaf (Segment.not_delimits_of_text hs)]
    exact nests_append outer rest h
  | .output hs h => by
    have hd := Segment.not_delimits_of_isSelfContained (Segment.isSelfContained_of_output hs)
    rw [List.cons_append, nests_leaf hd]
    exact nests_append outer rest h
  | .inline _ hs h => by
    rw [List.cons_append, nests_leaf (Segment.not_delimits_of_isSelfContained hs)]
    exact nests_append outer rest h
  -- the block is open from its first segment up to the one that closes it
  | .block hs hbody hmore hc h => by
    rw [List.cons_append, nests_opens hs, List.append_assoc, nests_append _ _ hbody,
      List.append_assoc, nests_append_more _ _ hmore, List.cons_append, nests_closes hc]
    exact nests_append outer rest h

/-- Branches leave the block that they belong to open. -/
theorem nests_append_more {kind : Kind} {more : List Branch} {xs : List Segment}
    (outer : List Kind) (rest : List Segment) :
    FlattensMore kind more xs → nests (kind :: outer) (xs ++ rest) = nests (kind :: outer) rest
  | .nil => rfl
  | .cons hs hbody hmore => by
    rw [List.cons_append, nests_continues hs, List.append_assoc, nests_append _ _ hbody]
    exact nests_append_more outer rest hmore

end

/-- A segment that delimits nothing is a leaf in front of whatever follows it. -/
theorem exists_leaf {s : Segment} (hs : s.delimits = false) :
    ∃ node, ∀ nodes xs, Flattens nodes xs → Flattens (node :: nodes) (s :: xs) := by
  by_cases hself : s.isSelfContained = true
  · by_cases hk : s.kind = .output
    · exact ⟨.output s, fun _ _ h => .output hk h⟩
    · exact ⟨.inline s, fun _ _ h => .inline hk hself h⟩
  · have hk := Segment.kind_eq_text_of_not_delimits hs (by simpa using hself)
    exact ⟨.text s, fun _ _ h => .text hk h⟩

/-- Segments that end an open block split at its closing segment: in front of it they write out
the rest of the body and the continuations, and behind it they end the blocks around. -/
theorem exists_flattens_of_nests {kind : Kind} {outer : List Kind} {segments : List Segment}
    (h : nests (kind :: outer) segments = true) :
    ∃ body xs more ys c rest, segments = xs ++ (ys ++ c :: rest) ∧ Flattens body xs ∧
      FlattensMore kind more ys ∧ c.Closes kind ∧ nests outer rest = true := by
  match segments with
  | [] => simp [nests] at h
  | s :: rest =>
    cases hd : s.delimits with
    | false =>
      -- a leaf goes in front of the body
      rw [nests_leaf hd] at h
      obtain ⟨body, xs, more, ys, c, behind, rfl, hbody, hmore, hc, hrest⟩ :=
        exists_flattens_of_nests h
      obtain ⟨node, hnode⟩ := exists_leaf hd
      exact ⟨node :: body, s :: xs, more, ys, c, behind, rfl, hnode _ _ hbody, hmore, hc, hrest⟩
    | true =>
      cases hc : s.closing with
      | true =>
        -- the closing segment: the body and the continuations end here
        simp only [nests, hd, hc, Bool.not_true, Bool.false_eq_true, if_false, if_true,
          Bool.and_eq_true, decide_eq_true_eq] at h
        exact ⟨[], [], [], [], s, rest, rfl, .nil, .nil, ⟨h.1, hd, hc⟩, h.2⟩
      | false =>
        cases hn : s.next with
        | true =>
          -- a continuation: the body ends here, the one found behind is the continuation's
          simp only [nests, hd, hc, hn, Bool.not_true, Bool.false_eq_true, if_false, if_true,
            Bool.and_eq_true, decide_eq_true_eq] at h
          obtain ⟨body, xs, more, ys, c, behind, rfl, hbody, hmore, hcl, hrest⟩ :=
            exists_flattens_of_nests h.2
          exact ⟨[], [], .mk s body :: more, s :: (xs ++ ys), c, behind, by simp, .nil,
            .cons ⟨h.1, hd, hc, hn⟩ hbody hmore, hcl, hrest⟩
        | false =>
          -- an inner block ends first; what follows it belongs to the body
          have ho : s.opensBlock = true := Segment.opensBlock_iff.2 ⟨hd, hc, hn⟩
          rw [nests_opens ho] at h
          obtain ⟨inner, us, innerMore, vs, d, middle, hsplit, hinner, hinnerMore, hdcl, hmid⟩ :=
            exists_flattens_of_nests h
          have hlen : middle.length < (s :: rest).length := by
            simp only [hsplit, List.length_cons, List.length_append]
            omega
          obtain ⟨body, xs, more, ys, c, behind, rfl, hbody, hmore, hcl, hrest⟩ :=
            exists_flattens_of_nests hmid
          refine ⟨.block s inner innerMore :: body, s :: (us ++ (vs ++ d :: xs)), more, ys, c,
            behind, ?_, .block ho hinner hinnerMore hdcl hbody, hmore, hcl, hrest⟩
          simp [hsplit]
termination_by segments.length

/-- The stack accepts just the lists that write some nodes out. -/
theorem exists_flattens_iff (segments : List Segment) :
    (∃ nodes, Flattens nodes segments) ↔ nests [] segments = true := by
  constructor
  · rintro ⟨nodes, h⟩
    have hkeep := nests_append [] [] h
    rw [List.append_nil] at hkeep
    rw [hkeep]
    rfl
  · intro h
    -- towards the nodes, the first segment decides: a leaf is passed, and a block is cut out up to
    -- its end
    match segments with
    | [] => exact ⟨[], .nil⟩
    | s :: rest =>
      cases hd : s.delimits with
      | false =>
        rw [nests_leaf hd] at h
        obtain ⟨nodes, hnodes⟩ := (exists_flattens_iff rest).2 h
        obtain ⟨node, hnode⟩ := exists_leaf hd
        exact ⟨node :: nodes, hnode _ _ hnodes⟩
      | true =>
        cases hc : s.closing with
        | true => simp [nests, hd, hc] at h
        | false =>
          cases hn : s.next with
          | true => simp [nests, hd, hc, hn] at h
          | false =>
            have ho : s.opensBlock = true := Segment.opensBlock_iff.2 ⟨hd, hc, hn⟩
            rw [nests_opens ho] at h
            obtain ⟨body, xs, more, ys, c, behind, rfl, hbody, hmore, hcl, hrest⟩ :=
              exists_flattens_of_nests h
            have hlen : behind.length < (s :: (xs ++ (ys ++ c :: behind))).length := by
              simp only [List.length_cons, List.length_append]
              omega
            obtain ⟨nodes, hnodes⟩ := (exists_flattens_iff behind).2 hrest
            exact ⟨.block s body more :: nodes, .block ho hbody hmore hcl hnodes⟩
termination_by segments.length

end Stencil
