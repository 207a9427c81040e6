import Stencil.Proofs.Block.WellNested
import Stencil.Proofs.Except

/-!
# Stencil.Proofs.Block.Scan — scanning undoes writing out

`extent?` finds the end of a block by counting segments of one kind and passes over all
others. Over segments that write nodes out this count comes back to where it was
(`counts_of_flattens`), whatever kind is counted, so it stops at the closing segment that
the nesting demands.

* `scan_of_flattens`, `flattens_of_scan` — scanning finds the nodes that are written out, and
  finds nothing else;
* `refusal_of_scan` — a refusal names one of the segments.
-/

namespace Stencil.Node

/-! ## Counting one kind -/

/-- Puts segments in front of the first body. -/
def Extent.prepend (xs : List Segment) (x : Extent) : Extent := { x with body := xs ++ x.body }

/-- Whether the count of a kind goes from one depth to another over these segments, all of
which belong to the body that is being read. -/
def Counts (kind : Kind) (depth : Nat) (xs : List Segment) (depth' : Nat) : Prop :=
  ∀ rest, extent? kind depth (xs ++ rest) = (extent? kind depth' rest).map (.prepend xs)

theorem Counts.nil (kind : Kind) (depth : Nat) : Counts kind depth [] depth := by
  intro rest
  have hid : Extent.prepend [] = id := rfl
  simp [hid]

/-- Segments in a row count one after the other. -/
theorem Counts.append {kind : Kind} {i j k : Nat} {xs ys : List Segment}
    (hxs : Counts kind i xs j) (hys : Counts kind j ys k) : Counts kind i (xs ++ ys) k := by
  intro rest
  rw [List.append_assoc, hxs, hys, Option.map_map]
  congr 1
  funext x
  simp [Extent.prepend]

theorem Counts.cons {kind : Kind} {i j k : Nat} {s : Segment} {xs : List Segment}
    (hs : Counts kind i [s] j) (hxs : Counts kind j xs k) : Counts kind i (s :: xs) k :=
  hs.append hxs

/-- A segment of another kind does not count, nor does one that is complete in itself. -/
theorem counts_skip {kind : Kind} {s : Segment} (h : s.kind ≠ kind ∨ s.isSelfContained = true)
    (depth : Nat) : Counts kind depth [s] depth := by
  intro rest
  rw [List.singleton_append, extent?.eq_def]
  simp only [if_pos h]
  rfl

/-- A segment that delimits nothing is not counted. -/
theorem counts_leaf {kind : Kind} {s : Segment} (hkind : kind.opensBlock = true)
    (hs : s.delimits = false) (depth : Nat) : Counts kind depth [s] depth := by
  apply counts_skip
  by_cases hk : s.kind = kind
  · right
    simpa [Segment.delimits, hk, hkind] using hs
  · exact .inl hk

/-- A segment that opens a block of the kind leads one deeper. -/
theorem counts_opens {s : Segment} (hs : s.opensBlock = true) (depth : Nat) :
    Counts s.kind depth [s] (depth + 1) := by
  obtain ⟨hd, hc, hn⟩ := Segment.opensBlock_iff.1 hs
  intro rest
  simp [extent?, Segment.isSelfContained_of_delimits hd, hc, hn]
  rfl

/-- Within a nested block, a continuation changes nothing. -/
theorem counts_continues {kind : Kind} {s : Segment} (hs : s.Continues kind) {depth : Nat}
    (hdepth : 0 < depth) : Counts kind depth [s] depth := by
  obtain ⟨hk, hd, hc, hn⟩ := hs
  intro rest
  simp [extent?, hk, Segment.isSelfContained_of_delimits hd, hc, hn, Nat.ne_of_gt hdepth]
  rfl

/-- A segment that closes a block of the kind leads out again. -/
theorem counts_closes {kind : Kind} {s : Segment} (hs : s.Closes kind) (depth : Nat) :
    Counts kind (depth + 1) [s] depth := by
  obtain ⟨hk, hd, hc⟩ := hs
  intro rest
  simp [extent?, hk, Segment.isSelfContained_of_delimits hd, hc]
  rfl

mutual

/-- What writes nodes out leaves the count alone, whatever kind is counted and however deep. -/
theorem counts_of_flattens {kind : Kind} (hkind : kind.opensBlock = true) (depth : Nat)
    {nodes : List Node} {xs : List Segment} : Flattens nodes xs → Counts kind depth xs depth
  | .nil => .nil kind depth
  | .text hs h =>
    (counts_leaf hkind (Segment.not_delimits_of_text hs) depth).cons
      (counts_of_flattens hkind depth h)
  | .output hs h =>
    have hd := Segment.not_delimits_of_isSelfContained (Segment.isSelfContained_of_output hs)
    (counts_leaf hkind hd depth).cons (counts_of_flattens hkind depth h)
  | .inline _ hs h =>
    (counts_leaf hkind (Segment.not_delimits_of_isSelfContained hs) depth).cons
      (counts_of_flattens hkind depth h)
  | .block (s := s) (c := c) hs hbody hmore hc h => by
    by_cases hk : s.kind = kind
    · -- a block of the counted kind takes the count one up and down again
      subst hk
      have hinside := (counts_of_flattens hkind (depth + 1) hbody).append
        ((counts_of_more hkind (.inr depth.succ_pos) hmore).append
          ((counts_closes hc depth).cons (counts_of_flattens hkind depth h)))
      exact (counts_opens hs depth).cons hinside
    · -- one of another kind is passed over piece by piece
      have hck : c.kind ≠ kind := by
        rw [hc.1]
        exact hk
      have hinside := (counts_of_flattens hkind depth hbody).append
        ((counts_of_more hkind (.inl hk) hmore).append
          ((counts_skip (.inl hck) depth).cons (counts_of_flattens hkind depth h)))
      exact (counts_skip (.inl hk) depth).cons hinside

/-- So do the continuations of a block that is not the one whose end is looked for. -/
theorem counts_of_more {kind inner : Kind} (hkind : kind.opensBlock = true) {depth : Nat}
    (h : inner ≠ kind ∨ 0 < depth) {more : List Branch} {xs : List Segment} :
    FlattensMore inner more xs → Counts kind depth xs depth
  | .nil => .nil kind depth
  | .cons (s := s) hs hbody hmore => by
    have hrest := (counts_of_flattens hkind depth hbody).append (counts_of_more hkind h hmore)
    by_cases hk : inner = kind
    · subst hk
      exact (counts_continues hs (h.resolve_left fun hne => hne rfl)).cons hrest
    · have hsk : s.kind ≠ kind := by
        rw [hs.1]
        exact hk
      exact (counts_skip (.inl hsk) depth).cons hrest

end

/-- The first continuation ends the body. -/
theorem extent?_continues {kind : Kind} {s : Segment} (hs : s.Continues kind)
    (rest : List Segment) :
    extent? kind 0 (s :: rest) =
      (extent? kind 0 rest).map fun x => ⟨[], (s, x.body) :: x.more, x.behind⟩ := by
  obtain ⟨hk, hd, hc, hn⟩ := hs
  simp [extent?, hk, Segment.isSelfContained_of_delimits hd, hc, hn]

/-- The closing segment of the block itself ends the count. -/
theorem extent?_closes {kind : Kind} {s : Segment} (hs : s.Closes kind) (rest : List Segment) :
    extent? kind 0 (s :: rest) = some ⟨[], [], rest⟩ := by
  obtain ⟨hk, hd, hc⟩ := hs
  simp [extent?, hk, Segment.isSelfContained_of_delimits hd, hc]

/-! ## Scanning -/

/-- A text is a node of its own. -/
theorem scan_text (debug : Bool) {s : Segment} (hs : s.kind = .text) (rest : List Segment) :
    scan debug (s :: rest) = (scan debug rest).map (.text s :: ·) := by
  rw [scan, if_pos hs]
  cases scan debug rest <;> rfl

/-- An output is a node of its own. -/
theorem scan_output (debug : Bool) {s : Segment} (hs : s.kind = .output) (rest : List Segment) :
    scan debug (s :: rest) = (scan debug rest).map (.output s :: ·) := by
  have hk : s.kind ≠ .text := by simp [hs]
  rw [scan, if_neg hk, if_pos hs]
  cases scan debug rest <;> rfl

/-- A directive that is complete in itself is a node of its own. -/
theorem scan_inline (debug : Bool) {s : Segment} (hk : s.kind ≠ .output)
    (hs : s.isSelfContained = true) (rest : List Segment) :
    scan debug (s :: rest) = (scan debug rest).map (.inline s :: ·) := by
  have ht : s.kind ≠ .text := by
    intro ht
    simp [Segment.isSelfContained, ht] at hs
  rw [scan, if_neg ht, if_neg hk, if_pos hs]
  cases scan debug rest <;> rfl

/-- What opens a block is no text, no output, and not complete in itself. -/
theorem kind_of_opensBlock {s : Segment} (hs : s.opensBlock = true) :
    s.kind ≠ .text ∧ s.kind ≠ .output ∧ s.isSelfContained = false := by
  obtain ⟨hd, -, -⟩ := Segment.opensBlock_iff.1 hs
  have hself := Segment.isSelfContained_of_delimits hd
  refine ⟨fun ht => ?_, fun ho => ?_, hself⟩
  · simp [Segment.not_delimits_of_text ht] at hd
  · simp [Segment.isSelfContained_of_output ho] at hself

/-- A block that is closed is scanned in parts: its body, its branches, and what is behind it. -/
theorem scan_block (debug : Bool) {s : Segment} (hs : s.opensBlock = true)
    {rest : List Segment} {x : Extent} (hx : extent? s.kind 0 rest = some x) :
    scan debug (s :: rest) = (do
      let body ← scan debug x.body
      let more ← scanBranches debug x.more
      let behind ← scan debug x.behind
      return .block s body more :: behind) := by
  obtain ⟨ht, ho, hself⟩ := kind_of_opensBlock hs
  obtain ⟨-, hc, hn⟩ := Segment.opensBlock_iff.1 hs
  rw [scan]
  simp only [ht, ho, hself, hc, hn, if_false, Bool.false_eq_true]
  split
  · next hnone => simp [hx] at hnone
  · next y hsome =>
    rw [hx] at hsome
    cases hsome
    rfl

/-- A block that is not closed is refused. -/
theorem scan_unclosed (debug : Bool) {s : Segment} (hs : s.opensBlock = true)
    {rest : List Segment} (hx : extent? s.kind 0 rest = none) :
    scan debug (s :: rest) = .error (.ofFault debug s (.missingClosing s.kind)) := by
  obtain ⟨ht, ho, hself⟩ := kind_of_opensBlock hs
  obtain ⟨-, hc, hn⟩ := Segment.opensBlock_iff.1 hs
  rw [scan]
  simp only [ht, ho, hself, hc, hn, if_false, Bool.false_eq_true]
  split
  · rfl
  · next y hsome => simp [hx] at hsome

/-- An end or a continuation that stands in no block is refused. -/
theorem scan_stray (debug : Bool) {s : Segment} (hd : s.delimits = true)
    (hs : s.opensBlock = false) (rest : List Segment) :
    scan debug (s :: rest) = .error (.ofFault debug s
      (if s.closing then .unexpectedClosing s.kind else .unexpectedContinuation s.kind)) := by
  have hself := Segment.isSelfContained_of_delimits hd
  have ht : s.kind ≠ .text := fun ht => by simp [Segment.not_delimits_of_text ht] at hd
  have ho : s.kind ≠ .output := fun ho => by simp [Segment.isSelfContained_of_output ho] at hself
  rw [scan, if_neg ht, if_neg ho, if_neg (by simp [hself])]
  -- an end is refused as such, and so is a continuation
  cases hc : s.closing with
  | true => rfl
  | false =>
    have hn : s.next = true := by
      cases hn : s.next with
      | true => rfl
      | false => simp [Segment.opensBlock, hd, hc, hn] at hs
    simp [hn]

mutual

/-- Scanning finds the nodes that are written out. -/
theorem scan_of_flattens (debug : Bool) {nodes : List Node} {xs : List Segment} :
    Flattens nodes xs → scan debug xs = .ok nodes
  | .nil => by rw [scan]
  | .text hs h => by rw [scan_text debug hs, scan_of_flattens debug h]; rfl
  | .output hs h => by rw [scan_output debug hs, scan_of_flattens debug h]; rfl
  | .inline hk hs h => by rw [scan_inline debug hk hs, scan_of_flattens debug h]; rfl
  | @Flattens.block _ _ _ c _ _ _ rest hs hbody hmore hc h => by
    -- the depth counted while looking for the end is that of the blocks nested in this one
    have hkind := (Bool.and_eq_true_iff.1 (Segment.opensBlock_iff.1 hs).1).1
    obtain ⟨pieces, hpieces, hscan⟩ := scanBranches_of_flattens debug hkind hmore
    have hx := (counts_of_flattens hkind 0 hbody _).trans
      (congrArg (Option.map _) (hpieces c rest hc))
    rw [scan_block debug hs hx]
    simp only [Extent.prepend, List.append_nil]
    rw [scan_of_flattens debug hbody, hscan, scan_of_flattens debug h]
    rfl

/-- The extent of a block cuts its continuations out, and scanning finds their bodies. -/
theorem scanBranches_of_flattens (debug : Bool) {kind : Kind} (hkind : kind.opensBlock = true)
    {more : List Branch} {xs : List Segment} :
    FlattensMore kind more xs → ∃ pieces,
      (∀ c rest, c.Closes kind → extent? kind 0 (xs ++ c :: rest) = some ⟨[], pieces, rest⟩) ∧
      scanBranches debug pieces = .ok more
  | .nil => ⟨[], fun _ rest hc => extent?_closes hc rest, by rw [scanBranches]⟩
  | @FlattensMore.cons _ s _ _ xs _ hs hbody hmore => by
    obtain ⟨pieces, hpieces, hscan⟩ := scanBranches_of_flattens debug hkind hmore
    refine ⟨(s, xs) :: pieces, fun c rest hc => ?_, ?_⟩
    · rw [List.cons_append, extent?_continues hs, List.append_assoc,
        counts_of_flattens hkind 0 hbody, hpieces c rest hc]
      simp [Extent.prepend]
    · rw [scanBranches, scan_of_flattens debug hbody, hscan]
      rfl

end

/-- The segments of continuations as an extent holds them. -/
def spell (pieces : List (Segment × List Segment)) : List Segment :=
  pieces.flatMap fun p => p.1 :: p.2

/-- An extent is cut out of the segments in front of a closing segment. -/
theorem exists_of_extent? {kind : Kind} (hkind : kind.opensBlock = true) {depth : Nat}
    {segments : List Segment} {x : Extent} (h : extent? kind depth segments = some x) :
    ∃ c, c.Closes kind ∧ segments = x.body ++ (spell x.more ++ c :: x.behind) ∧
      ∀ p ∈ x.more, p.1.Continues kind := by
  induction segments generalizing depth x with
  | nil => simp [extent?] at h
  | cons s rest ih =>
    have hstep : ∀ d, (extent? kind d rest).map (.cons s) = some x →
        ∃ c, c.Closes kind ∧ s :: rest = x.body ++ (spell x.more ++ c :: x.behind) ∧
          ∀ p ∈ x.more, p.1.Continues kind := by
      intro d hd
      obtain ⟨y, hy, rfl⟩ := Option.map_eq_some_iff.1 hd
      obtain ⟨c, hc, hsplit, hmore⟩ := ih hy
      exact ⟨c, hc, by rw [hsplit]; rfl, hmore⟩
    rw [extent?.eq_def] at h
    dsimp only at h
    split at h
    · exact hstep depth h
    next hcounted =>
      obtain ⟨hk, hself⟩ := not_or.1 hcounted
      have hk : s.kind = kind := Decidable.not_not.1 hk
      have hd : s.delimits = true := by simp [Segment.delimits, hk, hkind, hself]
      split at h
      · next hc =>
        split at h
        · cases h
          exact ⟨s, ⟨hk, hd, hc⟩, rfl, by simp⟩
        · exact hstep _ h
      next hc =>
        have hc : s.closing = false := by simpa using hc
        split at h
        · next hn =>
          -- a continuation in front of the one found first
          obtain ⟨y, hy, rfl⟩ := Option.map_eq_some_iff.1 h
          obtain ⟨c, hcl, hsplit, hmore⟩ := ih hy
          refine ⟨c, hcl, by simp [spell, hsplit], ?_⟩
          rw [List.forall_mem_cons]
          exact ⟨⟨hk, hd, hc, hn.1⟩, hmore⟩
        split at h
        · exact hstep _ h
        · exact hstep _ h

mutual

/-- Scanning finds nothing that is not written out. -/
theorem flattens_of_scan {debug : Bool} {segments : List Segment} {nodes : List Node}
    (h : scan debug segments = .ok nodes) : Flattens nodes segments := by
  match segments with
  | [] =>
    rw [scan] at h
    cases h
    exact .nil
  | s :: rest =>
    -- a segment that delimits nothing is a leaf; of those that do only an opening one is no error
    cases hd : s.delimits with
    | false =>
      by_cases hself : s.isSelfContained = true
      · by_cases hk : s.kind = .output
        · rw [scan_output debug hk] at h
          obtain ⟨behind, hbehind, rfl⟩ := Except.map_eq_ok_iff.1 h
          exact .output hk (flattens_of_scan hbehind)
        · rw [scan_inline debug hk hself] at h
          obtain ⟨behind, hbehind, rfl⟩ := Except.map_eq_ok_iff.1 h
          exact .inline hk hself (flattens_of_scan hbehind)
      · have hk := Segment.kind_eq_text_of_not_delimits hd (by simpa using hself)
        rw [scan_text debug hk] at h
        obtain ⟨behind, hbehind, rfl⟩ := Except.map_eq_ok_iff.1 h
        exact .text hk (flattens_of_scan hbehind)
    | true =>
      cases hs : s.opensBlock with
      | false =>
        rw [scan_stray debug hd hs] at h
        cases h
      | true =>
        have hkind := (Bool.and_eq_true_iff.1 hd).1
        cases hx : extent? s.kind 0 rest with
        | none =>
          rw [scan_unclosed debug hs hx] at h
          cases h
        | some x =>
          obtain ⟨c, hc, hsplit, hpieces⟩ := exists_of_extent? hkind hx
          have hlen := extent?_length hx
          rw [scan_block debug hs hx] at h
          obtain ⟨body, hbody, h⟩ := Except.bind_eq_ok_iff.1 h
          obtain ⟨more, hmore, h⟩ := Except.bind_eq_ok_iff.1 h
          obtain ⟨behind, hbehind, h⟩ := Except.bind_eq_ok_iff.1 h
          cases h
          rw [hsplit]
          exact .block hs (flattens_of_scan hbody) (flattensMore_of_scan hmore hpieces) hc
            (flattens_of_scan hbehind)
termination_by segments.length
decreasing_by
  all_goals simp only [List.length_cons]
  all_goals omega

/-- So it is with the continuations. -/
theorem flattensMore_of_scan {debug : Bool} {kind : Kind}
    {pieces : List (Segment × List Segment)} {more : List Branch}
    (h : scanBranches debug pieces = .ok more) (hpieces : ∀ p ∈ pieces, p.1.Continues kind) :
    FlattensMore kind more (spell pieces) := by
  match pieces with
  | [] =>
    rw [scanBranches] at h
    cases h
    exact .nil
  | (head, segments) :: pieces =>
    rw [scanBranches] at h
    obtain ⟨body, hbody, h⟩ := Except.bind_eq_ok_iff.1 h
    obtain ⟨more, hmore, h⟩ := Except.bind_eq_ok_iff.1 h
    cases h
    rw [List.forall_mem_cons] at hpieces
    exact .cons hpieces.1 (flattens_of_scan hbody) (flattensMore_of_scan hmore hpieces.2)
termination_by branchSize pieces
decreasing_by
  all_goals simp only [branchSize]
  all_goals omega

end

/-! ## Refusals -/

/-- A refusal that names a segment of the list and says what is wrong with it. -/
def Refusal (debug : Bool) (segments : List Segment) (e : CompileError) : Prop :=
  ∃ s ∈ segments, ∃ fault, e = .ofFault debug s fault ∧
    (fault = .missingClosing s.kind ∨ fault = .unexpectedClosing s.kind ∨
      fault = .unexpectedContinuation s.kind)

/-- A segment at fault is at fault in any list that it is part of. -/
theorem Refusal.mono {debug : Bool} {xs ys : List Segment} {e : CompileError}
    (h : Refusal debug xs e) (hsub : ∀ s ∈ xs, s ∈ ys) : Refusal debug ys e := by
  obtain ⟨s, hs, hfault⟩ := h
  exact ⟨s, hsub s hs, hfault⟩

theorem Refusal.tail {debug : Bool} {s : Segment} {xs : List Segment} {e : CompileError}
    (h : Refusal debug xs e) : Refusal debug (s :: xs) e :=
  h.mono fun _ hs => List.mem_cons_of_mem _ hs

mutual

/-- A refusal names one of the segments. -/
theorem refusal_of_scan {debug : Bool} {segments : List Segment} {e : CompileError}
    (h : scan debug segments = .error e) : Refusal debug segments e := by
  match segments with
  | [] =>
    rw [scan] at h
    cases h
  | s :: rest =>
    -- the cases are those of the scan, in its order
    cases hd : s.delimits with
    | false =>
      by_cases hself : s.isSelfContained = true
      · by_cases hk : s.kind = .output
        · rw [scan_output debug hk] at h
          exact (refusal_of_scan (Except.map_eq_error_iff.1 h)).tail
        · rw [scan_inline debug hk hself] at h
          exact (refusal_of_scan (Except.map_eq_error_iff.1 h)).tail
      · have hk := Segment.kind_eq_text_of_not_delimits hd (by simpa using hself)
        rw [scan_text debug hk] at h
        exact (refusal_of_scan (Except.map_eq_error_iff.1 h)).tail
    | true =>
      cases hs : s.opensBlock with
      | false =>
        rw [scan_stray debug hd hs] at h
        cases h
        refine ⟨s, List.mem_cons_self, _, rfl, ?_⟩
        split
        · exact .inr (.inl rfl)
        · exact .inr (.inr rfl)
      | true =>
        have hkind := (Bool.and_eq_true_iff.1 hd).1
        cases hx : extent? s.kind 0 rest with
        | none =>
          rw [scan_unclosed debug hs hx] at h
          cases h
          exact ⟨s, List.mem_cons_self, _, rfl, .inl rfl⟩
        | some x =>
          obtain ⟨c, hc, hsplit, hpieces⟩ := exists_of_extent? hkind hx
          have hlen := extent?_length hx
          rw [scan_block debug hs hx] at h
          refine Refusal.tail ?_
          rw [hsplit]
          rcases Except.bind_eq_error_iff.1 h with h | ⟨body, hbody, h⟩
          · exact (refusal_of_scan h).mono (by simp +contextual)
          rcases Except.bind_eq_error_iff.1 h with h | ⟨more, hmore, h⟩
          · exact (refusal_of_scanBranches h).mono (by simp +contextual)
          rcases Except.bind_eq_error_iff.1 h with h | ⟨behind, hbehind, h⟩
          · exact (refusal_of_scan h).mono (by simp +contextual)
          · cases h
termination_by segments.length
decreasing_by
  all_goals simp only [List.length_cons]
  all_goals omega

/-- A fault in a branch is one of a segment in it. -/
theorem refusal_of_scanBranches {debug : Bool} {pieces : List (Segment × List Segment)}
    {e : CompileError} (h : scanBranches debug pieces = .error e) :
    Refusal debug (spell pieces) e := by
  match pieces with
  | [] =>
    rw [scanBranches] at h
    cases h
  | (head, segments) :: pieces =>
    rw [scanBranches] at h
    rcases Except.bind_eq_error_iff.1 h with h | ⟨body, hbody, h⟩
    · exact (refusal_of_scan h).mono (by simp +contextual [spell])
    rcases Except.bind_eq_error_iff.1 h with h | ⟨more, hmore, h⟩
    · exact (refusal_of_scanBranches h).mono (by simp +contextual [spell])
    · cases h
termination_by branchSize pieces
decreasing_by
  all_goals simp only [branchSize]
  all_goals omega

end

/-! ## Scanning and writing out -/

/-- Scanning is the inverse of writing out. It succeeds just on the lists that write some nodes
out, equivalently on those that the stack of open kinds accepts, and finds the only nodes that
they write out; these hold every segment once and in order, except for the closing ones. Any
other list is refused, and the refusal names one of its segments. -/
theorem scan_inverts_flattening (debug : Bool) (segments : List Segment) :
    (∀ nodes, scan debug segments = .ok nodes ↔ Flattens nodes segments) ∧
    (∀ nodes nodes', Flattens nodes segments → Flattens nodes' segments → nodes = nodes') ∧
    (∀ nodes, Flattens nodes segments →
      segmentsOf nodes = segments.filter fun s => !s.closesBlock) ∧
    (nests [] segments = true ↔ ∃ nodes, scan debug segments = .ok nodes) ∧
    (nests [] segments = false ↔
      ∃ e, scan debug segments = .error e ∧ Refusal debug segments e) := by
  have hiff : ∀ nodes, scan debug segments = .ok nodes ↔ Flattens nodes segments :=
    fun nodes => ⟨flattens_of_scan, scan_of_flattens debug⟩
  have hnests : nests [] segments = true ↔ ∃ nodes, scan debug segments = .ok nodes := by
    simp only [hiff, exists_flattens_iff]
  refine ⟨hiff, fun nodes nodes' h h' => ?_, fun nodes => segmentsOf_of_flattens, hnests, ?_⟩
  · -- both are what scanning finds
    have hsame := (scan_of_flattens debug h).symm.trans (scan_of_flattens debug h')
    exact Except.ok.inj hsame
  · rw [← Bool.not_eq_true, hnests]
    cases hscan : scan debug segments with
    | ok nodes => simp
    | error e => simpa using refusal_of_scan hscan

end Stencil.Node
