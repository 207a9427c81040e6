import Stencil.Proofs.Expr.Offset
import Stencil.Proofs.Segment.Split
import Stencil.Proofs.Text.Lines

/-!
# Stencil.Proofs.Segment.Position — the positions that reading reports

The segments of a text start where their pieces do. If a text cannot be read, the error belongs
to its first directive that cannot, and stands at a character of it
(`RawDirective.Fails.reportedInside`); an error in an expression is as far behind the start of the
text that was parsed as the parser says. `parse_positions` puts this together.
-/

namespace Stencil.Segment

open Text

/-! ## The parts of a content -/

/-- The mark and what follows it stand behind the rest of the content. -/
theorem takeMark_append (content : List Char) :
    ∃ behind, content = (takeMark content).1 ++ behind := by
  have hlast : ∀ c cs, content.reverse.dropWhile isBlank = c :: cs →
      ∃ behind, content = cs.reverse ++ behind := by
    intro c cs hcs
    have hall := List.takeWhile_append_dropWhile (p := isBlank) (l := content.reverse)
    rw [hcs] at hall
    have hreverse := congrArg List.reverse hall
    rw [List.reverse_append, List.reverse_cons, List.reverse_reverse, List.append_assoc] at hreverse
    exact ⟨_, hreverse.symm⟩
  unfold takeMark
  split
  · next cs hcs => exact hlast _ cs hcs
  · next cs hcs => exact hlast _ cs hcs
  · exact ⟨[], (List.append_nil _).symm⟩

/-- Blanks, path, colon and rest make up the content. -/
theorem takeContext?_append {cs blanks path colon rest : List Char}
    (h : takeContext? cs = some (blanks, path, colon, rest)) :
    blanks ++ path ++ colon ++ rest = cs := by
  simp only [takeContext?] at h
  split at h
  · next hpath hcolon =>
    cases h
    rw [List.append_assoc, List.append_assoc, List.append_assoc, List.singleton_append, ← hcolon,
      List.takeWhile_append_dropWhile, List.takeWhile_append_dropWhile,
      List.takeWhile_append_dropWhile]
  · cases h

/-- What stands behind a context is the end of the content. -/
theorem isWithin_of_readContext {content body : Span} {context : Option String}
    (h : readContext content = .ok (context, body)) :
    body.IsWithin content.start content.text := by
  unfold readContext at h
  split at h
  · cases h
    exact ⟨[], [], (List.append_nil _).symm, rfl⟩
  · next blanks path colon rest htake =>
    dsimp only at h
    split at h
    · cases h
      refine ⟨blanks ++ path ++ colon, [], ?_, ?_⟩
      · rw [List.append_nil]
        exact (takeContext?_append htake).symm
      · rw [Position.past_append, Position.past_append]
    · cases h

/-! ## Errors in their places -/

/-- The position of the error is that of a place in the span. -/
def ReportedIn (s : Span) (e : Error) : Prop :=
  ∃ u v, s.text = u ++ v ∧ e.position = s.start.past u

/-- An error of the context is reported where it stands, and is none of an expression. -/
theorem reportedIn_of_readContext {content : Span} {e : Error}
    (h : readContext content = .error e) :
    ReportedIn content e ∧ ∀ f, e.fault ≠ .expression f := by
  unfold readContext at h
  split at h
  · cases h
  · next blanks path colon rest htake =>
    dsimp only at h
    split at h
    · cases h
    · cases h
      refine ⟨⟨blanks, path ++ colon ++ rest, ?_, rfl⟩, fun _ h => nomatch h⟩
      rw [← takeContext?_append htake]
      simp only [List.append_assoc]

/-- An error that is placed in a span stands as far behind its start as the parser says. -/
theorem reportedIn_placeError {s : Span} {e : Expr.Error} (h : IsBetween 0 s.text e.offset) :
    ReportedIn s (placeError s e) ∧
      (placeError s e).position.offset = s.start.offset + e.offset := by
  obtain ⟨u, v, htext, hoffset⟩ := h
  have hinto : s.start.into s.text e.offset = s.start.past u := by
    rw [hoffset, Nat.zero_add, htext, Position.into_append]
  refine ⟨⟨u, v, htext, hinto⟩, ?_⟩
  rw [placeError, hinto, Position.past_offset, hoffset, Nat.zero_add]

/-- The expression parser refuses a text of the directive: what is left of its content, or the
arguments of a modifier. -/
inductive RawDirective.Refuses (d : RawDirective) : Span → Expr.Error → Prop where
  | content {context : Option String} {s : Span} {e : Expr.Error} :
      readContext ⟨d.content.start, (takeMark d.content.text).1⟩ = .ok (context, s) →
      Expr.Postfix.parse (String.ofList s.text) = .error e → d.Refuses s e
  | argument {m : RawModifier} {s : Span} {e : Expr.Error} : m ∈ d.modifiers → m.args = some s →
      Expr.Postfix.parseList (String.ofList s.text) = .error e → d.Refuses s e

/-- An expression that is refused has its error within itself. -/
theorem RawDirective.Refuses.isBetween {d : RawDirective} {s : Span} {e : Expr.Error}
    (h : d.Refuses s e) : IsBetween 0 s.text e.offset := by
  cases h with
  | content _ hparse => simpa using Expr.Postfix.between_of_parse hparse
  | argument _ _ hparse => simpa using Expr.Postfix.between_of_parseList hparse

/-- The content without its mark and context is a part of the directive. -/
theorem RawDirective.HasParts.body {d : RawDirective} (h : d.HasParts) {context : Option String}
    {body : Span}
    (hbody : readContext ⟨d.content.start, (takeMark d.content.text).1⟩ = .ok (context, body)) :
    body.IsWithin d.start d.spelling.dropLast := by
  obtain ⟨behind, hmark⟩ := takeMark_append d.content.text
  exact ((isWithin_of_readContext hbody).trans
    (t := ⟨d.content.start, (takeMark d.content.text).1⟩)
    ⟨[], behind, hmark, rfl⟩).trans h.content

/-- An expression that is refused stands within the directive. -/
theorem RawDirective.Refuses.isWithin {d : RawDirective} (hd : d.HasParts) {s : Span}
    {e : Expr.Error} (h : d.Refuses s e) : s.IsWithin d.start d.spelling.dropLast := by
  cases h with
  | content hbody _ => exact hd.body hbody
  | argument hm hargs _ => exact hd.args _ hm s hargs

/-- Why a directive is refused, by the step of reading that fails. -/
inductive RawDirective.Fails (d : RawDirective) (e : Error) : Prop where
  | context : readContext ⟨d.content.start, (takeMark d.content.text).1⟩ = .error e → d.Fails e
  | expression {s : Span} {e' : Expr.Error} : d.Refuses s e' → e = placeError s e' → d.Fails e
  | mark : e.position = d.start → (∀ f, e.fault ≠ .expression f) → d.Fails e

/-- A misplaced mark is no fault of an expression. -/
theorem fault_of_checkMark {s : Segment} {mark : Option Mark} {fault : Fault}
    (h : checkMark s mark = .error fault) (f : Expr.Fault) : fault ≠ .expression f := by
  rintro rfl
  unfold checkMark at h
  split at h
  all_goals try dsimp only at h
  all_goals try split at h
  all_goals cases h

/-- A directive that cannot be read fails in its context, in an expression, or in its mark. -/
theorem fails_of_readDirective {d : RawDirective} {e : Error} (h : readDirective d = .error e) :
    d.Fails e := by
  -- the parts are read in order: context, expression, modifiers, mark
  rcases Except.bind_eq_error_iff.1 h with h | ⟨⟨context, body⟩, hbody, h⟩
  · exact .context h
  rcases Except.bind_eq_error_iff.1 h with h | ⟨expression, -, h⟩
  · unfold readExpression at h
    split at h
    · cases h
    · obtain ⟨e', hparse, rfl⟩ :=
        Except.mapError_eq_error_iff.1 (Except.map_eq_error_iff.1 h)
      exact .expression (.content hbody hparse) rfl
  rcases Except.bind_eq_error_iff.1 h with h | ⟨modifiers, -, h⟩
  · obtain ⟨before, m, after, hsplit, -, hm⟩ := Except.exists_of_mapM_eq_error h
    have hmem : m ∈ d.modifiers := hsplit ▸ List.mem_append_right before List.mem_cons_self
    unfold readModifier at hm
    split at hm
    · next s hargs =>
      rcases Except.bind_eq_error_iff.1 hm with hm | ⟨_, -, hm⟩
      · obtain ⟨e', hparse, rfl⟩ := Except.mapError_eq_error_iff.1 hm
        exact .expression (.argument hmem hargs hparse) rfl
      · cases hm
    · cases hm
  · obtain ⟨f, hf, rfl⟩ := Except.mapError_eq_error_iff.1 h
    exact .mark rfl (fault_of_checkMark hf)

/-- The position of the error is that of a character of the directive. -/
def RawDirective.ReportedInside (d : RawDirective) (e : Error) : Prop :=
  ∃ u v, d.spelling = u ++ v ∧ v ≠ [] ∧ e.position = d.start.past u

/-- At the end of a part of the directive there is still its last brace. -/
theorem RawDirective.reportedInside_of_isWithin {d : RawDirective} (hd : d.spelling ≠ [])
    {s : Span} {e : Error} (hs : s.IsWithin d.start d.spelling.dropLast) (he : ReportedIn s e) :
    d.ReportedInside e := by
  obtain ⟨u, v, hspelling, hstart⟩ := hs
  obtain ⟨a, b, htext, hposition⟩ := he
  refine ⟨u ++ a, b ++ v ++ [d.spelling.getLast hd], ?_, by simp, ?_⟩
  · refine (List.dropLast_append_getLast hd).symm.trans ?_
    rw [hspelling, htext]
    simp only [List.append_assoc]
  · rw [hposition, hstart, Position.past_append]

/-- Its error is reported within the directive. -/
theorem RawDirective.Fails.reportedInside {d : RawDirective} {e : Error} (h : d.Fails e)
    (hne : d.spelling ≠ []) (hd : d.HasParts) : d.ReportedInside e := by
  cases h with
  | context hcontext =>
    obtain ⟨behind, hmark⟩ := takeMark_append d.content.text
    refine d.reportedInside_of_isWithin hne ?_ (reportedIn_of_readContext hcontext).1
    exact Span.IsWithin.trans ⟨[], behind, hmark, rfl⟩ hd.content
  | expression hrefuses heq =>
    rw [heq]
    exact d.reportedInside_of_isWithin hne (hrefuses.isWithin hd)
      (reportedIn_placeError hrefuses.isBetween).1
  | mark hposition _ => exact ⟨[], d.spelling, rfl, hne, hposition⟩

/-- An error in an expression is where the parser places it in the text it was given. -/
theorem RawDirective.Fails.offset_eq {d : RawDirective} {e : Error} (h : d.Fails e)
    {f : Expr.Fault} (hf : e.fault = .expression f) :
    ∃ s e', d.Refuses s e' ∧ e'.fault = f ∧ e.position.offset = s.start.offset + e'.offset := by
  cases h with
  | context hcontext => exact absurd hf ((reportedIn_of_readContext hcontext).2 f)
  | @expression s e' hrefuses heq =>
    rw [heq] at hf ⊢
    cases hf
    exact ⟨s, e', hrefuses, rfl, (reportedIn_placeError hrefuses.isBetween).2⟩
  | mark _ hfault => exact absurd hf (hfault f)

/-! ## All positions -/

/-- Checking the mark leaves the position as it is. -/
theorem position_of_checkMark {s t : Segment} {mark : Option Mark}
    (h : checkMark s mark = .ok t) : t.position = s.position := by
  unfold checkMark at h
  split at h
  all_goals try dsimp only at h
  all_goals try split at h
  all_goals cases h
  all_goals rfl

/-- A segment starts where its piece does. -/
theorem position_of_readPiece {x : Piece} {s : Segment} (h : readPiece x = .ok s) :
    s.position = x.span.start := by
  cases x with
  | text span =>
    cases h
    rfl
  | directive d =>
    obtain ⟨_, -, h⟩ := Except.bind_eq_ok_iff.1 h
    obtain ⟨_, -, h⟩ := Except.bind_eq_ok_iff.1 h
    obtain ⟨_, -, h⟩ := Except.bind_eq_ok_iff.1 h
    exact position_of_checkMark (Except.mapError_eq_ok_iff.1 h)

/-- Pieces that are not empty start one behind the other. -/
theorem Placed.pairwise {p : Position} {pieces : List Piece} (h : Placed p pieces)
    (hne : ∀ x ∈ pieces, x.spelling ≠ []) :
    (∀ x ∈ pieces, p.offset ≤ x.span.start.offset) ∧
      pieces.Pairwise fun x y => x.span.start.offset < y.span.start.offset := by
  induction pieces generalizing p with
  | nil => exact ⟨fun _ h => (nomatch h), .nil⟩
  | cons x pieces ih =>
    obtain ⟨hstart, hrest⟩ := h
    obtain ⟨hle, hpairwise⟩ := ih hrest fun y hy => hne y (List.mem_cons_of_mem _ hy)
    have hpos := size_pos (hne x List.mem_cons_self)
    simp only [Position.past_offset] at hle
    refine ⟨fun y hy => ?_, .cons (fun y hy => ?_) hpairwise⟩
    · rcases List.mem_cons.1 hy with rfl | hy
      · exact Nat.le_of_eq (congrArg _ hstart.symm)
      · have := hle y hy
        omega
    · have := hle y hy
      rw [hstart]
      omega

/-- **The positions that reading a text reports are true.** All that is looked at on the way is
a part of the text, and every place in it is found by the index of its lines. The segments start
where their pieces do, one behind the other; or else the first directive that cannot be read is
reported, at a character of it, and at the place that the expression parser names if it was that
which refused. -/
theorem parse_positions (source : String) :
    (∀ d, .directive d ∈ split source.toList →
      (Piece.directive d).span.IsWithin .start source.toList ∧ d.HasParts ∧
      ∀ context body, readContext ⟨d.content.start, (takeMark d.content.text).1⟩ =
        .ok (context, body) → body.IsWithin d.start d.spelling.dropLast) ∧
    (∀ p : Position, p.IsPlaceIn source.toList → Position.find? source.toList p.offset = some p) ∧
    match parse source with
    | .ok segments =>
      segments.Pairwise (fun s t => s.position.offset < t.position.offset) ∧
      List.Forall₂ (fun x s => readPiece x = .ok s ∧ s.position = x.span.start ∧
        x.span.IsWithin .start source.toList ∧ s.position.IsPlaceIn source.toList)
        (split source.toList) segments
    | .error e =>
      ∃ before d after, split source.toList = before ++ .directive d :: after ∧
        (∀ x ∈ before, ∃ s, readPiece x = .ok s) ∧ readDirective d = .error e ∧
        d.ReportedInside e ∧ e.position.IsPlaceIn source.toList ∧
        ∀ f, e.fault = .expression f → ∃ s e', d.Refuses s e' ∧ e'.fault = f ∧
          s.IsWithin d.start d.spelling.dropLast ∧
          e.position.offset = s.start.offset + e'.offset := by
  refine ⟨fun d hd => ?_, fun p hp => hp.find?, ?_⟩
  · have hparts := (hasParts_of_mem_split hd).2
    exact ⟨isWithin_of_mem_split hd, hparts, fun _ _ => hparts.body⟩
  -- either all pieces are read, or there is a first one that is not
  cases hparse : parse source with
  | ok segments =>
    have hread := Except.forall₂_of_mapM hparse
    refine ⟨?_, ?_⟩
    · have hmap : (split source.toList).map (·.span.start) = segments.map (·.position) := by
        rw [← List.forall₂_eq_eq_eq, List.forall₂_map_left_iff, List.forall₂_map_right_iff]
        exact hread.imp fun _ _ h => (position_of_readPiece h).symm
      have hpieces := ((placed_split source.toList).pairwise
        fun _ => spelling_ne_nil_of_mem_split).2
      rw [← List.pairwise_map (f := fun x : Piece => x.span.start)
        (R := fun p q : Position => p.offset < q.offset), hmap, List.pairwise_map]
        at hpieces
      exact hpieces
    · have hwithin : ∀ x ∈ split source.toList, x.span.IsWithin .start source.toList :=
        fun _ => isWithin_of_mem_split
      refine (List.forall₂_and_left _ _ |>.2 ⟨hwithin, hread⟩).imp fun x s h => ?_
      obtain ⟨hx, hs⟩ := h
      have hposition := position_of_readPiece hs
      refine ⟨hs, hposition, hx, ?_⟩
      rw [hposition]
      exact hx.isPlaceIn (List.nil_append _).symm
  | error e =>
    obtain ⟨before, x, after, hsplit, hbefore, hx⟩ := Except.exists_of_mapM_eq_error hparse
    cases x with
    | text s => cases hx
    | directive d =>
      have hd : .directive d ∈ split source.toList :=
        hsplit ▸ List.mem_append_right before List.mem_cons_self
      obtain ⟨hne, hparts⟩ := hasParts_of_mem_split hd
      have hfails := fails_of_readDirective hx
      have hinside := hfails.reportedInside hne hparts
      refine ⟨before, d, after, hsplit, hbefore, hx, hinside, ?_, fun f hf => ?_⟩
      · obtain ⟨u, v, hspelling, -, hposition⟩ := hinside
        rw [hposition]
        exact (isWithin_of_mem_split hd).isPlaceIn hspelling
      · obtain ⟨s, e', hrefuses, hfault, hoffset⟩ := hfails.offset_eq hf
        exact ⟨s, e', hrefuses, hfault, hrefuses.isWithin hparts, hoffset⟩

end Stencil.Segment
