import Mathlib
import Stencil.Proofs.Block.WellNested
import Stencil.Proofs.Except
import Stencil.Proofs.Scope.Single
import Stencil.Segment.Reader

/-!
# Stencil.Proofs.Segment.Parsed — what is known of segments read from a text

A list of segments put together by hand may lack expressions anywhere. In one that is read from a
text, only texts and the segments that end or continue a block may (`Segment.parsed_of_parse`),
and all expressions are trees in postfix order. What is read from a directive is never a text
(`Segment.ne_text_of_mem_split`).

Modules that read whole templates build on this one. They evaluate the reading with equations of
`Char`, `ByteArray` and `List.lookup` that no one part of the library has, so it is imported whole
here, and nowhere else.
-/

namespace Stencil.Segment

/-- What reading sees to. -/
structure Parsed (s : Segment) : Prop where
  /-- Only texts and segments that end or continue a block go without an expression. -/
  expression_isSome : s.kind ≠ .text → s.delimits = false ∨ s.opensBlock = true →
    s.expression.isSome = true
  expression_isTree : ∀ e, s.expression = some e → e.IsTree
  modifiers_isTree : ∀ m ∈ s.modifiers, ∀ e ∈ m.args, e.IsTree

/-! ## Expressions -/

/-- An expression that is read is a tree in postfix order. -/
theorem isTree_of_parse {text : String} {e : Expr.Postfix} (h : Expr.Postfix.parse text = .ok e) :
    e.IsTree := by
  obtain ⟨p, -, rfl⟩ := Except.map_eq_ok_iff.1 h
  exact p.isTree_toPostfix

theorem isTree_of_parseList {text : String} {es : List Expr.Postfix}
    (h : Expr.Postfix.parseList text = .ok es) {e : Expr.Postfix} (he : e ∈ es) : e.IsTree := by
  obtain ⟨ps, -, rfl⟩ := Except.map_eq_ok_iff.1 h
  obtain ⟨p, -, rfl⟩ := List.mem_map.1 he
  exact p.isTree_toPostfix

/-! ## Where the parts of a segment come from -/

/-- The parts of a segment are as they are read from texts. -/
structure Read (s : Segment) : Prop where
  context : ∀ p, s.context = some p → Path.isValid p = true
  expression : ∀ e, s.expression = some e → ∃ text, Expr.Postfix.parse text = .ok e
  modifiers : ∀ m ∈ s.modifiers, ∃ text, Expr.Postfix.parseList text = .ok m.args

/-- A context that is read is a valid path. -/
theorem isValid_of_readContext {s : Span} {found : Option String × Span}
    (h : readContext s = .ok found) {p : String} (hp : found.1 = some p) :
    Path.isValid p = true := by
  unfold readContext at h
  split at h
  · cases h
    cases hp
  · dsimp only at h
    split at h
    · next hvalid =>
      cases h
      cases hp
      exact hvalid
    · cases h

/-- An expression of a directive is one that is read from a text. -/
theorem exists_parse_of_readExpression {s : Span} {e : Expr.Postfix}
    (h : readExpression s = .ok (some e)) : ∃ text, Expr.Postfix.parse text = .ok e := by
  unfold readExpression at h
  split at h
  · cases h
  · obtain ⟨e', hparse, heq⟩ := Except.map_eq_ok_iff.1 h
    cases heq
    exact ⟨_, Except.mapError_eq_ok_iff.1 hparse⟩

/-- No arguments are those of a blank text. -/
theorem exists_parseList_of_readModifier {m : RawModifier} {call : ModifierCall}
    (h : readModifier m = .ok call) : ∃ text, Expr.Postfix.parseList text = .ok call.args := by
  unfold readModifier at h
  split at h
  · obtain ⟨args, hargs, h⟩ := Except.bind_eq_ok_iff.1 h
    cases h
    exact ⟨_, Except.mapError_eq_ok_iff.1 hargs⟩
  · cases h
    exact ⟨"", rfl⟩

/-! ## Marks -/

/-- A directive of a kind that opens blocks delimits one, unless it is a call. -/
theorem isCall_of_not_delimits {s : Segment} (hd : s.delimits = false) (ht : s.kind ≠ .text)
    (ho : s.kind ≠ .output) (hr : s.kind ≠ .render) (hi : s.kind ≠ .inclusion) :
    s.closing = true ∧ s.expression.isSome = true := by
  cases hk : s.kind with
  | text => exact absurd hk ht
  | output => exact absurd hk ho
  | render => exact absurd hk hr
  | inclusion => exact absurd hk hi
  | custom => simpa [delimits, isSelfContained, Kind.opensBlock, hk] using hd
  | conditional | iterator | declare =>
    simp [delimits, isSelfContained, Kind.opensBlock, hk] at hd

/-- What a mark leaves of a segment, and which segments may lack an expression behind it. -/
theorem of_checkMark {s t : Segment} {mark : Option Mark} (h : checkMark s mark = .ok t) :
    t.context = s.context ∧ t.expression = s.expression ∧ t.modifiers = s.modifiers ∧
      (t.kind ≠ .text → t.delimits = false ∨ t.opensBlock = true → t.expression.isSome = true) := by
  unfold checkMark at h
  split at h
  · cases h
  · cases h
  · cases h
  · split at h
    · cases h
      exact ⟨rfl, rfl, rfl, fun _ _ => ‹_›⟩
    · cases h
  · split at h
    · cases h
      exact ⟨rfl, rfl, rfl, fun _ _ => ‹_›⟩
    · cases h
  · split at h
    · cases h
      exact ⟨rfl, rfl, rfl, fun _ _ => ‹_›⟩
    · cases h
  · next ho hr hi =>
    -- a closing segment: it opens nothing, and one that delimits nothing either is a call
    dsimp only at h
    split at h
    · cases h
    cases h
    refine ⟨rfl, rfl, rfl, fun ht hd => ?_⟩
    rcases hd with hd | hd
    · exact (isCall_of_not_delimits hd ht ho hr hi).2
    · cases (opensBlock_iff.1 hd).2.1
  · next ho hr hi =>
    -- a continuation: it opens nothing, and it is no call, since it does not close
    cases h
    refine ⟨rfl, rfl, rfl, fun ht hd => ?_⟩
    rcases hd with hd | hd
    · exact (isCall_of_not_delimits hd ht ho hr hi).2
    · cases (opensBlock_iff.1 hd).2.2
  · split at h
    · cases h
      exact ⟨rfl, rfl, rfl, fun _ _ => ‹_›⟩
    · cases h

/-- A mark does nothing but mark the segment, and one that is marked as closing and is no call has
no parts. -/
theorem cases_of_checkMark {s t : Segment} {mark : Option Mark} (h : checkMark s mark = .ok t) :
    t = s ∨ t = { s with next := true } ∨ t = { s with closing := true } ∧
      (s.kind = .custom ∧ s.expression.isSome = true ∨
        s.context = none ∧ s.expression = none ∧ s.modifiers = []) := by
  unfold checkMark at h
  split at h
  · cases h
  · cases h
  · cases h
  · split at h <;> cases h
    exact .inl rfl
  · split at h <;> cases h
    exact .inl rfl
  · split at h <;> cases h
    exact .inl rfl
  · dsimp only at h
    split at h
    · cases h
    next hladen =>
    cases h
    refine .inr (.inr ⟨rfl, or_iff_not_imp_left.2 fun hcall => ?_⟩)
    obtain ⟨he, hc, hm⟩ : s.expression = none ∧ s.context = none ∧ s.modifiers = [] := by
      simpa [hcall] using hladen
    exact ⟨hc, he, hm⟩
  · cases h
    exact .inr (.inl rfl)
  · split at h <;> cases h
    exact .inl rfl

/-- A segment that ends a block has no parts. -/
theorem empty_of_checkMark {s t : Segment} {mark : Option Mark} (hclosing : s.closing = false)
    (h : checkMark s mark = .ok t) (hc : t.closesBlock = true) :
    t.context = none ∧ t.expression = none ∧ t.modifiers = [] := by
  rcases cases_of_checkMark h with rfl | rfl | ⟨rfl, ⟨hk, he⟩ | hempty⟩
  · simp [closesBlock, hclosing] at hc
  · simp [closesBlock, hclosing] at hc
  · -- a custom directive with an expression that closes is a call, and ends no block
    simp [closesBlock, delimits, isSelfContained, hk, he] at hc
  · exact hempty

/-- The parts of a directive are read from texts. -/
theorem read_of_readDirective {d : RawDirective} {s : Segment} (h : readDirective d = .ok s) :
    s.Read := by
  obtain ⟨⟨context, body⟩, hcontext, h⟩ := Except.bind_eq_ok_iff.1 h
  obtain ⟨expression, hexpression, h⟩ := Except.bind_eq_ok_iff.1 h
  obtain ⟨modifiers, hmodifiers, h⟩ := Except.bind_eq_ok_iff.1 h
  obtain ⟨hc, he, hm, -⟩ := of_checkMark (Except.mapError_eq_ok_iff.1 h)
  refine ⟨fun p hp => ?_, fun e hs => ?_, fun m hs => ?_⟩
  · exact isValid_of_readContext hcontext (hc.symm.trans hp)
  · have hsome : expression = some e := he.symm.trans hs
    rw [hsome] at hexpression
    exact exists_parse_of_readExpression hexpression
  · rw [hm] at hs
    obtain ⟨raw, -, hraw⟩ := Except.exists_of_mapM hmodifiers hs
    exact exists_parseList_of_readModifier hraw

/-- So a directive that is read has its expressions, and they are trees. -/
theorem parsed_of_readDirective {d : RawDirective} {s : Segment} (h : readDirective d = .ok s) :
    s.Parsed := by
  have hread := read_of_readDirective h
  obtain ⟨⟨context, body⟩, -, h⟩ := Except.bind_eq_ok_iff.1 h
  obtain ⟨expression, -, h⟩ := Except.bind_eq_ok_iff.1 h
  obtain ⟨modifiers, -, h⟩ := Except.bind_eq_ok_iff.1 h
  obtain ⟨-, -, -, hsome⟩ := of_checkMark (Except.mapError_eq_ok_iff.1 h)
  refine ⟨hsome, fun e he => ?_, fun m hm e he => ?_⟩
  · obtain ⟨text, hparse⟩ := hread.expression e he
    exact isTree_of_parse hparse
  · obtain ⟨text, hparse⟩ := hread.modifiers m hm
    exact isTree_of_parseList hparse he

/-- A text has nothing that could be missing. -/
theorem parsed_ofText (s : Span) : (ofText s).Parsed :=
  ⟨fun h => absurd rfl h, fun _ h => (nomatch h), fun _ h => (nomatch h)⟩

/-- The parts of the segments of a text are read from texts. -/
theorem read_of_parse {source : String} {segments : List Segment}
    (h : parse source = .ok segments) : ∀ s ∈ segments, s.Read := by
  intro s hs
  obtain ⟨piece, -, hpiece⟩ := Except.exists_of_mapM h hs
  cases piece with
  | text span =>
    cases hpiece
    exact ⟨fun _ h => (nomatch h), fun _ h => (nomatch h), fun _ h => (nomatch h)⟩
  | directive d => exact read_of_readDirective hpiece

/-- The segments of a text are as reading sees to. -/
theorem parsed_of_parse {source : String} {segments : List Segment}
    (h : parse source = .ok segments) : ∀ s ∈ segments, s.Parsed := by
  intro s hs
  obtain ⟨piece, -, hpiece⟩ := Except.exists_of_mapM h hs
  cases piece with
  | text span =>
    cases hpiece
    exact parsed_ofText span
  | directive d => exact parsed_of_readDirective hpiece

/-- What ends a block in a text has no parts. -/
theorem empty_of_parse {source : String} {segments : List Segment}
    (h : parse source = .ok segments) {s : Segment} (hs : s ∈ segments)
    (hc : s.closesBlock = true) : s.context = none ∧ s.expression = none ∧ s.modifiers = [] := by
  obtain ⟨piece, -, hpiece⟩ := Except.exists_of_mapM h hs
  cases piece with
  | text span =>
    cases hpiece
    cases hc
  | directive d =>
    obtain ⟨⟨context, body⟩, -, hread⟩ := Except.bind_eq_ok_iff.1 hpiece
    obtain ⟨expression, -, hread⟩ := Except.bind_eq_ok_iff.1 hread
    obtain ⟨modifiers, -, hread⟩ := Except.bind_eq_ok_iff.1 hread
    exact empty_of_checkMark (s := ⟨d.kind, d.start, none, context, expression, modifiers, _, _⟩)
      rfl (Except.mapError_eq_ok_iff.1 hread) hc

/-! ## Kinds -/

/-- No marker stands for a text. -/
theorem ne_text_of_ofMarker? {c : Char} {kind : Kind} (h : Kind.ofMarker? c = some kind) :
    kind ≠ .text := by
  rintro rfl
  unfold Kind.ofMarker? at h
  repeat' split at h
  all_goals cases h

/-- No directive is a text. -/
theorem ne_text_of_takeDirective? {p : Position} {cs rest : List Char} {d : RawDirective}
    (h : takeDirective? p cs = some (d, rest)) : d.kind ≠ .text := by
  unfold takeDirective? at h
  split at h
  next kind marker body hmarked =>
  have hkind : kind ≠ .text := by
    split at hmarked
    · split at hmarked
      · next hmarker =>
        cases hmarked
        exact ne_text_of_ofMarker? hmarker
      · cases hmarked
        exact Kind.noConfusion
    · cases hmarked
      exact Kind.noConfusion
  split at h
  · split at h
    · cases h
    · obtain ⟨x, -, heq⟩ := Option.map_eq_some_iff.1 h
      cases heq
      exact hkind
  · cases h

/-- A text in front adds no directive. -/
theorem mem_of_mem_consText {p : Position} {c : Char} {pieces : List Piece} {d : RawDirective}
    (h : .directive d ∈ consText p c pieces) : .directive d ∈ pieces := by
  unfold consText at h
  split at h
  · exact List.mem_cons_of_mem _ ((List.mem_cons.1 h).resolve_left Piece.noConfusion)
  · exact (List.mem_cons.1 h).resolve_left Piece.noConfusion

/-- A directive is not of the kind of texts. -/
theorem ne_text_of_mem_split {cs : List Char} {d : RawDirective} (h : .directive d ∈ split cs) :
    d.kind ≠ .text := by
  unfold split at h
  generalize Position.start = p at h
  fun_induction splitAt p cs with
  | case1 => cases h
  | case2 p cs d' rest hd ih =>
    rcases List.mem_cons.1 h with heq | h
    · cases heq
      exact ne_text_of_takeDirective? hd
    · exact ih h
  | case3 p cs _ ih => exact ih (mem_of_mem_consText h)
  | case4 p c cs _ ih => exact ih (mem_of_mem_consText h)

/-! ## Directives in front -/

/-- A directive without modifiers ends behind its content. -/
theorem takeModifiers?_end (p : Position) (rest : List Char) :
    takeModifiers? p ('\x7d' :: rest) = some ([], ['\x7d'], rest) := by
  rw [takeModifiers?]
  rfl

section Plain

variable {inside content rest : List Char}
  (hcontent : takeContent none inside = some (content, '\x7d' :: rest)) (p : Position)

include hcontent

/-- A directive with a marker and without modifiers. -/
theorem takeDirective?_marked {marker : Char} {kind : Kind}
    (hmarker : Kind.ofMarker? marker = some kind) :
    takeDirective? p (marker :: '\x7b' :: inside) =
      some (⟨p, kind, ⟨p.past ['\x7b', marker, '\x7b'], content⟩, [],
        ['\x7b', marker, '\x7b'] ++ content ++ ['\x7d', '\x7d']⟩, rest) := by
  simp only [takeDirective?, hmarker, hcontent, takeModifiers?_end, Option.map_some]
  rfl

/-- One without a marker. -/
theorem takeDirective?_output :
    takeDirective? p ('\x7b' :: inside) =
      some (⟨p, .output, ⟨p.past ['\x7b', '\x7b'], content⟩, [],
        ['\x7b', '\x7b'] ++ content ++ ['\x7d', '\x7d']⟩, rest) := by
  have hmarker : Kind.ofMarker? '\x7b' = none := rfl
  simp only [takeDirective?, hmarker, hcontent, takeModifiers?_end, Option.map_some]
  rfl

end Plain

/-- What is read as a directive is a piece of its own. -/
theorem splitAt_directive {p : Position} {cs rest : List Char} {d : RawDirective}
    (h : takeDirective? p cs = some (d, rest)) :
    splitAt p ('\x7b' :: cs) = .directive d :: splitAt (p.past d.spelling) rest := by
  rw [splitAt, if_pos rfl]
  split
  · next hd =>
    cases h.symm.trans hd
    rfl
  · next hd => cases h.symm.trans hd

/-- A character that starts no directive is text. -/
theorem splitAt_text {c : Char} (hc : c ≠ '\x7b') (p : Position) (cs : List Char) :
    splitAt p (c :: cs) = consText p c (splitAt (p.advance c) cs) := by
  rw [splitAt, if_neg hc]

theorem split_of_takeDirective? {cs : List Char} {d : RawDirective}
    (h : takeDirective? .start cs = some (d, [])) : split ('\x7b' :: cs) = [.directive d] := by
  rw [split, splitAt_directive h, splitAt]

end Stencil.Segment
