import Mathlib.Data.List.Chain
import Stencil.Proofs.Segment.Brace
import Stencil.Proofs.Segment.Parsed
import Stencil.Proofs.Text.Place

/-!
# Stencil.Proofs.Segment.Split — what a text is split into

The pieces of a text tile it (`Tiles`), each stands where it says (`Span.IsWithin`), two texts
are no neighbours, every directive is one of the brace grammar, and no directive of the grammar
begins in a text. `isSplit_split` puts this together; `IsSplit` names the parts.
-/

namespace Stencil

open Text

namespace Segment

open Grammar

/-! ## Parts of a directive -/

/-- Name and arguments of a modifier stand within it. -/
theorem ModifierAt.isWithin {p : Position} {m : RawModifier} {spelling : List Char}
    (h : ModifierAt p m spelling) :
    m.name.IsWithin p spelling ∧ ∀ s ∈ m.args, s.IsWithin p spelling := by
  cases h with
  | @bare gap name _ _ =>
    exact ⟨⟨gap, [], (List.append_nil _).symm, rfl⟩, fun _ h => nomatch h⟩
  | @call gap name gap' args _ _ _ _ =>
    refine ⟨⟨gap, gap' ++ ['('] ++ args ++ [')'], ?_, rfl⟩, ?_⟩
    · simp only [List.append_assoc]
    · rintro s ⟨⟩
      exact ⟨gap ++ name ++ gap' ++ ['('], [')'], rfl, rfl⟩

theorem DirectiveAt.spelling_ne_nil {p : Position} {d : RawDirective} (h : DirectiveAt p d) :
    d.spelling ≠ [] := by
  cases h
  exact List.cons_ne_nil _ _

/-- Modifiers stand in front of the brace that closes the directive. -/
theorem ModifiersAt.exists_isWithin {p : Position} {ms : List RawModifier} {spelling : List Char}
    (h : ModifiersAt p ms spelling) :
    ∃ body, spelling = body ++ ['\x7d'] ∧
      ∀ m ∈ ms, m.name.IsWithin p body ∧ ∀ s ∈ m.args, s.IsWithin p body := by
  induction h with
  | @close p gap _ => exact ⟨gap, rfl, fun _ h => nomatch h⟩
  | @cons p gap spelling more m ms hgap hm hms ih =>
    obtain ⟨body, rfl, hbody⟩ := ih
    refine ⟨gap ++ '|' :: spelling ++ body, (List.append_assoc ..).symm, fun m' hm' => ?_⟩
    rcases List.mem_cons.1 hm' with rfl | hm'
    · -- the first modifier stands behind the gap and the bar
      rw [List.append_cons gap]
      exact ⟨hm.isWithin.1.of_append, fun s hs => (hm.isWithin.2 s hs).of_append⟩
    · rw [← List.append_nil body, ← List.append_assoc]
      exact ⟨(hbody m' hm').1.of_append, fun s hs => ((hbody m' hm').2 s hs).of_append⟩

/-- Content, names and arguments of a directive are parts of it, in front of its last brace. -/
structure RawDirective.HasParts (d : RawDirective) : Prop where
  content : d.content.IsWithin d.start d.spelling.dropLast
  name : ∀ m ∈ d.modifiers, m.name.IsWithin d.start d.spelling.dropLast
  args : ∀ m ∈ d.modifiers, ∀ s ∈ m.args, s.IsWithin d.start d.spelling.dropLast

/-- The parts of a directive stand within it, before its last brace. -/
theorem DirectiveAt.hasParts {p : Position} {d : RawDirective} (h : DirectiveAt p d) :
    d.start = p ∧ d.HasParts := by
  cases h with
  | @intro kind marker content more ms _ _ hms =>
    obtain ⟨body, rfl, hbody⟩ := hms.exists_isWithin
    have hlast : ('\x7b' :: marker ++ ['\x7b'] ++ content ++ '\x7d' :: (body ++ ['\x7d'])).dropLast =
        '\x7b' :: marker ++ ['\x7b'] ++ content ++ ['\x7d'] ++ body ++ [] := by
      rw [List.append_cons, ← List.append_assoc, List.dropLast_concat, List.append_nil]
    refine ⟨rfl, ⟨?_, ?_, ?_⟩⟩
    · rw [hlast, List.append_nil, List.append_assoc _ ['\x7d']]
      exact ⟨'\x7b' :: marker ++ ['\x7b'], ['\x7d'] ++ body, rfl, rfl⟩
    · intro m hm
      rw [hlast]
      exact (hbody m hm).1.of_append
    · intro m hm s hs
      rw [hlast]
      exact ((hbody m hm).2 s hs).of_append

/-! ## Pieces in their places -/

/-- A piece with its place. -/
def Piece.span : Piece → Span
  | text s => s
  | directive d => ⟨d.start, d.spelling⟩

/-- The offsets at which a piece starts and ends. -/
def Piece.range (x : Piece) : Nat × Nat :=
  (x.span.start.offset, x.span.start.offset + size x.spelling)

/-- Whether a piece is a run of text. -/
def Piece.IsText (x : Piece) : Prop := ∃ s, x = .text s

@[simp] theorem Piece.span_text (x : Piece) : x.span.text = x.spelling := by cases x <;> rfl

/-- The pieces stand one behind the other, the first at `p`. -/
def Placed : Position → List Piece → Prop
  | _, [] => True
  | p, x :: xs => x.span.start = p ∧ Placed (p.past x.spelling) xs

/-- A character in front leaves all pieces in their places. -/
theorem Placed.consText {p : Position} {c : Char} {pieces : List Piece}
    (h : Placed (p.advance c) pieces) : Placed p (consText p c pieces) := by
  cases pieces with
  | nil => exact ⟨rfl, trivial⟩
  | cons x pieces =>
    cases x with
    | text s => exact ⟨rfl, h.2⟩
    | directive d => exact ⟨rfl, h⟩

/-- The pieces of a split stand one behind the other. -/
theorem placed_splitAt (p : Position) (cs : List Char) : Placed p (splitAt p cs) := by
  fun_induction splitAt p cs with
  | case1 => trivial
  | case2 p cs d rest hd ih => exact ⟨(directiveAt_of_takeDirective? hd).hasParts.1, ih⟩
  | case3 p cs _ ih => exact ih.consText
  | case4 p c cs _ ih => exact ih.consText

/-- A piece is where those before it end. -/
theorem Placed.start_eq {p : Position} {before after : List Piece} {x : Piece}
    (h : Placed p (before ++ x :: after)) :
    x.span.start = p.past (before.flatMap Piece.spelling) := by
  induction before generalizing p with
  | nil => exact h.1
  | cons y before ih =>
    rw [List.flatMap_cons, Position.past_append]
    exact ih h.2

/-! ## Texts -/

/-- No text is empty, and none stands beside another. -/
structure TextsApart (pieces : List Piece) : Prop where
  ne_nil : ∀ s, .text s ∈ pieces → s.text ≠ []
  chain : pieces.IsChain fun x y => ¬ (x.IsText ∧ y.IsText)

/-- A character in front joins the first text, if there is one. -/
theorem TextsApart.consText {p : Position} {c : Char} {pieces : List Piece}
    (h : TextsApart pieces) : TextsApart (consText p c pieces) := by
  cases pieces with
  | nil =>
    refine ⟨fun s hs => ?_, List.isChain_singleton _⟩
    obtain rfl := List.mem_singleton.1 hs |> Piece.text.inj
    exact List.cons_ne_nil _ _
  | cons x pieces =>
    cases x with
    | text t =>
      refine ⟨fun s hs => ?_, ?_⟩
      · rcases List.mem_cons.1 hs with heq | hs
        · cases heq
          exact List.cons_ne_nil _ _
        · exact h.ne_nil s (List.mem_cons_of_mem _ hs)
      · -- the first text is longer now, and is still a text
        cases pieces with
        | nil => exact List.isChain_singleton _
        | cons y pieces =>
          obtain ⟨hxy, hchain⟩ := List.isChain_cons_cons.1 h.chain
          exact List.isChain_cons_cons.2 ⟨fun hboth => hxy ⟨⟨t, rfl⟩, hboth.2⟩, hchain⟩
    | directive d =>
      refine ⟨fun s hs => ?_, List.isChain_cons_cons.2 ⟨?_, h.chain⟩⟩
      · rcases List.mem_cons.1 hs with heq | hs
        · cases heq
          exact List.cons_ne_nil _ _
        · exact h.ne_nil s hs
      · rintro ⟨-, s, hs⟩
        cases hs

/-- No two texts of a split are next to each other. -/
theorem textsApart_splitAt (p : Position) (cs : List Char) : TextsApart (splitAt p cs) := by
  fun_induction splitAt p cs with
  | case1 =>
    refine ⟨fun s hs => ?_, List.isChain_nil⟩
    cases hs
  | case2 p cs d rest hd ih =>
    refine ⟨fun s hs => ?_, List.isChain_cons.2 ⟨?_, ih.chain⟩⟩
    · rcases List.mem_cons.1 hs with heq | hs
      · cases heq
      · exact ih.ne_nil s hs
    · rintro x - ⟨⟨s, hs⟩, -⟩
      cases hs
  | case3 p cs _ ih => exact ih.consText
  | case4 p c cs _ ih => exact ih.consText

/-- No directive begins in a text. -/
def NoneInTexts : List Piece → Prop
  | [] => True
  | .directive _ :: xs => NoneInTexts xs
  | .text s :: xs =>
    (∀ u v, s.text = u ++ '\x7b' :: v →
      ¬ BeginsDirective (Utf8.encode ('\x7b' :: v ++ xs.flatMap Piece.spelling))) ∧
    NoneInTexts xs

/-- A character in front begins a directive only if it is a brace. -/
theorem NoneInTexts.consText {p : Position} {c : Char} {pieces : List Piece}
    (h : NoneInTexts pieces)
    (hc : c = '\x7b' →
      ¬ BeginsDirective (Utf8.encode ('\x7b' :: pieces.flatMap Piece.spelling))) :
    NoneInTexts (consText p c pieces) := by
  -- a brace of the first text is the character in front or one that was there before
  have hfront : ∀ text rest, (∀ u v, text = u ++ '\x7b' :: v →
        ¬ BeginsDirective (Utf8.encode ('\x7b' :: v ++ rest))) →
      (c = '\x7b' → ¬ BeginsDirective (Utf8.encode ('\x7b' :: (text ++ rest)))) →
      ∀ u v, c :: text = u ++ '\x7b' :: v →
        ¬ BeginsDirective (Utf8.encode ('\x7b' :: v ++ rest)) := by
    intro text rest htext hfirst u v heq
    cases u with
    | nil =>
      obtain ⟨rfl, rfl⟩ := List.cons.inj heq
      exact hfirst rfl
    | cons d u => exact htext u v (List.cons.inj heq).2
  have hnil : ∀ u v, ([] : List Char) = u ++ '\x7b' :: v → ∀ rest,
      ¬ BeginsDirective (Utf8.encode ('\x7b' :: v ++ rest)) := by
    intro u v heq
    cases u <;> cases heq
  cases pieces with
  | nil => exact ⟨hfront [] [] (fun u v heq => hnil u v heq []) hc, trivial⟩
  | cons x pieces =>
    cases x with
    | text s => exact ⟨hfront s.text _ h.1 hc, h.2⟩
    | directive d => exact ⟨hfront [] _ (fun u v heq => hnil u v heq _) hc, h⟩

/-- Where no directive is read, none begins by the grammar. -/
theorem not_beginsDirective_of_takeDirective? {p : Position} {cs : List Char}
    (h : takeDirective? p cs = none) : ¬ BeginsDirective (Utf8.encode ('\x7b' :: cs)) := by
  rintro ⟨kind, content, ms, bs, rest, hd, heq⟩
  have := takeDirective?_of_isDirective hd heq p
  rw [h] at this
  cases this

/-- No directive begins in a text of a split. -/
theorem noneInTexts_splitAt (p : Position) (cs : List Char) : NoneInTexts (splitAt p cs) := by
  fun_induction splitAt p cs with
  | case1 => trivial
  | case2 p cs d rest hd ih => exact ih
  | case3 p cs hnone ih =>
    refine ih.consText fun _ => ?_
    rw [splitAt_spelling]
    exact not_beginsDirective_of_takeDirective? hnone
  | case4 p c cs hc ih => exact ih.consText fun h => absurd h hc

/-- None begins in the pieces further behind. -/
theorem NoneInTexts.of_append {before after : List Piece} {s : Span}
    (h : NoneInTexts (before ++ .text s :: after)) : NoneInTexts (.text s :: after) := by
  induction before with
  | nil => exact h
  | cons x before ih =>
    cases x with
    | text t => exact ih h.2
    | directive d => exact ih h

/-! ## The pieces of a text -/

/-- Ranges that lead from one offset to another, each from where the one before ends. -/
inductive Tiles : Nat → Nat → List (Nat × Nat) → Prop where
  | nil (n : Nat) : Tiles n n []
  | cons {i j k : Nat} {ranges : List (Nat × Nat)} : i < j → Tiles j k ranges →
      Tiles i k ((i, j) :: ranges)

theorem size_pos {cs : List Char} (h : cs ≠ []) : 0 < size cs := by
  cases cs with
  | nil => exact absurd rfl h
  | cons c cs => exact Nat.lt_of_lt_of_le c.utf8Size_pos (Nat.le_add_right _ _)

/-- Pieces that stand one behind the other leave no gap. -/
theorem Placed.tiles {p : Position} {pieces : List Piece} (h : Placed p pieces)
    (hne : ∀ x ∈ pieces, x.spelling ≠ []) :
    Tiles p.offset (p.offset + size (pieces.flatMap Piece.spelling))
      (pieces.map Piece.range) := by
  induction pieces generalizing p with
  | nil => exact .nil _
  | cons x pieces ih =>
    have hx := size_pos (hne x List.mem_cons_self)
    have hrest := ih h.2 fun y hy => hne y (List.mem_cons_of_mem _ hy)
    have hrange : x.range = (p.offset, p.offset + size x.spelling) := by
      rw [Piece.range, h.1]
    rw [List.map_cons, hrange, List.flatMap_cons, size_append, ← Nat.add_assoc]
    rw [Position.past_offset] at hrest
    exact .cons (Nat.lt_add_of_pos_right hx) hrest

/-- What is known of the pieces that a text is split into. -/
structure IsSplit (source : List Char) (pieces : List Piece) : Prop where
  /-- Nothing is lost or doubled. -/
  spelling : pieces.flatMap Piece.spelling = source
  tiles : Tiles 0 (size source) (pieces.map Piece.range)
  /-- Every range starts and ends between characters, and its characters are the piece's. -/
  isWithin : ∀ x ∈ pieces, x.span.IsWithin .start source
  text_ne_nil : ∀ s, .text s ∈ pieces → s.text ≠ []
  texts_apart : pieces.IsChain fun x y => ¬ (x.IsText ∧ y.IsText)
  /-- So do the ranges inside of directives. -/
  hasParts : ∀ d, .directive d ∈ pieces → d.HasParts
  isDirective : ∀ d, .directive d ∈ pieces →
    IsDirective d.kind (Utf8.encode d.content.text) (d.modifiers.map RawModifier.bytes)
      (Utf8.encode d.spelling)
  /-- No brace of a text could have started a directive. -/
  maximal : ∀ before s after u v, pieces = before ++ .text s :: after →
    s.text = u ++ '\x7b' :: v →
    ¬ BeginsDirective (Utf8.encode ('\x7b' :: v ++ after.flatMap Piece.spelling))

/-- A directive among the pieces is what is read somewhere in the text. -/
theorem directiveAt_of_mem_splitAt {p : Position} {cs : List Char} {d : RawDirective}
    (h : .directive d ∈ splitAt p cs) : ∃ q, DirectiveAt q d := by
  fun_induction splitAt p cs with
  | case1 => cases h
  | case2 p cs d' rest hd ih =>
    rcases List.mem_cons.1 h with heq | h
    · cases heq
      exact ⟨p, directiveAt_of_takeDirective? hd⟩
    · exact ih h
  | case3 p cs _ ih => exact ih (mem_of_mem_consText h)
  | case4 p c cs _ ih => exact ih (mem_of_mem_consText h)

/-- Content, names and arguments of the directives of a text are parts of them. -/
theorem hasParts_of_mem_split {source : List Char} {d : RawDirective}
    (h : .directive d ∈ split source) : d.spelling ≠ [] ∧ d.HasParts := by
  obtain ⟨q, hd⟩ := directiveAt_of_mem_splitAt h
  exact ⟨hd.spelling_ne_nil, hd.hasParts.2⟩

/-- The pieces of a text stand one behind the other, from its beginning. -/
theorem placed_split (source : List Char) : Placed .start (split source) :=
  placed_splitAt .start source

/-- No two texts among them are next to each other. -/
theorem textsApart_split (source : List Char) : TextsApart (split source) :=
  textsApart_splitAt .start source

theorem spelling_ne_nil_of_mem_split {source : List Char} {x : Piece} (h : x ∈ split source) :
    x.spelling ≠ [] := by
  cases x with
  | text s => exact (textsApart_split source).ne_nil s h
  | directive d => exact (hasParts_of_mem_split h).1

/-- A piece stands in the text where those before it end. -/
theorem isWithin_of_mem_split {source : List Char} {x : Piece} (h : x ∈ split source) :
    x.span.IsWithin .start source := by
  obtain ⟨before, after, heq⟩ := List.append_of_mem h
  have hspelling := split_spelling source
  have hplaced := placed_split source
  rw [heq] at hspelling hplaced
  refine ⟨before.flatMap Piece.spelling, after.flatMap Piece.spelling, ?_, hplaced.start_eq⟩
  rw [List.flatMap_append, List.flatMap_cons] at hspelling
  rw [Piece.span_text, List.append_assoc]
  exact hspelling.symm

/-- **Splitting a text loses nothing and finds every directive.** -/
theorem isSplit_split (source : List Char) : IsSplit source (split source) := by
  have htiles := (placed_split source).tiles fun _ => spelling_ne_nil_of_mem_split
  have hzero : Position.start.offset = 0 := rfl
  rw [split_spelling, hzero, Nat.zero_add] at htiles
  have hapart := textsApart_split source
  refine ⟨split_spelling source, htiles, fun _ => isWithin_of_mem_split, hapart.ne_nil,
    hapart.chain, fun d hd => (hasParts_of_mem_split hd).2, ?_, ?_⟩
  · intro d hd
    obtain ⟨q, hd⟩ := directiveAt_of_mem_splitAt hd
    exact hd.isDirective
  · intro before s after u v heq
    have hnone : NoneInTexts (before ++ .text s :: after) :=
      heq ▸ noneInTexts_splitAt .start source
    exact hnone.of_append.1 u v

end Segment

end Stencil
