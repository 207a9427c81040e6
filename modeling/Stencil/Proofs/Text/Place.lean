import Mathlib.Data.List.Induction
import Stencil.Text.Position

/-!
# Stencil.Proofs.Text.Place — places and pieces of a text

What a position says of a text (`Position.IsPlaceIn`): so many bytes stand before it, and its
line and column are those a reader would count. Every position that is reached from the start of
a text is one (`Position.isPlaceIn_past`). `Span.IsWithin` says that a span is a piece of a text,
cut between characters, and starts where it says.
-/

namespace Stencil

open Text

namespace Position

/-- The line is counted by line feeds. -/
theorem line_past (p : Position) (cs : List Char) :
    (p.past cs).line = p.line + cs.count '\n' := by
  induction cs generalizing p with
  | nil => rfl
  | cons c cs ih =>
    rw [past_cons, ih]
    by_cases hc : c = '\n'
    · rw [advance, if_pos hc, hc, List.count_cons_self]
      exact Nat.add_right_comm p.line 1 _
    · rw [advance, if_neg hc, List.count_cons_of_ne hc]

/-- The column is counted in characters behind the last line feed. -/
theorem column_start_past (cs : List Char) :
    (start.past cs).column = 1 + (cs.reverse.takeWhile (· ≠ '\n')).length := by
  induction cs using List.reverseRecOn with
  | nil => rfl
  | append_singleton cs c ih =>
    rw [past_append, past_cons, past_nil, List.reverse_append, List.reverse_singleton,
      List.singleton_append]
    by_cases hc : c = '\n'
    · rw [advance, if_pos hc, List.takeWhile_cons_of_neg (by simpa using hc)]
      rfl
    · rw [advance, if_neg hc, List.takeWhile_cons_of_pos (by simpa using hc), List.length_cons, ih]
      rfl

/-- The position is that of a place in the text: of a boundary between two characters, or of an
end. -/
def IsPlaceIn (p : Position) (source : List Char) : Prop :=
  ∃ before after, source = before ++ after ∧ p.offset = size before ∧
    p.line = 1 + before.count '\n' ∧
    p.column = 1 + (before.reverse.takeWhile (· ≠ '\n')).length

/-- The end of what has been read is a place in the text. -/
theorem isPlaceIn_past {before after source : List Char} (h : source = before ++ after) :
    (start.past before).IsPlaceIn source := by
  refine ⟨before, after, h, ?_, line_past start before, column_start_past before⟩
  rw [past_offset]
  exact Nat.zero_add _

/-- A place in a text is reached from its start. -/
theorem IsPlaceIn.exists_past {p : Position} {source : List Char} (h : p.IsPlaceIn source) :
    ∃ before after, source = before ++ after ∧ p = start.past before := by
  obtain ⟨before, after, hsource, hoffset, hline, hcolumn⟩ := h
  refine ⟨before, after, hsource, ?_⟩
  have hoffset' := (past_offset start before).trans (Nat.zero_add _)
  have hline' := line_past start before
  have hcolumn' := column_start_past before
  rcases p with ⟨offset, line, column⟩
  rcases hpast : start.past before with ⟨offset', line', column'⟩
  rw [hpast] at hoffset' hline' hcolumn'
  simp only at hoffset hline hcolumn hoffset' hline' hcolumn'
  rw [hoffset, hoffset', hline, hline', hcolumn, hcolumn']
  rfl

end Position

/-- The span is a piece of the text that starts at `p`, and its place is the true one. -/
def Span.IsWithin (s : Span) (p : Position) (cs : List Char) : Prop :=
  ∃ u v, cs = u ++ s.text ++ v ∧ s.start = p.past u

namespace Span.IsWithin

variable {s : Span} {p : Position} {cs : List Char}

/-- A piece of a part is a piece of the whole. -/
theorem trans {t : Span} (h : s.IsWithin t.start t.text) (ht : t.IsWithin p cs) :
    s.IsWithin p cs := by
  obtain ⟨u, v, htext, hstart⟩ := h
  obtain ⟨u', v', rfl, hstart'⟩ := ht
  refine ⟨u' ++ u, v ++ v', ?_, ?_⟩
  · rw [htext]
    simp only [List.append_assoc]
  · rw [hstart, hstart', Position.past_append]

/-- What lies within a part of a text lies within the text. -/
theorem of_append {u v : List Char} (h : s.IsWithin (p.past u) cs) :
    s.IsWithin p (u ++ cs ++ v) :=
  h.trans (t := ⟨p.past u, cs⟩) ⟨u, v, rfl, rfl⟩

/-- A place in a piece is one in the whole. -/
theorem isPlaceIn {before after : List Char} (h : s.IsWithin .start cs)
    (htext : s.text = before ++ after) : (s.start.past before).IsPlaceIn cs := by
  obtain ⟨u, v, rfl, hstart⟩ := h
  rw [hstart, ← Position.past_append]
  have hsplit : u ++ s.text ++ v = u ++ before ++ (after ++ v) := by
    rw [htext]
    simp only [List.append_assoc]
  exact Position.isPlaceIn_past hsplit

end Span.IsWithin

end Stencil
