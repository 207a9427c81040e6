import Mathlib.Data.List.TakeWhile
import Stencil.Proofs.Text.Place
import Stencil.Text.Lines

/-!
# Stencil.Proofs.Text.Lines — what the index of the lines tells

At every boundary between two characters the index of the lines has the start of a line at or before
it, what stands between the two is a slice of whole characters, and the position that the index
tells is the one that is reached by going through the text from its start (`Position.find?_size`).
-/

namespace Stencil

namespace Text

/-! ## Slices -/

/-- Dropping as many bytes as a text has leaves what follows it. -/
theorem drop?_append (u v : List Char) : drop? (u ++ v) (size u) = some v := by
  induction u with
  | nil => cases v <;> rfl
  | cons c u ih =>
    have hpos := c.utf8Size_pos
    obtain ⟨n, hn⟩ : ∃ n, size (c :: u) = n + 1 :=
      ⟨size (c :: u) - 1, by rw [size_cons]; omega⟩
    have hrest : n + 1 - c.utf8Size = size u := by
      rw [← hn, size_cons]
      omega
    rw [List.cons_append, hn, drop?, hrest, if_pos, ih]
    rw [← hn, size_cons]
    omega

/-- Taking as many gives the text. -/
theorem take?_append (u v : List Char) : take? (u ++ v) (size u) = some u := by
  induction u with
  | nil => cases v <;> rfl
  | cons c u ih =>
    have hpos := c.utf8Size_pos
    obtain ⟨n, hn⟩ : ∃ n, size (c :: u) = n + 1 :=
      ⟨size (c :: u) - 1, by rw [size_cons]; omega⟩
    have hrest : n + 1 - c.utf8Size = size u := by
      rw [← hn, size_cons]
      omega
    rw [List.cons_append, hn, take?, hrest, if_pos, ih]
    · rfl
    · rw [← hn, size_cons]
      omega

/-- Between two boundaries the slice is what stands there. -/
theorem slice?_append (u w v : List Char) :
    slice? (u ++ w ++ v) (size u) (size (u ++ w)) = some w := by
  have hstop : size (u ++ w) - size u = size w := by
    rw [size_append]
    omega
  have hle : size u ≤ size (u ++ w) := by
    rw [size_append]
    omega
  rw [slice?, if_pos hle, List.append_assoc, drop?_append, Option.bind_some, hstop, take?_append]

/-! ## Lines -/

/-- The lines of a text that is put together start where those of its parts do. -/
theorem lineStarts_append (offset : Nat) (u v : List Char) :
    lineStarts offset (u ++ v) = lineStarts offset u ++ lineStarts (offset + size u) v := by
  induction u generalizing offset with
  | nil => rfl
  | cons c u ih =>
    rw [List.cons_append, lineStarts, lineStarts, size_cons, ← Nat.add_assoc]
    by_cases hc : c = '\n'
    · subst hc
      rw [if_pos rfl, if_pos rfl, ih]
      rfl
    · rw [if_neg hc, if_neg hc, ih]

/-- A line starts behind each line feed. -/
theorem length_lineStarts (offset : Nat) (cs : List Char) :
    (lineStarts offset cs).length = cs.count '\n' := by
  induction cs generalizing offset with
  | nil => rfl
  | cons c cs ih =>
    rw [lineStarts]
    by_cases hc : c = '\n'
    · rw [if_pos hc, List.length_cons, ih, hc, List.count_cons_self]
    · rw [if_neg hc, ih, List.count_cons_of_ne hc]

/-- Lines start inside the text, behind its start. -/
theorem lt_of_mem_lineStarts {offset : Nat} {cs : List Char} {x : Nat}
    (h : x ∈ lineStarts offset cs) : offset < x ∧ x ≤ offset + size cs := by
  induction cs generalizing offset with
  | nil => cases h
  | cons c cs ih =>
    have hpos := c.utf8Size_pos
    rw [lineStarts] at h
    rw [size_cons]
    by_cases hc : c = '\n'
    · rw [if_pos hc] at h
      rcases List.mem_cons.1 h with rfl | h
      · omega
      · have hbounds := ih h
        omega
    · rw [if_neg hc] at h
      have hbounds := ih h
      omega

/-- Up to a place in the text, its last line is what stands behind the last line feed. -/
theorem exists_last_line (before : List Char) :
    ∃ u w, before = u ++ w ∧ (0 :: lineStarts 0 before).getLast? = some (size u) ∧
      w.length = (before.reverse.takeWhile (· ≠ '\n')).length := by
  induction before using List.reverseRecOn with
  | nil => exact ⟨[], [], rfl, rfl, rfl⟩
  | append_singleton before c ih =>
    obtain ⟨u, w, hbefore, hlast, hlength⟩ := ih
    have hstarts : 0 :: lineStarts 0 (before ++ [c]) =
        (0 :: lineStarts 0 before) ++ lineStarts (size before) [c] := by
      rw [lineStarts_append, Nat.zero_add, List.cons_append]
    rw [hstarts, List.getLast?_append, List.reverse_append, List.reverse_singleton,
      List.singleton_append]
    by_cases hc : c = '\n'
    · -- a line starts here, and has nothing in it yet
      subst hc
      refine ⟨before ++ ['\n'], [], (List.append_nil _).symm, ?_, ?_⟩
      · rw [size_append]
        rfl
      · rw [List.takeWhile_cons_of_neg (by simp)]
    · refine ⟨u, w ++ [c], ?_, ?_, ?_⟩
      · rw [hbefore, List.append_assoc]
      · rw [hlast, lineStarts, if_neg hc]
        rfl
      · rw [List.takeWhile_cons_of_pos (by simpa using hc), List.length_append, hlength,
          List.length_cons]
        rfl

end Text

open Text

namespace Position

/-- At every boundary between two characters the index leads to the position that is reached from
the start of the text. -/
theorem find?_size (before after : List Char) :
    find? (before ++ after) (size before) = some (start.past before) := by
  obtain ⟨u, w, hbefore, hlast, hlength⟩ := exists_last_line before
  have hstarts : 0 :: lineStarts 0 (before ++ after) =
      (0 :: lineStarts 0 before) ++ lineStarts (size before) after := by
    rw [lineStarts_append, Nat.zero_add, List.cons_append]
  have htake : ((0 :: lineStarts 0 before) ++ lineStarts (size before) after).takeWhile
      (· ≤ size before) = 0 :: lineStarts 0 before := by
    rw [List.takeWhile_append_of_pos]
    · -- the other lines start behind the place
      have hnone : (lineStarts (size before) after).takeWhile (· ≤ size before) = [] := by
        cases hlater : lineStarts (size before) after with
        | nil => rfl
        | cons x later =>
          have hbounds := lt_of_mem_lineStarts (hlater ▸ List.mem_cons_self)
          exact List.takeWhile_cons_of_neg (by simpa using hbounds.1)
      rw [hnone, List.append_nil]
    · intro x hx
      refine decide_eq_true ?_
      rcases List.mem_cons.1 hx with rfl | hx
      · exact Nat.zero_le _
      · have hbounds := lt_of_mem_lineStarts hx
        omega
  have hindex : ((0 :: lineStarts 0 before) ++ lineStarts (size before) after)[
      (0 :: lineStarts 0 before).length - 1]? = some (size u) := by
    have hlt : (0 :: lineStarts 0 before).length - 1 < (0 :: lineStarts 0 before).length := by
      rw [List.length_cons]
      omega
    rw [List.getElem?_append_left hlt, ← List.getLast?_eq_getElem?, hlast]
  have hslice : slice? (before ++ after) (size u) (size before) = some w := by
    rw [hbefore]
    exact slice?_append u w after
  have hposition : start.past before =
      ⟨size before, (0 :: lineStarts 0 before).length, w.length + 1⟩ := by
    have hoffset := (past_offset start before).trans (Nat.zero_add _)
    have hline := line_past start before
    have hcolumn := column_start_past before
    rcases hpast : start.past before with ⟨offset, line, column⟩
    rw [hpast] at hoffset hline hcolumn
    simp only at hoffset hline hcolumn
    rw [hoffset, hline, hcolumn, List.length_cons, length_lineStarts, hlength, Nat.add_comm _ 1,
      Nat.add_comm _ 1]
    rfl
  unfold find? LineIndex.position LineIndex.ofText
  dsimp only
  rw [hstarts, htake, hindex, hposition, if_neg (List.length_cons.trans_ne (Nat.succ_ne_zero _)),
    Option.bind_eq_bind, Option.bind_some, hslice]
  rfl

/-- A character of two bytes is one column. -/
example : find? ['a', 'b', '\n', 'c', 'd', 'é', '\n', 'f'] 7 = some ⟨7, 2, 4⟩ := by decide

/-- So the index tells every place in a text. -/
theorem IsPlaceIn.find? {p : Position} {source : List Char} (h : p.IsPlaceIn source) :
    Position.find? source p.offset = some p := by
  obtain ⟨before, after, rfl, rfl⟩ := h.exists_past
  have hoffset : (start.past before).offset = size before :=
    (past_offset start before).trans (Nat.zero_add _)
  rw [hoffset]
  exact find?_size before after

end Position

end Stencil
