import Stencil.Modifier.Builtin
import Stencil.Proofs.Modifier.Library

/-!
# Stencil.Proofs.Modifier.Truncate — texts cut to a width

A text that is too wide is cut behind the longest start whose characters, each counted alone, leave
room for the ellipsis. Where the widths of characters add up to that of their text, the result keeps
to the width (`Modifier.cut_keeps_to_width`). Elsewhere it may not: a control character counts as
nothing when the start is chosen, and as a column when a text is measured
(`Modifier.cut_exceeds_width`).
-/

namespace Stencil.Modifier

variable (L : Library)

/-- The longest start of a text whose characters alone take at most so many columns. -/
structure IsLongestStart (room : Nat) (cs start : List Char) : Prop where
  isPrefix : start <+: cs
  fits : L.ownColumns start ≤ room
  longest : ∀ other, other <+: cs → L.ownColumns other ≤ room → other <+: start

/-- Taking characters as long as there is room for the next one takes the longest start. -/
theorem isLongestStart_takeColumns (room : Nat) (cs : List Char) :
    IsLongestStart L room cs (takeColumns L room cs) := by
  induction cs generalizing room with
  | nil => exact ⟨List.prefix_rfl, Nat.zero_le room, fun _ h _ => h⟩
  | cons c cs ih =>
    have hwidth : (L.charWidth? c).getD 0 = L.ownWidth c := rfl
    unfold takeColumns
    dsimp only
    rw [hwidth]
    split
    · next hfits =>
      obtain ⟨hstart, hle, hlongest⟩ := ih (room - L.ownWidth c)
      refine ⟨(List.prefix_cons_inj c).2 hstart, ?_, fun other hother hroom => ?_⟩
      · rw [Library.ownColumns_cons]
        omega
      · cases other with
        | nil => exact List.nil_prefix
        | cons d other =>
          obtain ⟨rfl, hbehind⟩ := List.cons_prefix_cons.1 hother
          rw [Library.ownColumns_cons] at hroom
          exact (List.prefix_cons_inj d).2 (hlongest other hbehind (by omega))
    · next hwide =>
      refine ⟨List.nil_prefix, Nat.zero_le room, fun other hother hroom => ?_⟩
      cases other with
      | nil => exact List.nil_prefix
      | cons d other =>
        -- the first character alone takes more than there is room for
        obtain ⟨rfl, -⟩ := List.cons_prefix_cons.1 hother
        rw [Library.ownColumns_cons] at hroom
        omega

variable {L} {steady flagLetter : Char → Prop} {width : Nat} {ellipsis cs : List Char}

/-- A text that is cut ends with the ellipsis, or with what there is room for of it. -/
theorem cut_of_lt (h : width < L.columns cs) :
    cut L width ellipsis cs =
      if width ≤ L.columns ellipsis then takeColumns L width ellipsis
      else takeColumns L (width - L.columns ellipsis) cs ++ ellipsis := by
  unfold cut
  dsimp only
  rw [if_neg (Nat.not_le.2 h)]

/-- A start that leaves room for something is not all of a text that is too wide. -/
theorem IsLongestStart.ne_of_lt {room : Nat} {start : List Char}
    (h : IsLongestStart L room cs start) (hL : L.AddsUp steady flagLetter)
    (hcs : ∀ c ∈ cs, steady c) (hroom : room < L.columns cs) : start ≠ cs := by
  rintro rfl
  exact Nat.lt_irrefl _ (Nat.lt_of_lt_of_le hroom (Nat.le_trans (hL.columns_le hcs) h.fits))

/-- What is left of a text is the text itself if it is not too wide, else the longest start of the
ellipsis or the longest start of the text with the ellipsis behind it, where each character is
counted alone. When all characters are steady and the ellipsis does not begin with a letter of a
flag, it takes at most the given width, and of a text that is cut something is missing. -/
theorem cut_keeps_to_width (L : Library) (steady flagLetter : Char → Prop)
    (hL : L.AddsUp steady flagLetter) (width : Nat) (ellipsis cs : List Char) :
    (L.columns cs ≤ width → cut L width ellipsis cs = cs) ∧
    (width < L.columns cs → width ≤ L.columns ellipsis →
      IsLongestStart L width ellipsis (cut L width ellipsis cs)) ∧
    (width < L.columns cs → L.columns ellipsis < width →
      ∃ start, cut L width ellipsis cs = start ++ ellipsis ∧
        IsLongestStart L (width - L.columns ellipsis) cs start ∧
        ((∀ c ∈ cs, steady c) → start ≠ cs)) ∧
    ((∀ c ∈ cs, steady c) → (∀ c ∈ ellipsis, steady c) →
      (∀ c ∈ ellipsis.head?, ¬ flagLetter c) → L.columns (cut L width ellipsis cs) ≤ width) := by
  refine ⟨fun h => if_pos h, fun h hmark => ?_, fun h hmark => ?_, fun hcs hellipsis hhead => ?_⟩
  · rw [cut_of_lt h, if_pos hmark]
    exact isLongestStart_takeColumns L width ellipsis
  · have hstart := isLongestStart_takeColumns L (width - L.columns ellipsis) cs
    rw [cut_of_lt h, if_neg (Nat.not_le.2 hmark)]
    exact ⟨_, rfl, hstart, fun hcs => hstart.ne_of_lt hL hcs (by omega)⟩
  · by_cases h : width < L.columns cs
    · rw [cut_of_lt h]
      split
      · have hstart := isLongestStart_takeColumns L width ellipsis
        exact Nat.le_trans (hL.columns_le fun c hc => hellipsis c (hstart.isPrefix.subset hc))
          hstart.fits
      · next hmark =>
        have hstart := isLongestStart_takeColumns L (width - L.columns ellipsis) cs
        -- the mark does not join the text before it, so their columns add up
        have hle := hL.columns_append_le _ ellipsis
          (fun c hc => hcs c (hstart.isPrefix.subset hc)) hellipsis hhead
        have hfits := hstart.fits
        omega
    · rw [show cut L width ellipsis cs = cs from if_pos (Nat.not_lt.1 h)]
      exact Nat.not_lt.1 h

/-- Three wide characters, of which two columns are left beside the ellipsis. -/
theorem cut_keeps_to_width_wide :
    let L := Library.standard
    L.AddsUp Text.IsSteady Text.IsFlagLetter ∧
      4 < L.columns ['日', '本', '語'] ∧ L.columns ['…'] < 4 ∧
      (∀ c ∈ ['日', '本', '語'], Text.IsSteady c) ∧ (∀ c ∈ ['…'], Text.IsSteady c) ∧
      (∀ c ∈ ['…'].head?, ¬ Text.IsFlagLetter c) ∧
      L.columns (cut L 4 ['…'] ['日', '本', '語']) ≤ 4 ∧
      ∃ start, cut L 4 ['…'] ['日', '本', '語'] = start ++ ['…'] ∧
        IsLongestStart L (4 - L.columns ['…']) ['日', '本', '語'] start ∧
        start ≠ ['日', '本', '語'] := by
  have hwide : 4 < Library.standard.columns ['日', '本', '語'] := by decide +kernel
  have hmark : Library.standard.columns ['…'] < 4 := by decide +kernel
  have hcs : ∀ c ∈ ['日', '本', '語'], Text.IsSteady c :=
    List.forall_mem_cons.2 ⟨by decide +kernel, List.forall_mem_cons.2
      ⟨by decide +kernel, List.forall_mem_singleton.2 (by decide +kernel)⟩⟩
  have hellipsis : ∀ c ∈ ['…'], Text.IsSteady c := List.forall_mem_singleton.2 (by decide +kernel)
  have hhead : ∀ c ∈ ['…'].head?, ¬ Text.IsFlagLetter c := by
    rintro _ ⟨⟩
    decide
  obtain ⟨-, -, hcut, hfits⟩ := cut_keeps_to_width .standard Text.IsSteady Text.IsFlagLetter
    Library.standard_addsUp 4 ['…'] ['日', '本', '語']
  obtain ⟨start, heq, hstart, hne⟩ := hcut hwide hmark
  exact ⟨Library.standard_addsUp, hwide, hmark, hcs, hellipsis, hhead, hfits hcs hellipsis hhead,
    start, heq, hstart, hne hcs⟩

/-- Over any library, a control character that has no width of its own, but takes a column in a text,
is kept where there is room for none; and an emoji that a selector makes wide is kept in one column.
The standard library has such widths. -/
theorem cut_exceeds_width :
    (∀ L : Library, L.charWidth? '\n' = none → 0 < L.columns ['\n'] → 0 < L.columns ['a'] →
      cut L 0 ['\n'] ['a'] = ['\n'] ∧ 0 < L.columns (cut L 0 ['\n'] ['a'])) ∧
    (∀ L : Library, L.charWidth? '☺' = some 1 → L.charWidth? '\uFE0F' = some 0 →
      L.columns [] = 0 → 1 < L.columns ['☺', '\uFE0F'] →
        cut L 1 [] ['☺', '\uFE0F'] = ['☺', '\uFE0F'] ∧
          1 < L.columns (cut L 1 [] ['☺', '\uFE0F'])) ∧
    let L := Library.standard
    (cut L 0 ['\n'] ['a'] = ['\n'] ∧ 0 < L.columns (cut L 0 ['\n'] ['a'])) ∧
      cut L 1 [] ['☺', '\uFE0F'] = ['☺', '\uFE0F'] ∧
      1 < L.columns (cut L 1 [] ['☺', '\uFE0F']) := by
  refine ⟨fun L hown hfeed ha => ?_, fun L hface hselector hnone hwide => ?_, ?_⟩
  · have hcut : cut L 0 ['\n'] ['a'] = ['\n'] := by
      rw [cut_of_lt ha, if_pos (Nat.zero_le _)]
      unfold takeColumns
      rw [hown]
      rfl
    exact ⟨hcut, hcut.symm ▸ hfeed⟩
  · have hcut : cut L 1 [] ['☺', '\uFE0F'] = ['☺', '\uFE0F'] := by
      rw [cut_of_lt hwide, hnone, if_neg (by decide), List.append_nil]
      unfold takeColumns
      rw [hface]
      unfold takeColumns
      rw [hselector]
      rfl
    exact ⟨hcut, hcut.symm ▸ hwide⟩
  · decide +kernel

end Stencil.Modifier
