import Mathlib.Computability.RegularExpressions
import Stencil.Frame.Path

/-!
# Stencil.Proofs.Frame.Pattern — the regular expression of paths

The path at the front of a text is read character by character, by `Expr.Name.takePath?`. As a
regular expression its grammar is `(~|\.+)?ident(\.ident)*`, where an identifier is
`[A-Za-z_][A-Za-z0-9_]*`: this is `Path.pattern`. What is read matches the pattern
(`takePath?_mem`), and what matches is read as a whole (`takePath?_of_mem`), so `Path.isValid`
decides the pattern (`Path.isValid_iff_matches`).
-/

namespace Stencil

namespace Path

open RegularExpression

/-! ## The pattern -/

/-- The ASCII characters from `first` to `last`. -/
def charRange (first last : Char) : List Char :=
  ((List.range 128).map Char.ofNat).filter fun c => first ≤ c ∧ c ≤ last

/-- Any one of these characters. -/
def oneOf : List Char → RegularExpression Char
  | [] => 0
  | c :: cs => char c + oneOf cs

/-- What an identifier may start with. -/
def headChars : List Char := '_' :: (charRange 'A' 'Z' ++ charRange 'a' 'z')

/-- What an identifier may go on with. -/
def bodyChars : List Char := headChars ++ charRange '0' '9'

/-- An identifier. -/
def identifier : RegularExpression Char := oneOf headChars * star (oneOf bodyChars)

/-- Identifiers joined by single dots. -/
def dotted : RegularExpression Char := identifier * star (char '.' * identifier)

/-- What a path may have in front of its name: nothing, `~` or dots. -/
def anchored : RegularExpression Char := 1 + (char '~' + char '.' * star (char '.'))

/-- A dotted name behind nothing, behind `~` or behind dots. -/
def pattern : RegularExpression Char := anchored * dotted

/-! ## Classes of characters -/

/-- The range of two ASCII characters. -/
theorem mem_charRange (first last : Char) (h : last.toNat < 128) (c : Char) :
    c ∈ charRange first last ↔ first ≤ c ∧ c ≤ last := by
  unfold charRange
  rw [List.mem_filter, decide_eq_true_eq, and_iff_right_iff_imp]
  intro hc
  have hle : c.toNat ≤ last.toNat := hc.2
  have hlt : c.toNat < 128 := by omega
  exact List.mem_map.2 ⟨c.toNat, List.mem_range.2 hlt, Char.ofNat_toNat c⟩

/-- One of the characters is matched. -/
theorem mem_oneOf {cs x : List Char} : x ∈ (oneOf cs).matches' ↔ ∃ c ∈ cs, x = [c] := by
  induction cs with
  | nil =>
    have hnone : x ∉ (0 : Language Char) := Language.notMem_zero x
    simp [oneOf, hnone]
  | cons c cs ih =>
    rw [oneOf, matches'_add, Language.mem_add, ih, matches'_char, List.exists_mem_cons_iff]
    rfl

/-- A run of characters of a class. -/
theorem mem_star_oneOf {cs x : List Char} :
    x ∈ (star (oneOf cs)).matches' ↔ ∀ c ∈ x, c ∈ cs := by
  rw [matches'_star, Language.mem_kstar]
  constructor
  · rintro ⟨words, rfl, hwords⟩ c hc
    obtain ⟨word, hword, hc⟩ := List.mem_flatten.1 hc
    obtain ⟨d, hd, rfl⟩ := mem_oneOf.1 (hwords word hword)
    rw [List.mem_singleton] at hc
    rwa [hc]
  · intro hx
    refine ⟨x.map ([·]), ?_, ?_⟩
    · induction x with
      | nil => rfl
      | cons c x ih =>
        rw [List.map_cons, List.flatten_cons, ← ih fun d hd => hx d (List.mem_cons_of_mem c hd)]
        rfl
    · intro word hword
      obtain ⟨c, hc, rfl⟩ := List.mem_map.1 hword
      exact mem_oneOf.2 ⟨c, hx c hc, rfl⟩

end Path

namespace Expr.Name

open Path RegularExpression

/-- The first character of a name is one of those in the pattern. -/
theorem isHead_iff_mem (c : Char) : isHead c = true ↔ c ∈ headChars := by
  have hupper := mem_charRange 'A' 'Z' (by decide) c
  have hlower := mem_charRange 'a' 'z' (by decide) c
  unfold isHead headChars Char.isAlpha Char.isUpper Char.isLower
  rw [List.mem_cons, List.mem_append, hupper, hlower]
  simp only [Bool.or_eq_true, Bool.and_eq_true, decide_eq_true_eq, beq_iff_eq, ge_iff_le,
    Char.le_def]
  exact or_comm

theorem isBody_iff_mem (c : Char) : isBody c = true ↔ c ∈ bodyChars := by
  have hdigit := mem_charRange '0' '9' (by decide) c
  have hhead := isHead_iff_mem c
  unfold isHead at hhead
  unfold isBody bodyChars Char.isAlphanum
  rw [List.mem_append, hdigit, ← hhead]
  simp only [Bool.or_eq_true, Char.isDigit, Bool.and_eq_true, decide_eq_true_eq, ge_iff_le,
    Char.le_def]
  exact or_right_comm

/-- An identifier is a first character, and others. -/
theorem mem_identifier {x : List Char} :
    x ∈ identifier.matches' ↔
      ∃ c cs, x = c :: cs ∧ isHead c = true ∧ ∀ d ∈ cs, isBody d = true := by
  unfold identifier
  rw [matches'_mul, Language.mem_mul]
  simp only [mem_oneOf, mem_star_oneOf, ← isHead_iff_mem, ← isBody_iff_mem]
  constructor
  · rintro ⟨_, ⟨c, hc, rfl⟩, cs, hcs, rfl⟩
    exact ⟨c, cs, rfl, hc, hcs⟩
  · rintro ⟨c, cs, rfl, hc, hcs⟩
    exact ⟨[c], ⟨c, hc, rfl⟩, cs, hcs, rfl⟩

/-- All characters of an identifier may stand within one. -/
theorem isBody_of_mem_identifier {word : List Char} (h : word ∈ identifier.matches') :
    ∀ c ∈ word, isBody c = true := by
  obtain ⟨c, cs, rfl, hc, hcs⟩ := mem_identifier.1 h
  exact List.forall_mem_cons.2 ⟨isBody_of_isHead hc, hcs⟩

/-- What begins with an identifier is said to. -/
theorem startsIdent_of_mem_identifier {word : List Char} (h : word ∈ identifier.matches')
    (rest : List Char) : startsIdent (word ++ rest) = true := by
  obtain ⟨c, cs, rfl, hc, -⟩ := mem_identifier.1 h
  exact hc

/-- A dot, and an identifier behind it. -/
theorem mem_dotIdentifier {x : List Char} :
    x ∈ (char '.' * identifier).matches' ↔ ∃ word ∈ identifier.matches', x = '.' :: word := by
  rw [matches'_mul, Language.mem_mul]
  constructor
  · rintro ⟨dot, hdot, word, hword, rfl⟩
    have hdot : dot = ['.'] := hdot
    exact ⟨word, hword, by rw [hdot, List.singleton_append]⟩
  · rintro ⟨word, hword, rfl⟩
    exact ⟨['.'], rfl, word, hword, rfl⟩

/-- A dotted name is an identifier, and others with dots before them. -/
theorem mem_dotted {x : List Char} :
    x ∈ dotted.matches' ↔ ∃ word ∈ identifier.matches', ∃ words : List (List Char),
      x = word ++ words.flatten ∧ ∀ y ∈ words, y ∈ (char '.' * identifier).matches' := by
  unfold dotted
  rw [matches'_mul, Language.mem_mul, matches'_star]
  simp only [Language.mem_kstar]
  constructor
  · rintro ⟨word, hword, _, ⟨words, rfl, hwords⟩, rfl⟩
    exact ⟨word, hword, words, rfl, hwords⟩
  · rintro ⟨word, hword, words, rfl, hwords⟩
    exact ⟨word, hword, _, ⟨words, rfl, hwords⟩, rfl⟩

/-- A dotted name behind the dot of another one. -/
theorem append_dot_mem_dotted {x y : List Char} (hx : x ∈ dotted.matches')
    (hy : y ∈ dotted.matches') : x ++ '.' :: y ∈ dotted.matches' := by
  obtain ⟨word, hword, words, rfl, hwords⟩ := mem_dotted.1 hx
  obtain ⟨word', hword', words', rfl, hwords'⟩ := mem_dotted.1 hy
  refine mem_dotted.2 ⟨word, hword, words ++ ('.' :: word') :: words', ?_, fun z hz => ?_⟩
  · simp
  · rcases List.mem_append.1 hz with hz | hz
    · exact hwords z hz
    · rcases List.mem_cons.1 hz with rfl | hz
      · exact mem_dotIdentifier.2 ⟨word', hword', rfl⟩
      · exact hwords' z hz

/-! ## Reading a dotted name -/

/-- Characters of names are taken all the way. -/
theorem takeDotted_run {run : List Char} (h : ∀ c ∈ run, isBody c = true) (rest : List Char) :
    takeDotted (run ++ rest) = (run ++ (takeDotted rest).1, (takeDotted rest).2) := by
  induction run with
  | nil => rfl
  | cons c run ih =>
    have hc : isBody c = true := h c List.mem_cons_self
    rw [List.cons_append, takeDotted, hc, Bool.true_or, if_pos rfl,
      ih fun d hd => h d (List.mem_cons_of_mem c hd)]
    rfl

/-- A dot before an identifier is taken along. -/
theorem takeDotted_dot {cs : List Char} (h : startsIdent cs = true) :
    takeDotted ('.' :: cs) = ('.' :: (takeDotted cs).1, (takeDotted cs).2) := by
  rw [takeDotted, h, if_pos (by rfl)]

/-- All identifiers with dots before them are taken. -/
theorem takeDotted_words {words : List (List Char)}
    (h : ∀ y ∈ words, y ∈ (char '.' * identifier).matches') :
    takeDotted words.flatten = (words.flatten, []) := by
  induction words with
  | nil => rfl
  | cons y words ih =>
    have ih := ih fun z hz => h z (List.mem_cons_of_mem y hz)
    obtain ⟨word, hword, rfl⟩ := mem_dotIdentifier.1 (h y List.mem_cons_self)
    rw [List.flatten_cons, List.cons_append,
      takeDotted_dot (startsIdent_of_mem_identifier hword _),
      takeDotted_run (isBody_of_mem_identifier hword), ih]

/-- A dotted name is taken to its end. -/
theorem takeDotted_of_mem {x : List Char} (h : x ∈ dotted.matches') :
    startsIdent x = true ∧ takeDotted x = (x, []) := by
  obtain ⟨word, hword, words, rfl, hwords⟩ := mem_dotted.1 h
  refine ⟨startsIdent_of_mem_identifier hword _, ?_⟩
  rw [takeDotted_run (isBody_of_mem_identifier hword), takeDotted_words hwords]

/-- What is read is a run of an identifier's characters and then identifiers behind dots; where an
identifier starts, the run is one. -/
theorem exists_of_takeDotted (cs : List Char) :
    ∃ (run : List Char) (words : List (List Char)), (takeDotted cs).1 = run ++ words.flatten ∧
      (∀ c ∈ run, isBody c = true) ∧ (∀ y ∈ words, y ∈ (char '.' * identifier).matches') ∧
      (startsIdent cs = true → run ∈ identifier.matches') := by
  induction cs with
  | nil => exact ⟨[], [], rfl, by simp, by simp, fun h => nomatch h⟩
  | cons c cs ih =>
    obtain ⟨run, words, htaken, hrun, hwords, hident⟩ := ih
    by_cases hc : isBody c = true
    · refine ⟨c :: run, words, ?_, List.forall_mem_cons.2 ⟨hc, hrun⟩, hwords, fun hhead => ?_⟩
      · rw [takeDotted, hc, Bool.true_or, if_pos rfl]
        exact congrArg (c :: ·) htaken
      · exact mem_identifier.2 ⟨c, run, rfl, hhead, hrun⟩
    · have hhead : ¬ startsIdent (c :: cs) = true := fun h => hc (isBody_of_isHead h)
      by_cases hdot : (c == '.' && startsIdent cs) = true
      · -- a dot in front of an identifier: what was a run is a word behind the dot now
        obtain ⟨hcdot, hstarts⟩ := Bool.and_eq_true_iff.1 hdot
        have hc : c = '.' := eq_of_beq hcdot
        refine ⟨[], ('.' :: run) :: words, ?_, by simp, fun y hy => ?_, fun h => absurd h hhead⟩
        · rw [hc, takeDotted_dot hstarts, List.nil_append, List.flatten_cons, List.cons_append,
            htaken]
        · rcases List.mem_cons.1 hy with rfl | hy
          · exact mem_dotIdentifier.2 ⟨run, hident hstarts, rfl⟩
          · exact hwords y hy
      · refine ⟨[], [], ?_, by simp, by simp, fun h => absurd h hhead⟩
        rw [takeDotted, if_neg]
        · rfl
        · rw [Bool.or_eq_true]
          exact not_or_intro hc hdot

theorem takeDotted_mem {cs : List Char} (h : startsIdent cs = true) :
    (takeDotted cs).1 ∈ dotted.matches' := by
  obtain ⟨run, words, htaken, -, hwords, hident⟩ := exists_of_takeDotted cs
  rw [htaken]
  exact mem_dotted.2 ⟨run, hident h, words, rfl, hwords⟩

/-! ## Reading a path -/

/-- What stands in front of a dotted name. -/
theorem mem_anchor {x : List Char} :
    x ∈ anchored.matches' ↔
      x = ['~'] ∨ ∀ c ∈ x, c = '.' := by
  -- dots under a star, as a statement about each character
  have hdots : ∀ y : List Char, y ∈ (star (char '.')).matches' ↔ ∀ c ∈ y, c = '.' := by
    intro y
    have hone : y ∈ (star (oneOf ['.'])).matches' ↔ y ∈ (star (char '.')).matches' := by
      simp [oneOf]
    rw [← hone, mem_star_oneOf]
    simp only [List.mem_singleton]
  unfold anchored
  rw [matches'_add, Language.mem_add, matches'_add, Language.mem_add, matches'_mul,
    Language.mem_mul]
  constructor
  · rintro (h | h | ⟨dot, hdot, dots, h, rfl⟩)
    · have h : x = [] := h
      right
      simp [h]
    · exact .inl h
    · have hdot : dot = ['.'] := hdot
      right
      intro c hc
      rw [hdot, List.singleton_append, List.mem_cons] at hc
      exact hc.elim id ((hdots dots).1 h c)
  · rintro (h | h)
    · exact .inr (.inl h)
    · cases x with
      | nil => exact .inl rfl
      | cons c x =>
        rw [List.forall_mem_cons] at h
        obtain ⟨rfl, h⟩ := h
        exact .inr (.inr ⟨['.'], rfl, x, (hdots x).2 h, rfl⟩)

/-- What is taken for an anchor is one. -/
theorem takeAnchor_mem (cs : List Char) :
    (takeAnchor cs).1 ∈ anchored.matches' := by
  rw [mem_anchor]
  unfold takeAnchor
  split
  · exact .inl rfl
  · right
    intro c hc
    exact eq_of_beq (List.all_eq_true.1 List.all_takeWhile c hc)

/-- An anchor before a name is taken to its end. -/
theorem takeAnchor_append_of_mem {x : List Char}
    (h : x ∈ anchored.matches') {body : List Char}
    (hbody : startsIdent body = true) : takeAnchor (x ++ body) = (x, body) := by
  cases body with
  | nil => cases hbody
  | cons d body =>
    have hhead : isHead d = true := hbody
    have hdot : (d == '.') = false := by
      rw [beq_eq_false_iff_ne]
      rintro rfl
      exact absurd hhead (by decide)
    rcases mem_anchor.1 h with rfl | hdots
    · rfl
    · unfold takeAnchor
      split
      · next cs hcs =>
        -- neither the dots nor the name start with the other mark
        cases x with
        | nil =>
          cases hcs
          exact absurd hhead (by decide)
        | cons c x =>
          cases hcs
          cases hdots _ List.mem_cons_self
      · rw [List.takeWhile_append_of_pos (by simpa using hdots),
          List.dropWhile_append_of_pos (by simpa using hdots), List.takeWhile_cons, hdot,
          List.dropWhile_cons, hdot]
        simp

/-- What is taken for a path matches the pattern. -/
theorem takePath?_mem {cs taken rest : List Char} (h : takePath? cs = some (taken, rest)) :
    taken ∈ pattern.matches' := by
  simp only [takePath?] at h
  split at h
  · next hstarts =>
    cases h
    exact Language.mem_mul.2 ⟨_, takeAnchor_mem cs, _, takeDotted_mem hstarts, rfl⟩
  · cases h

/-- What matches the pattern is taken to its end. -/
theorem takePath?_of_mem {x : List Char} (h : x ∈ pattern.matches') :
    takePath? x = some (x, []) := by
  obtain ⟨anchor, hanchor, name, hname, rfl⟩ := Language.mem_mul.1 h
  obtain ⟨hstarts, hname⟩ := takeDotted_of_mem hname
  rw [takePath?, takeAnchor_append_of_mem hanchor hstarts]
  simp only [hstarts, hname, if_true]

end Expr.Name

/-- A text is written as the path grammar wants it just when it matches the pattern. -/
theorem Path.isValid_iff_matches (s : String) :
    Path.isValid s = true ↔ s.toList ∈ Path.pattern.matches' := by
  unfold Path.isValid
  constructor
  · intro h
    split at h
    · next taken hpath =>
      have happend := Expr.Name.takePath?_append hpath
      rw [List.append_nil] at happend
      rw [← happend]
      exact Expr.Name.takePath?_mem hpath
    · cases h
  · intro h
    rw [Expr.Name.takePath?_of_mem h]

end Stencil
