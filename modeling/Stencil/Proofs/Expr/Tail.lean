import Stencil.Expr.Parser
import Stencil.Proofs.Frame.Pattern

/-!
# Stencil.Proofs.Expr.Tail — lexemes in front of another text

How far a lexeme goes is decided by the character behind it, or by two if the first of them is a
dot. So what stands behind a lexeme may be replaced by a text that starts alike, or by one that
starts with a character no lexeme goes on with, such as a blank (`Symbol.Replaces`); the lexeme
stays what it is (`Symbol.read?_replaced`).
-/

namespace Stencil.Expr

namespace Symbol

/-- No lexeme goes on with the character. -/
structure Delimits (c : Char) : Prop where
  isBody : Name.isBody c = false
  ne_dot : c ≠ '.'
  not_mem_symbol : ∀ op : Operator, c ∉ op.symbol.toList

/-- The text starts with such a character, or is empty. -/
def Delimited (cs : List Char) : Prop := ∀ c ∈ cs.head?, Delimits c

/-- A lexeme that ends in front of the first text ends in front of the second. -/
inductive Replaces : List Char → List Char → Prop where
  | delimited (rest : List Char) {tail : List Char} : Delimited tail → Replaces rest tail
  | char {c : Char} (u v : List Char) : c ≠ '.' → Replaces (c :: u) (c :: v)
  | dot (c : Char) (u v : List Char) : Replaces ('.' :: c :: u) ('.' :: c :: v)

/-! ## Characters that delimit -/

/-- A blank belongs to no name, number or operator. -/
theorem delimits_of_isBlank {c : Char} (h : Text.isBlank c = true) : Delimits c := by
  have hbody : ∀ d ∈ Path.bodyChars, (!Text.isBlank d) = true := List.all_eq_true.1 (by decide)
  have hsymbol : ∀ op : Operator, ∀ d ∈ op.symbol.toList, (!Text.isBlank d) = true := by
    intro op
    refine List.all_eq_true.1 ?_
    cases op <;> decide
  constructor
  · rw [Bool.eq_false_iff]
    intro hc
    have hblank := hbody c ((Name.isBody_iff_mem c).1 hc)
    rw [h] at hblank
    cases hblank
  · rintro rfl
    exact absurd h (by decide)
  · intro op hc
    have hblank := hsymbol op c hc
    rw [h] at hblank
    cases hblank

theorem delimits_closing : Delimits ')' := by
  constructor
  · decide
  · decide
  · intro op
    cases op <;> decide

/-- What delimits is no digit. -/
theorem Delimits.isDigit {c : Char} (h : Delimits c) : c.isDigit = false := by
  have hbody := h.isBody
  simp only [Name.isBody, Char.isAlphanum, Bool.or_eq_false_iff] at hbody
  exact hbody.1.2

theorem Delimits.ne_mark {c : Char} (h : Delimits c) : c ≠ '!' := by
  rintro rfl
  exact h.not_mem_symbol .ne (by decide)

theorem delimited_nil : Delimited [] := by
  intro c hc
  cases hc

theorem Delimited.cons {c : Char} (h : Delimits c) (cs : List Char) : Delimited (c :: cs) := by
  intro d hd
  cases hd
  exact h

/-! ## Where runs end -/

/-- The text does not go on with a character of the class. -/
def StopsAt (p : Char → Bool) (cs : List Char) : Prop := ∀ c ∈ cs.head?, p c = false

/-- A run of characters ends where it is said to. -/
theorem stopsAt_dropWhile (p : Char → Bool) (cs : List Char) : StopsAt p (cs.dropWhile p) := by
  intro c hc
  have hhead := List.head?_dropWhile_not p cs
  rw [Option.mem_def.1 hc] at hhead
  exact hhead

/-- A run of characters that no delimiter belongs to ends before the replacement as well. -/
theorem Replaces.stopsAt {p : Char → Bool} (hp : ∀ c, Delimits c → p c = false)
    {rest tail : List Char} (h : Replaces rest tail) (hrest : StopsAt p rest) : StopsAt p tail := by
  intro c hc
  cases h with
  | delimited _ htail => exact hp c (htail c hc)
  | char u v _ => exact hrest c hc
  | dot d u v => exact hrest c hc

/-- A run ends where it stops. -/
theorem takeWhile_of_stopsAt {p : Char → Bool} {run tail : List Char}
    (hrun : ∀ c ∈ run, p c = true) (htail : StopsAt p tail) :
    (run ++ tail).takeWhile p = run ∧ (run ++ tail).dropWhile p = tail := by
  rw [List.takeWhile_append_of_pos hrun, List.dropWhile_append_of_pos hrun]
  cases tail with
  | nil => simp
  | cons c tail =>
    have hc : p c = false := htail c rfl
    rw [List.takeWhile_cons, List.dropWhile_cons, hc]
    simp

/-- A run of a class that no delimiter belongs to stays what it is. -/
theorem takeWhile_replaced {p : Char → Bool} (hp : ∀ c, Delimits c → p c = false)
    {cs tail : List Char} (ht : Replaces (cs.dropWhile p) tail) :
    (cs.takeWhile p ++ tail).takeWhile p = cs.takeWhile p ∧
      (cs.takeWhile p ++ tail).dropWhile p = tail := by
  have hrun : ∀ c ∈ cs.takeWhile p, p c = true := List.all_eq_true.1 List.all_takeWhile
  have htail : StopsAt p tail := ht.stopsAt hp (stopsAt_dropWhile p cs)
  exact takeWhile_of_stopsAt hrun htail

/-! ## Numbers and texts -/

/-- A fraction is read with any other text behind it that may stand there. -/
theorem takeFraction_replaced {cs fraction rest tail : List Char}
    (h : takeFraction cs = (fraction, rest)) (ht : Replaces rest tail) :
    takeFraction (fraction ++ tail) = (fraction, tail) := by
  unfold takeFraction at h
  split at h
  · next digits =>
    split at h
    · next hnone =>
      -- a dot without digits behind it: the fraction is empty
      cases h
      rw [List.nil_append]
      cases ht with
      | delimited _ htail =>
        unfold takeFraction
        split
        · exact absurd rfl (htail '.' rfl).ne_dot
        · rfl
      | char u v hc => exact absurd rfl hc
      -- the dot may only be replaced along with what is behind it, which is no digit
      | dot c u v =>
        have hc : c.isDigit = false := by
          rw [List.takeWhile_cons] at hnone
          split at hnone
          · cases hnone
          · next hc => exact Bool.eq_false_iff.2 hc
        rw [takeFraction, List.takeWhile_cons, hc]
        rfl
    · next hsome =>
      cases h
      obtain ⟨htake, hdrop⟩ := takeWhile_replaced (fun _ => Delimits.isDigit) ht
      rw [List.cons_append, takeFraction, htake, hdrop, if_neg hsome]
  · next hdot =>
    cases h
    rw [List.nil_append]
    unfold takeFraction
    split
    · next v =>
      -- the tail starts with a dot, so the text did
      cases ht with
      | delimited _ htail => exact absurd rfl (htail '.' rfl).ne_dot
      | char u v hc => exact absurd rfl hc
      | dot c u v => exact absurd rfl (hdot _)
    · rfl

/-- So is a numeral. -/
theorem takeNumeral_replaced {negative : Bool} {cs spelling rest tail : List Char} {n : Float}
    (h : takeNumeral negative cs = (n, spelling, rest)) (ht : Replaces rest tail) :
    takeNumeral negative (spelling ++ tail) = (n, spelling, tail) := by
  obtain ⟨fraction, rest', hfraction⟩ :
      ∃ fraction rest', takeFraction (cs.dropWhile Char.isDigit) = (fraction, rest') :=
    ⟨_, _, rfl⟩
  simp only [takeNumeral, hfraction] at h
  cases h
  have hdigits : ∀ c ∈ cs.takeWhile Char.isDigit, c.isDigit = true :=
    List.all_eq_true.1 List.all_takeWhile
  have hstops : StopsAt Char.isDigit (fraction ++ tail) := by
    have happend := takeFraction_append (cs.dropWhile Char.isDigit)
    rw [hfraction] at happend
    have hbehind : StopsAt Char.isDigit (fraction ++ rest) := by
      rw [happend]
      exact stopsAt_dropWhile Char.isDigit cs
    cases fraction with
    | nil => exact ht.stopsAt (fun _ => Delimits.isDigit) hbehind
    | cons c fraction => exact hbehind
  obtain ⟨htake, hdrop⟩ := takeWhile_of_stopsAt hdigits hstops
  simp only [takeNumeral, List.append_assoc, htake, hdrop, takeFraction_replaced hfraction ht]

/-- A text literal ends at its closing quote, whatever follows. -/
theorem takeText_replaced {quote : Char} {cs text spelling rest : List Char}
    (h : takeText quote cs = some (text, spelling, rest)) (tail : List Char) :
    takeText quote (spelling ++ tail) = some (text, spelling, tail) := by
  fun_induction takeText quote cs generalizing text spelling rest with
  | case1 => cases h
  | case2 c cs ih =>
    obtain ⟨⟨t, s, r⟩, hcs, heq⟩ := Option.map_eq_some_iff.1 h
    cases heq
    rw [List.cons_append, List.cons_append, takeText, ih hcs]
    rfl
  | case3 => cases h
  -- the quote ends the literal, whatever is behind it
  | case4 cs hne hc =>
    cases h
    rw [List.singleton_append, takeText, if_neg hc, if_pos rfl]
    rintro _ _ rfl
    exact absurd rfl hc
  | case5 c cs hne hc hq ih =>
    obtain ⟨⟨t, s, r⟩, hcs, heq⟩ := Option.map_eq_some_iff.1 h
    cases heq
    rw [List.cons_append, takeText, if_neg hc, if_neg hq, ih hcs]
    · rfl
    · rintro _ _ rfl
      exact absurd rfl hc

/-! ## Names -/

/-- What begins with an identifier does so whatever is behind it. -/
theorem startsIdent_append {cs : List Char} (h : Name.startsIdent cs = true) (tail : List Char) :
    Name.startsIdent (cs ++ tail) = true := by
  cases cs with
  | nil => cases h
  | cons c cs => exact h

/-- A dotted name begins with an identifier. -/
theorem startsIdent_takeDotted {cs : List Char} (h : Name.startsIdent cs = true) :
    Name.startsIdent (Name.takeDotted cs).1 = true := by
  have hne := Name.takeDotted_ne_nil h
  have happend := Name.takeDotted_append cs
  cases htaken : (Name.takeDotted cs).1 with
  | nil => exact absurd htaken hne
  | cons c taken =>
    rw [htaken, List.cons_append] at happend
    rw [← happend] at h
    exact h

/-- A dotted name ends at a character of no name, unless it is a dot before another one. -/
theorem takeDotted_eq_nil_iff {c : Char} {cs : List Char} :
    Name.takeDotted (c :: cs) = ([], c :: cs) ↔
      Name.isBody c = false ∧ (c = '.' → Name.startsIdent cs = false) := by
  rw [Name.takeDotted]
  cases hc : Name.isBody c with
  | true => simp
  | false =>
    by_cases hdot : c = '.'
    · cases hs : Name.startsIdent cs <;> simp [hdot]
    · simp [hdot]

/-- Where a name does not go on, it does not go on in front of the tail. -/
theorem takeDotted_stopped {rest tail : List Char} (h : Name.takeDotted rest = ([], rest))
    (ht : Replaces rest tail) : Name.takeDotted tail = ([], tail) := by
  cases ht with
  | delimited _ htail =>
    cases tail with
    | nil => rfl
    | cons c tail =>
      have hc := htail c rfl
      exact takeDotted_eq_nil_iff.2 ⟨hc.isBody, fun h => absurd h hc.ne_dot⟩
  | char u v hc =>
    exact takeDotted_eq_nil_iff.2 ⟨(takeDotted_eq_nil_iff.1 h).1, fun h => absurd h hc⟩
  | dot c u v =>
    obtain ⟨hbody, hdot⟩ := takeDotted_eq_nil_iff.1 h
    exact takeDotted_eq_nil_iff.2 ⟨hbody, hdot⟩

/-- A dotted name is read with any other text behind it that may stand there. -/
theorem takeDotted_replaced {cs taken rest tail : List Char}
    (h : Name.takeDotted cs = (taken, rest)) (ht : Replaces rest tail) :
    Name.takeDotted (taken ++ tail) = (taken, tail) := by
  induction cs generalizing taken with
  | nil =>
    cases h
    exact takeDotted_stopped rfl ht
  | cons c cs ih =>
    -- a character of the name, or a dot before an identifier, which still is one
    by_cases hc : (Name.isBody c || (c == '.' && Name.startsIdent cs)) = true
    · rw [Name.takeDotted, if_pos hc] at h
      cases h
      have ih := ih rfl
      have hc' : (Name.isBody c || (c == '.' &&
          Name.startsIdent ((Name.takeDotted cs).1 ++ tail))) = true := by
        rw [Bool.or_eq_true, Bool.and_eq_true] at hc ⊢
        rcases hc with hc | ⟨hdot, hs⟩
        · exact .inl hc
        · exact .inr ⟨hdot, startsIdent_append (startsIdent_takeDotted hs) tail⟩
      rw [List.cons_append, Name.takeDotted, if_pos hc', ih]
    · have hstop : Name.takeDotted (c :: cs) = ([], c :: cs) := by
        rw [Name.takeDotted, if_neg hc]
      rw [hstop] at h
      cases h
      exact takeDotted_stopped hstop ht

theorem takePath?_replaced {cs taken rest tail : List Char}
    (h : Name.takePath? cs = some (taken, rest)) (ht : Replaces rest tail) :
    Name.takePath? (taken ++ tail) = some (taken, tail) := by
  simp only [Name.takePath?] at h
  split at h
  · next hs =>
    cases h
    have hbody : Name.takeDotted (Name.takeAnchor cs).2 = (_, _) := rfl
    have hdotted := takeDotted_replaced hbody ht
    have hstarts := startsIdent_append (startsIdent_takeDotted hs) tail
    have hanchor := Name.takeAnchor_append_of_mem (Name.takeAnchor_mem cs) hstarts
    rw [List.append_assoc, Name.takePath?, hanchor]
    simp only [hstarts, hdotted, if_true]
  · cases h

/-- A property is a dotted name behind a dot. -/
theorem exists_of_takeProperty? {cs : List Char} {cut : List Char × List Char}
    (h : Name.takeProperty? cs = some cut) :
    ∃ body, cs = '.' :: body ∧ Name.startsIdent body = true ∧ Name.takeDotted body = cut := by
  unfold Name.takeProperty? at h
  split at h
  · next body =>
    split at h
    · next hs => exact ⟨body, rfl, hs, Option.some.inj h⟩
    · cases h
  · cases h

/-- Only behind a closing parenthesis is a property read. -/
theorem of_property? {previous : Option Symbol} {cs : List Char} {cut : List Char × List Char}
    (h : property? previous cs = some cut) :
    previous = some .closing ∧ Name.takeProperty? cs = some cut := by
  unfold property? at h
  split at h
  · exact ⟨rfl, h⟩
  · cases h

/-- A property is read with any other text behind it that may stand there. -/
theorem takeProperty?_replaced {cs taken rest tail : List Char}
    (h : Name.takeProperty? cs = some (taken, rest)) (ht : Replaces rest tail) :
    Name.takeProperty? ('.' :: (taken ++ tail)) = some (taken, tail) := by
  obtain ⟨body, -, hs, hbody⟩ := exists_of_takeProperty? h
  have hstarts : Name.startsIdent (taken ++ tail) = true := by
    have htaken := startsIdent_takeDotted hs
    rw [hbody] at htaken
    exact startsIdent_append htaken tail
  rw [Name.takeProperty?, if_pos hstarts, takeDotted_replaced hbody ht]

/-- What a word says. -/
def ofWord (spelling : List Char) : Symbol :=
  match Reserved.ofWord? (String.ofList spelling) with
  | some r => literal (.reserved r)
  | none => path (String.ofList spelling)

/-- A word is a path, or what it is reserved for. -/
theorem word?_eq_some_iff {cs spelling rest : List Char} {x : Symbol} :
    word? cs = some (x, spelling, rest) ↔
      Name.takePath? cs = some (spelling, rest) ∧ x = ofWord spelling := by
  have hword : word? cs =
      (Name.takePath? cs).map fun cut => (ofWord cut.1, cut.1, cut.2) := by
    unfold word? ofWord
    congr 1
    funext cut
    dsimp only
    cases Reserved.ofWord? (String.ofList cut.1) <;> rfl
  rw [hword, Option.map_eq_some_iff]
  constructor
  · rintro ⟨cut, hpath, heq⟩
    cases heq
    exact ⟨hpath, rfl⟩
  · rintro ⟨hpath, rfl⟩
    exact ⟨_, hpath, rfl⟩

/-- A word is read with any other text behind it that may stand there. -/
theorem word?_replaced {cs spelling rest tail : List Char} {x : Symbol}
    (h : word? cs = some (x, spelling, rest)) (ht : Replaces rest tail) :
    word? (spelling ++ tail) = some (x, spelling, tail) := by
  rw [word?_eq_some_iff] at h ⊢
  exact ⟨takePath?_replaced h.1 ht, h.2⟩

/-! ## Operators and signs -/

/-- The first character behind a spelling decides whether an operator goes on there. -/
theorem isPrefix_replaced {op : Operator} {spelling rest tail : List Char} (hne : spelling ≠ [])
    (ht : Replaces rest tail) (h : op.symbol.toList <+: spelling ++ tail) :
    op.symbol.toList <+: spelling ++ rest := by
  rcases List.prefix_or_prefix_of_prefix h (List.prefix_append spelling tail) with hop | hop
  · exact hop.trans (List.prefix_append spelling rest)
  · obtain ⟨more, hmore⟩ := hop
    rw [← hmore, List.prefix_append_right_inj] at h
    rw [← hmore, List.prefix_append_right_inj]
    have hlength : op.symbol.toList.length ≤ 2 := by
      cases op <;> decide
    have hpos := List.length_pos_iff.2 hne
    rw [← hmore, List.length_append] at hlength
    cases more with
    | nil => exact List.nil_prefix
    | cons b more =>
      -- no operator has three characters, so `b` is the last one
      have hmore' : more = [] := by
        rw [List.length_cons] at hlength
        exact List.length_eq_zero_iff.1 (by omega)
      have hb : b ∈ op.symbol.toList := by
        rw [← hmore]
        exact List.mem_append_right spelling List.mem_cons_self
      subst hmore'
      cases ht with
      | delimited _ htail =>
        cases tail with
        | nil => cases List.prefix_nil.1 h
        | cons c tail =>
          rw [List.cons_prefix_cons] at h
          rw [h.1] at hb
          exact absurd hb ((htail c rfl).not_mem_symbol op)
      | char u v _ =>
        rw [List.cons_prefix_cons] at h ⊢
        exact ⟨h.1, List.nil_prefix⟩
      | dot c u v =>
        rw [List.cons_prefix_cons] at h ⊢
        exact ⟨h.1, List.nil_prefix⟩

/-- Where there is no operator, none comes of another text behind it. -/
theorem operator?_none_replaced {c : Char} {more rest tail : List Char} (ht : Replaces rest tail)
    (h : operator? (c :: (more ++ rest)) = none) : operator? (c :: (more ++ tail)) = none := by
  unfold operator? at h ⊢
  rw [List.find?_eq_none] at h ⊢
  intro op hop htail
  refine h op hop ?_
  rw [List.isPrefixOf_iff_prefix, ← List.cons_append] at htail ⊢
  exact isPrefix_replaced (List.cons_ne_nil c more) ht htail

/-- Where there is one, it stays the same. -/
theorem operator?_some_replaced {rest tail : List Char} {op : Operator} (ht : Replaces rest tail)
    (h : operator? (op.symbol.toList ++ rest) = some op) :
    operator? (op.symbol.toList ++ tail) = some op := by
  unfold operator? at h ⊢
  rw [List.find?_eq_some_iff_append] at h ⊢
  obtain ⟨-, before, after, hall, hbefore⟩ := h
  refine ⟨List.isPrefixOf_iff_prefix.2 (List.prefix_append _ _), before, after, hall, ?_⟩
  intro op' hop'
  have hnot := hbefore op' hop'
  rw [Bool.not_eq_true', Bool.eq_false_iff, ne_eq, List.isPrefixOf_iff_prefix] at hnot ⊢
  intro htail
  exact hnot (isPrefix_replaced (operator_symbol_ne_nil op) ht htail)

/-- A sign without digits is none with another text behind it. -/
theorem signs_replaced {operand : Bool} {c : Char} {more rest tail : List Char}
    (ht : Replaces rest tail) (h : signs operand c (more ++ rest) = false) :
    signs operand c (more ++ tail) = false := by
  cases more with
  | cons d more => exact h
  | nil =>
    unfold signs at h ⊢
    rw [Bool.and_eq_false_iff] at h ⊢
    refine h.imp_right fun hrest => ?_
    have hstops : StopsAt Char.isDigit rest := by
      intro d hd
      cases rest with
      | nil => cases hd
      | cons e rest =>
        cases hd
        exact hrest
    have htail := ht.stopsAt (fun _ => Delimits.isDigit) hstops
    cases tail with
    | nil => rfl
    | cons d tail => exact htail d rfl

/-- A sign with digits is one whatever is behind these. -/
theorem signs_digits {operand : Bool} {c : Char} {cs more rest : List Char} {n : Float}
    (h : signs operand c cs = true) (hn : takeNumeral (c == '-') cs = (n, more, rest))
    (tail : List Char) : signs operand c (more ++ tail) = true := by
  cases cs with
  | nil =>
    rw [signs, Bool.and_false] at h
    cases h
  | cons d cs =>
    have hd : d.isDigit = true := by
      rw [signs, Bool.and_eq_true] at h
      exact h.2
    have happend := takeNumeral_append (c == '-') (d :: cs)
    have hmore : more = d :: more.tail := by
      simp only [takeNumeral, List.takeWhile_cons, hd, if_true] at hn
      cases hn
      rfl
    rw [hmore]
    exact h

/-! ## Any lexeme -/

/-- A lexeme is what it is in front of any text that ends it. -/
theorem read?_replaced {operand : Bool} {c : Char} {cs spelling rest tail : List Char} {x : Symbol}
    (h : read? operand c cs = .ok (x, spelling, rest)) (ht : Replaces rest tail) :
    ∃ more, spelling = c :: more ∧ cs = more ++ rest ∧
      read? operand c (more ++ tail) = .ok (x, spelling, tail) := by
  have happend : spelling ++ rest = c :: cs := read?_append h
  have hne : spelling ≠ [] := read?_ne_nil h
  obtain ⟨d, more, rfl⟩ := List.exists_cons_of_ne_nil hne
  rw [List.cons_append] at happend
  obtain ⟨rfl, rfl⟩ := List.cons.inj happend
  refine ⟨more, rfl, rfl, ?_⟩
  -- the same tests are made in front of the tail, and each of them has the same outcome
  unfold read? at h ⊢
  split at h
  · next hc =>
    cases h
    rw [if_pos hc]
    rfl
  next hopening =>
  rw [if_neg hopening]
  split at h
  · next hc =>
    cases h
    rw [if_pos hc]
    rfl
  next hclosing =>
  rw [if_neg hclosing]
  split at h
  · next hc =>
    cases h
    rw [if_pos hc]
    rfl
  next hseparator =>
  rw [if_neg hseparator]
  split at h
  · next hsigns =>
    obtain ⟨n, digits, rest', hn⟩ :
        ∃ n digits rest', takeNumeral (d == '-') (more ++ rest) = (n, digits, rest') :=
      ⟨_, _, _, rfl⟩
    rw [hn] at h
    cases h
    rw [if_pos (signs_digits hsigns hn tail), takeNumeral_replaced hn ht]
  next hsigns =>
  rw [signs_replaced ht (Bool.eq_false_iff.2 hsigns), if_neg Bool.false_ne_true]
  split at h
  · next op hop =>
    have hcut := Except.ok.inj h
    simp only [Prod.mk.injEq] at hcut
    obtain ⟨rfl, hspelling, -⟩ := hcut
    rw [← List.cons_append, ← hspelling] at hop ⊢
    rw [operator?_some_replaced ht hop]
    simp
  next hnone =>
  rw [operator?_none_replaced ht hnone]
  split at h
  · next hmark =>
    rw [if_pos hmark]
    have hcut := Except.ok.inj h
    simp only [Prod.mk.injEq, List.cons.injEq, true_and] at hcut
    obtain ⟨hx, hrun, hrest⟩ := hcut
    have hmark : ∀ b, Delimits b → (b == '!') = false :=
      fun b hb => beq_eq_false_iff_ne.2 hb.ne_mark
    rw [← hrest] at ht
    obtain ⟨htake, hdrop⟩ := takeWhile_replaced hmark ht
    rw [hrun] at hx htake hdrop
    simp only [htake, hdrop, hx]
  next hmark =>
  rw [if_neg hmark]
  split at h
  · next hdigit =>
    obtain ⟨n, digits, rest', hn⟩ :
        ∃ n digits rest', takeNumeral false (d :: (more ++ rest)) = (n, digits, rest') :=
      ⟨_, _, _, rfl⟩
    rw [hn] at h
    cases h
    have hnumeral := takeNumeral_replaced hn ht
    rw [List.cons_append] at hnumeral
    rw [if_pos hdigit, hnumeral]
  next hdigit =>
  rw [if_neg hdigit]
  split at h
  · next hquote =>
    rw [if_pos hquote]
    split at h
    · next text spelling rest' htext =>
      cases h
      rw [takeText_replaced htext tail]
    · cases h
  next hquote =>
  rw [if_neg hquote]
  split at h
  · next hword =>
    cases h
    have hword' := word?_replaced hword ht
    rw [List.cons_append] at hword'
    rw [hword']
  · cases h

/-- Only a parenthesis is read as one, and only a word as a reference. -/
theorem of_read? {operand : Bool} {c : Char} {cs spelling rest : List Char} {x : Symbol}
    (h : read? operand c cs = .ok (x, spelling, rest)) :
    (x.role = .closing → spelling = [')']) ∧
      (x.role = .reference → word? (c :: cs) = some (x, spelling, rest)) := by
  -- the branches of the reader, in its order
  unfold read? at h
  split at h
  · cases h
    exact ⟨nofun, nofun⟩
  split at h
  · next hc =>
    cases h
    exact ⟨fun _ => congrArg (fun d => [d]) hc, nofun⟩
  split at h
  · cases h
    exact ⟨nofun, nofun⟩
  split at h
  · cases h
    exact ⟨nofun, nofun⟩
  split at h
  · cases h
    exact ⟨nofun, nofun⟩
  split at h
  · cases h
    exact ⟨nofun, nofun⟩
  split at h
  · cases h
    exact ⟨nofun, nofun⟩
  split at h
  · split at h
    · cases h
      exact ⟨nofun, nofun⟩
    · cases h
  split at h
  · next hword =>
    cases h
    refine ⟨fun hrole => ?_, fun _ => hword⟩
    rw [(word?_eq_some_iff.1 hword).2] at hrole
    unfold ofWord at hrole
    split at hrole <;> cases hrole
  · cases h

/-- Both texts start alike if they start with this. -/
theorem replaces_append {c : Char} {more : List Char} (h : c = '.' → more ≠ [])
    (rest tail : List Char) : Replaces (c :: (more ++ rest)) (c :: (more ++ tail)) := by
  by_cases hc : c = '.'
  · obtain ⟨d, more, rfl⟩ := List.exists_cons_of_ne_nil (h hc)
    subst hc
    exact .dot d (more ++ rest) (more ++ tail)
  · exact .char _ _ hc

/-- There is no property but where a dot stands before an identifier. -/
theorem takeProperty?_eq_none_iff {cs : List Char} :
    Name.takeProperty? cs = none ↔ ∀ body, cs = '.' :: body → Name.startsIdent body = false := by
  unfold Name.takeProperty?
  split
  · next body =>
    constructor
    · intro h body' hbody
      cases hbody
      cases hs : Name.startsIdent body with
      | false => rfl
      | true =>
        rw [if_pos hs] at h
        cases h
    · intro h
      rw [h body rfl]
      rfl
  · next hdot =>
    have hnone : ∀ body, cs = '.' :: body → Name.startsIdent body = false :=
      fun body h => absurd h (hdot body)
    simpa using hnone

/-- Where no property stands, none stands in a text that replaces it. -/
theorem property?_none_replaced {previous : Option Symbol} {rest tail : List Char}
    (h : property? previous rest = none) (ht : Replaces rest tail) :
    property? previous tail = none := by
  unfold property? at h ⊢
  split
  · have h : Name.takeProperty? rest = none := h
    rw [takeProperty?_eq_none_iff] at h ⊢
    rintro body rfl
    cases ht with
    | delimited _ htail => exact absurd rfl (htail '.' rfl).ne_dot
    | char u v hc => exact absurd rfl hc
    | dot c u v => exact h (c :: u) rfl
  · rfl

/-- What only words start with. -/
def wordChars : List Char := '~' :: '.' :: Path.headChars

/-- What starts so is a word or no lexeme at all. -/
theorem read?_eq_ok_iff_of_mem_wordChars (operand : Bool) {c : Char} (hc : c ∈ wordChars)
    (cs : List Char) (cut : Cut) :
    read? operand c cs = .ok cut ↔ word? (c :: cs) = some cut := by
  have hother : ∀ d ∈ wordChars,
      (['(', ')', ',', '-', '+', '!', '"', '\''].all fun other => d != other) = true :=
    List.all_eq_true.1 (by decide)
  have hdigit : ∀ d ∈ wordChars, (!d.isDigit) = true := List.all_eq_true.1 (by decide)
  have hfirst : ∀ op : Operator, ∀ d ∈ wordChars, (op.symbol.toList.head? != some d) = true := by
    intro op
    refine List.all_eq_true.1 ?_
    cases op <;> decide
  -- no operator begins like a word
  have hoperator : operator? (c :: cs) = none := by
    unfold operator?
    rw [List.find?_eq_none]
    intro op _ hprefix
    obtain ⟨rest, hrest⟩ := List.isPrefixOf_iff_prefix.1 hprefix
    cases hop : op.symbol.toList with
    | nil => exact operator_symbol_ne_nil op hop
    | cons d more =>
      have hhead := hfirst op c hc
      rw [hop, List.cons_append] at hrest
      rw [hop, (List.cons.inj hrest).1] at hhead
      simp at hhead
  have hother := hother c hc
  simp only [List.all_cons, List.all_nil, Bool.and_true, Bool.and_eq_true, bne_iff_ne] at hother
  obtain ⟨hopening, hclosing, hseparator, hminus, hplus, hmark, hdouble, hsingle⟩ := hother
  have hsigns : signs operand c cs = false := by
    unfold signs
    rw [beq_eq_false_iff_ne.2 hminus, beq_eq_false_iff_ne.2 hplus, Bool.or_false, Bool.and_false,
      Bool.false_and]
  have hdigit : c.isDigit = false := by simpa using hdigit c hc
  have hquote : (decide (c = '"') || decide (c = '\'')) = false := by simp [hdouble, hsingle]
  rw [read?, if_neg hopening, if_neg hclosing, if_neg hseparator, hsigns,
    if_neg Bool.false_ne_true, hoperator]
  simp only [hmark, hdigit, hquote, Bool.false_eq_true, if_false]
  cases word? (c :: cs) <;> simp

/-- What starts with a dot has a character behind it. -/
theorem ne_nil_of_read?_dot {operand : Bool} {cs more rest : List Char} {x : Symbol}
    (h : read? operand '.' cs = .ok (x, '.' :: more, rest)) : more ≠ [] := by
  rw [read?_eq_ok_iff_of_mem_wordChars operand (by decide)] at h
  have hpath := (word?_eq_some_iff.1 h).1
  rintro rfl
  cases Name.takePath?_of_mem (Name.takePath?_mem hpath)

end Symbol

end Stencil.Expr
