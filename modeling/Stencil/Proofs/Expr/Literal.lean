import Stencil.Expr.Parser

/-!
# Stencil.Proofs.Expr.Literal — text literals are read back

`Spells q text body` says that `body` spells a text between two quotes `q`. However it is spelled,
the lexer ends the literal at the closing quote (`Spells.takeText`), and the literal alone is an
expression whose value is the text (`Spells.parse`).
-/

namespace Stencil.Expr

/-- The spellings of a text between quotes `q`: a backslash stands before each backslash and each
such quote; line feeds, tabs and carriage returns may be named by letters. -/
inductive Spells (q : Char) : List Char → List Char → Prop where
  | nil : Spells q [] []
  | plain {c : Char} {text body : List Char} : c ≠ '\\' → c ≠ q → Spells q text body →
      Spells q (c :: text) (c :: body)
  | escaped {c : Char} {text body : List Char} : c = '\\' ∨ c = q → Spells q text body →
      Spells q (c :: text) ('\\' :: c :: body)
  | named {c d : Char} {text body : List Char} : (c, d) ∈ [('\n', 'n'), ('\t', 't'), ('\r', 'r')] →
      Spells q text body → Spells q (c :: text) ('\\' :: d :: body)

open Symbol

/-- The letter of a line feed, tab or carriage return stands for it. -/
theorem unescape_of_named {c d : Char} (h : (c, d) ∈ [('\n', 'n'), ('\t', 't'), ('\r', 'r')]) :
    unescape d = c := by
  simp only [List.mem_cons, Prod.mk.injEq, List.not_mem_nil, or_false] at h
  rcases h with ⟨rfl, rfl⟩ | ⟨rfl, rfl⟩ | ⟨rfl, rfl⟩ <;> rfl

/-- A backslash and a quote stand for themselves. -/
theorem unescape_of_escaped {q c : Char} (hq : q = '"' ∨ q = '\'') (h : c = '\\' ∨ c = q) :
    unescape c = c := by
  rcases h with rfl | rfl
  · rfl
  · rcases hq with rfl | rfl <;> rfl

namespace Symbol

/-- A backslash and what is behind it spell one character. -/
theorem takeText_escape (q c : Char) (cs : List Char) :
    takeText q ('\\' :: c :: cs) = (takeText q cs).map fun (text, spelling, rest) =>
      (unescape c :: text, '\\' :: c :: spelling, rest) := by
  rw [takeText]

/-- Every other character spells itself. -/
theorem takeText_plain {q c : Char} (hc : c ≠ '\\') (hq : c ≠ q) (cs : List Char) :
    takeText q (c :: cs) = (takeText q cs).map fun (text, spelling, rest) =>
      (c :: text, c :: spelling, rest) := by
  rw [takeText, if_neg hc, if_neg hq]
  rintro _ _ rfl
  exact absurd rfl hc

theorem takeText_close {q : Char} (hq : q ≠ '\\') (cs : List Char) :
    takeText q (q :: cs) = some ([], [q], cs) := by
  rw [takeText, if_neg hq, if_pos rfl]
  rintro _ _ rfl
  exact absurd rfl hq

end Symbol

variable {q : Char} {text body : List Char}

theorem ne_backslash_of_quote (hq : q = '"' ∨ q = '\'') : q ≠ '\\' := by
  rcases hq with rfl | rfl <;> decide

/-- The lexer ends the literal at its closing quote, and has read the text by then. -/
theorem Spells.takeText (h : Spells q text body) (hq : q = '"' ∨ q = '\'') (rest : List Char) :
    Symbol.takeText q (body ++ q :: rest) = some (text, body ++ [q], rest) := by
  induction h with
  | nil => exact takeText_close (ne_backslash_of_quote hq) rest
  | plain hc hcq _ ih =>
    rw [List.cons_append, takeText_plain hc hcq, ih]
    rfl
  | escaped hc _ ih =>
    rw [List.cons_append, List.cons_append, takeText_escape, ih, unescape_of_escaped hq hc]
    rfl
  | named hc _ ih =>
    rw [List.cons_append, List.cons_append, takeText_escape, ih, unescape_of_named hc]
    rfl

/-- What starts with a quote is read as a literal. -/
theorem Spells.read? (h : Spells q text body) (hq : q = '"' ∨ q = '\'') (operand : Bool)
    (rest : List Char) :
    Symbol.read? operand q (body ++ q :: rest) =
      .ok (.literal (.text (String.ofList text)), q :: (body ++ [q]), rest) := by
  have hsigns : ∀ cs, signs operand q cs = false := by
    intro cs
    rcases hq with rfl | rfl <;> cases operand <;> rfl
  have hoperator : ∀ cs, operator? (q :: cs) = none := by
    intro cs
    rcases hq with rfl | rfl <;> rfl
  have hdigit : q.isDigit = false := by rcases hq with rfl | rfl <;> rfl
  have hne : q ≠ '(' ∧ q ≠ ')' ∧ q ≠ ',' ∧ q ≠ '!' := by rcases hq with rfl | rfl <;> decide
  have hquote : (decide (q = '"') || decide (q = '\'')) = true := by simpa using hq
  rw [Symbol.read?, if_neg hne.1, if_neg hne.2.1, if_neg hne.2.2.1, hsigns, if_neg (by decide),
    hoperator, if_neg hne.2.2.2, hdigit, if_neg (by decide), if_pos hquote, h.takeText hq]

/-! ## The literal alone -/

namespace Lexemes

/-- At the end of the text the scan is finished. -/
theorem scan_nil {previous : Option Symbol} (h : property? previous [] = none) (offset : Nat) :
    scan previous offset [] = ⟨[], .finish offset⟩ := by
  rw [scan]
  split
  · next hsome => cases h.symm.trans hsome
  · rfl

/-- The first lexeme where no blanks stand in front of it. -/
theorem scan_cons (previous : Option Symbol) {c : Char} {cs spelling rest : List Char}
    {x : Symbol} (hproperty : property? previous (c :: cs) = none) (hc : Text.isBlank c = false)
    (hread : Symbol.read? (expectsOperand previous) c cs = .ok (x, spelling, rest))
    (offset : Nat) :
    scan previous offset (c :: cs) =
      ⟨⟨x, spelling, offset⟩ :: (scan (some x) (offset + Text.size spelling) rest).items,
        (scan (some x) (offset + Text.size spelling) rest).ending⟩ := by
  have htrim : Text.trimStart (c :: cs) = c :: cs := by
    rw [Text.trimStart, List.dropWhile_cons_of_neg (by simp [hc])]
  have hblanks : (c :: cs).takeWhile Text.isBlank = [] := by
    rw [List.takeWhile_cons_of_neg (by simp [hc])]
  -- the four ways of a scan, of which only reading a symbol is left
  rw [scan]
  split
  · next hsome => cases hproperty.symm.trans hsome
  · split
    · next hnil => cases htrim.symm.trans hnil
    · next hcons =>
      cases htrim.symm.trans hcons
      split
      · next herror => cases hread.symm.trans herror
      · next hok =>
        cases hread.symm.trans hok
        rw [hblanks]
        rfl

end Lexemes

theorem isBlank_of_quote (hq : q = '"' ∨ q = '\'') : Text.isBlank q = false := by
  rcases hq with rfl | rfl <;> decide

/-- The literal is an expression of its own, and its value is the text. -/
theorem Spells.parse (h : Spells q text body) (hq : q = '"' ∨ q = '\'') :
    Postfix.parse (String.ofList (q :: (body ++ [q]))) =
      .ok [.literal (.text (String.ofList text))] := by
  have hread := h.read? hq true []
  have hscan : Lexemes.scan none 0 (q :: (body ++ [q])) = _ :=
    Lexemes.scan_cons none rfl (isBlank_of_quote hq) hread 0
  rw [Lexemes.scan_nil rfl] at hscan
  rw [Postfix.parse, Phrase.parse, String.toList_ofList, Lexemes.ofChars, hscan]
  rfl

end Stencil.Expr
