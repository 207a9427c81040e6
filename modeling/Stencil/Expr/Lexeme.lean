import Stencil.Decimal.Reading
import Stencil.Expr.Error
import Stencil.Expr.Name
import Stencil.Text.Blank
import Stencil.Text.Size

/-!
# Stencil.Expr.Lexeme — the lexemes of an expression

`Lexemes.ofChars` cuts a text into symbols, each with its spelling and byte offset,
up to its end or to the first place where no symbol starts.

Reading depends on the symbol before: a sign belongs to the digits after it only where
an operand is expected, and a dotted name right behind `)` is a property of a call's
result.

Every symbol is read off the front of the text with nothing lost
(`Symbol.read?_append`) and is spelled with at least one character
(`Symbol.read?_ne_nil`), so the text bounds the number of lexemes.
-/

namespace Stencil.Expr

/-- What a lexeme says. -/
inductive Symbol where
  | literal (l : Literal)
  | path (p : String)
  /-- A dotted name that stands right behind `)`, without its first dot. -/
  | property (p : String)
  | operator (op : Operator)
  | negate (n : Negation)
  | opening
  | closing
  | separator

namespace Symbol

/-- What the symbol is to the grammar. -/
def role : Symbol → Role
  | literal _ => .literal
  | path _ | property _ => .reference
  | operator _ => .operator
  | negate _ => .negation
  | opening => .opening
  | closing => .closing
  | separator => .separator

/-- Whether an operand is expected after the symbol; `none` is the start of the text. -/
def expectsOperand : Option Symbol → Bool
  | none | some (operator _) | some (negate _) | some opening | some separator => true
  | some (literal _) | some (path _) | some (property _) | some closing => false

/-! ## Numbers and texts -/

/-- The fraction of a numeral: a point and the digits behind it, if there are any. -/
def takeFraction : List Char → List Char × List Char
  | '.' :: cs =>
    if cs.takeWhile Char.isDigit = [] then ([], '.' :: cs)
    else ('.' :: cs.takeWhile Char.isDigit, cs.dropWhile Char.isDigit)
  | cs => ([], cs)

/-- Whether there is a fraction or not, no character is lost. -/
theorem takeFraction_append (cs : List Char) :
    (takeFraction cs).1 ++ (takeFraction cs).2 = cs := by
  unfold takeFraction
  split
  · split <;> simp
  · simp

/-- The unsigned numeral at the front of the text: digits and an optional fraction. -/
def takeNumeral (negative : Bool) (cs : List Char) : Float × List Char × List Char :=
  let whole := cs.takeWhile Char.isDigit
  let (fraction, rest) := takeFraction (cs.dropWhile Char.isDigit)
  ((Decimal.Numeral.ofParts negative whole (fraction.drop 1) 0).toFloat, whole ++ fraction, rest)

/-- What a character behind a backslash stands for: `n`, `t` and `r` for the control characters
of those names, any other for itself. -/
def unescape (c : Char) : Char :=
  if c = 'n' then '\n' else if c = 't' then '\t' else if c = 'r' then '\r' else c

/-- Reads a text literal behind its opening quote: its value, its spelling with the closing
quote, and the rest. -/
def takeText (quote : Char) : List Char → Option (List Char × List Char × List Char)
  | [] => none
  | '\\' :: c :: cs =>
    (takeText quote cs).map fun (text, spelling, rest) =>
      (unescape c :: text, '\\' :: c :: spelling, rest)
  | c :: cs =>
    if c = '\\' then none
    else if c = quote then some ([], [c], cs)
    else (takeText quote cs).map fun (text, spelling, rest) => (c :: text, c :: spelling, rest)

/-- A literal and what is behind it make up what was there. -/
theorem takeText_append {quote : Char} {cs text spelling rest : List Char}
    (h : takeText quote cs = some (text, spelling, rest)) : spelling ++ rest = cs := by
  fun_induction takeText quote cs generalizing text spelling rest with
  | case1 => simp at h
  -- a backslash takes the character behind it along, whatever that is
  | case2 c cs ih =>
    obtain ⟨⟨t, s, r⟩, hcs, heq⟩ := Option.map_eq_some_iff.1 h
    simp only [Prod.mk.injEq] at heq
    rw [← heq.2.1, ← heq.2.2, List.cons_append, List.cons_append, ih hcs]
  | case3 => simp at h
  | case4 =>
    simp only [Option.some.injEq, Prod.mk.injEq] at h
    rw [← h.2.1, ← h.2.2, List.singleton_append]
  | case5 c cs _ _ _ ih =>
    obtain ⟨⟨t, s, r⟩, hcs, heq⟩ := Option.map_eq_some_iff.1 h
    simp only [Prod.mk.injEq] at heq
    rw [← heq.2.1, ← heq.2.2, List.cons_append, ih hcs]

/-! ## One symbol -/

/-- A symbol, its spelling, and the text behind it. -/
abbrev Cut := Symbol × List Char × List Char

/-- The operator whose symbol starts the text, the longest first. -/
def operator? (cs : List Char) : Option Operator :=
  Operator.all.find? fun op => op.symbol.toList.isPrefixOf cs

/-- The word or path at the front of the text. -/
def word? (cs : List Char) : Option Cut :=
  (Name.takePath? cs).map fun (taken, rest) =>
    let spelling := String.ofList taken
    match Reserved.ofWord? spelling with
    | some r => (literal (.reserved r), taken, rest)
    | none => (path spelling, taken, rest)

/-- Whether a sign that starts the text belongs to the number behind it. -/
def signs (operand : Bool) (c : Char) (cs : List Char) : Bool :=
  operand && (c == '-' || c == '+') && (match cs with | d :: _ => d.isDigit | [] => false)

/-- Reads the symbol at the front of a text that starts with `c`, where `operand` tells
whether an operand is expected. -/
def read? (operand : Bool) (c : Char) (cs : List Char) : Except Fault Cut :=
  if c = '(' then .ok (opening, [c], cs)
  else if c = ')' then .ok (closing, [c], cs)
  else if c = ',' then .ok (separator, [c], cs)
  else if signs operand c cs then
    let (n, spelling, rest) := takeNumeral (c == '-') cs
    .ok (literal (.number n), c :: spelling, rest)
  else
    match operator? (c :: cs) with
    | some op =>
      let spelling := op.symbol.toList
      .ok (operator op, spelling, (c :: cs).drop spelling.length)
    | none =>
      if c = '!' then
        let run := c :: cs.takeWhile (· == '!')
        .ok (negate (Negation.ofRun run.length), run, cs.dropWhile (· == '!'))
      else if c.isDigit then
        let (n, spelling, rest) := takeNumeral false (c :: cs)
        .ok (literal (.number n), spelling, rest)
      else if c = '"' || c = '\'' then
        match takeText c cs with
        | some (text, spelling, rest) =>
          .ok (literal (.text (String.ofList text)), c :: spelling, rest)
        | none => .error .unterminated
      else
        match word? (c :: cs) with
        | some cut => .ok cut
        | none => .error (.character c)

/-- A numeral and what is behind it make up what was there. -/
theorem takeNumeral_append (negative : Bool) (cs : List Char) :
    (takeNumeral negative cs).2.1 ++ (takeNumeral negative cs).2.2 = cs := by
  have h := takeFraction_append (cs.dropWhile Char.isDigit)
  simp only [takeNumeral, List.append_assoc, h, List.takeWhile_append_dropWhile]

/-- An operator is found where its symbol stands. -/
theorem operator?_append {cs : List Char} {op : Operator} (h : operator? cs = some op) :
    op.symbol.toList ++ cs.drop op.symbol.toList.length = cs := by
  have hp : op.symbol.toList.isPrefixOf cs = true := by
    have := List.find?_some h
    exact this
  obtain ⟨t, rfl⟩ := List.isPrefixOf_iff_prefix.1 hp
  simp

/-- A path and what is behind it make up what was there, reserved words included. -/
theorem word?_append {cs : List Char} {cut : Cut} (h : word? cs = some cut) :
    cut.2.1 ++ cut.2.2 = cs := by
  obtain ⟨⟨taken, rest⟩, hp, rfl⟩ := Option.map_eq_some_iff.1 h
  have := Name.takePath?_append hp
  dsimp only
  split <;> exact this

/-- Nothing is lost in reading a symbol. -/
theorem read?_append {operand : Bool} {c : Char} {cs : List Char} {cut : Cut}
    (h : read? operand c cs = .ok cut) : cut.2.1 ++ cut.2.2 = c :: cs := by
  unfold read? at h
  split at h
  · cases h; rfl
  split at h
  · cases h; rfl
  split at h
  · cases h; rfl
  split at h
  · cases h; exact congrArg (c :: ·) (takeNumeral_append (c == '-') cs)
  split at h
  · next op hop => cases h; exact operator?_append hop
  split at h
  · cases h; simp
  split at h
  · cases h; exact takeNumeral_append false (c :: cs)
  split at h
  · split at h
    · next hx => cases h; simp [takeText_append hx]
    · cases h
  split at h
  · next hw => cases h; exact word?_append hw
  · cases h

theorem operator_symbol_ne_nil (op : Operator) : op.symbol.toList ≠ [] := by
  cases op <;> decide

/-- A symbol is spelled with at least one character. -/
theorem read?_ne_nil {operand : Bool} {c : Char} {cs : List Char} {cut : Cut}
    (h : read? operand c cs = .ok cut) : cut.2.1 ≠ [] := by
  unfold read? at h
  split at h
  · cases h; simp
  split at h
  · cases h; simp
  split at h
  · cases h; simp
  split at h
  · cases h; simp
  split at h
  · next op hop => cases h; exact operator_symbol_ne_nil op
  split at h
  · cases h; simp
  split at h
  · next hd => cases h; simp [hd]
  split at h
  · split at h
    · cases h; simp
    · cases h
  split at h
  · next hw =>
    cases h
    obtain ⟨⟨taken, rest⟩, hp, rfl⟩ := Option.map_eq_some_iff.1 hw
    have := Name.takePath?_ne_nil hp
    dsimp only
    split <;> exact this
  · cases h

/-- With every symbol that is read, less is left to read. -/
theorem read?_length {operand : Bool} {c : Char} {cs : List Char} {x : Symbol}
    {spelling rest : List Char} (h : read? operand c cs = .ok (x, spelling, rest)) :
    rest.length < (c :: cs).length := by
  have ha := congrArg List.length (read?_append h)
  have hn := List.length_pos_iff.2 (read?_ne_nil h)
  simp only [List.length_append] at ha hn
  omega

/-- The property that stands right behind a closing parenthesis. -/
def property? (previous : Option Symbol) (cs : List Char) : Option (List Char × List Char) :=
  match previous with
  | some closing => Name.takeProperty? cs
  | _ => none

/-- A property, its dot and what is behind it make up what was there. -/
theorem property?_append {previous : Option Symbol} {cs taken rest : List Char}
    (h : property? previous cs = some (taken, rest)) : '.' :: (taken ++ rest) = cs := by
  unfold property? at h
  split at h
  · exact Name.takeProperty?_append h
  · cases h

end Symbol

/-! ## All symbols -/

/-- A symbol with its spelling, at a byte offset. -/
structure Lexeme where
  symbol : Symbol
  spelling : List Char
  offset : Nat

/-- Where the lexemes of a text stop: at its end, or where no lexeme starts. -/
inductive Ending where
  | finish (offset : Nat)
  | fault (e : Error)

/-- The lexemes of a text up to its ending. -/
structure Lexemes where
  items : List Lexeme
  ending : Ending

namespace Lexemes

/-- The lexemes of `cs`, which stands `offset` bytes into its text, behind `previous`. -/
def scan (previous : Option Symbol) (offset : Nat) (cs : List Char) : Lexemes :=
  match hp : Symbol.property? previous cs with
  | some (taken, rest) =>
    let x := Symbol.property (String.ofList taken)
    let after := scan (some x) (offset + 1 + Text.size taken) rest
    ⟨⟨x, '.' :: taken, offset⟩ :: after.items, after.ending⟩
  | none =>
    let start := offset + Text.size (cs.takeWhile Text.isBlank)
    match _ht : Text.trimStart cs with
    | [] => ⟨[], .finish start⟩
    | c :: body =>
      match _hr : Symbol.read? (Symbol.expectsOperand previous) c body with
      | .error f => ⟨[], .fault ⟨f, start⟩⟩
      | .ok (x, spelling, rest) =>
        let after := scan (some x) (start + Text.size spelling) rest
        ⟨⟨x, spelling, start⟩ :: after.items, after.ending⟩
termination_by cs.length
decreasing_by
  · have := congrArg List.length (Symbol.property?_append hp)
    simp only [List.length_cons, List.length_append] at this
    omega
  · have h₁ := Symbol.read?_length _hr
    have h₂ := (List.dropWhile_suffix (l := cs) Text.isBlank).length_le
    rw [show cs.dropWhile Text.isBlank = c :: body from _ht] at h₂
    omega

/-- The lexemes of a whole text. -/
def ofChars (cs : List Char) : Lexemes := scan none 0 cs

end Lexemes

end Stencil.Expr
