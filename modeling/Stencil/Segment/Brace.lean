import Stencil.Expr.Name
import Stencil.Segment.Basic

/-!
# Stencil.Segment.Brace — directives by their braces

A directive is written `{`, a marker or none, `{`, its content, `}`, modifiers, `}`.
The content holds no braces outside text literals; a modifier is `|`, a name and an
optional list of arguments in balanced parentheses. A brace that starts no complete
directive is text.

`split` cuts a text into directives and the runs of text between them; what stands
inside a directive is left as it is. Nothing is lost (`split_spelling`), and no two runs
of text are neighbours.
-/

namespace Stencil.Segment

/-- A modifier as it is written. -/
structure RawModifier where
  name : Span
  /-- What stands between the parentheses, if there are any. -/
  args : Option Span
deriving DecidableEq, Repr

/-- A directive as it is written. -/
structure RawDirective where
  start : Position
  kind : Kind
  /-- What stands between the inner braces. -/
  content : Span
  modifiers : List RawModifier
  /-- All of it, from the first brace to the last. -/
  spelling : List Char
deriving DecidableEq, Repr

/-- A run of text or a directive. -/
inductive Piece where
  | text (s : Span)
  | directive (d : RawDirective)
deriving DecidableEq, Repr

/-- The characters of a piece. -/
def Piece.spelling : Piece → List Char
  | text s => s.text
  | directive d => d.spelling

/-! ## Parts of a directive -/

/-- The blanks that may stand between the parts of a directive. -/
def isGap (c : Char) : Bool :=
  c == ' ' || c == '\t' || c == '\n' || c == '\r' || c.toNat == 0x0C

/-- Whether the character starts and ends text literals. -/
def isQuote (c : Char) : Bool := c == '"' || c == '\''

/-- Reads content up to its closing brace: the content, and what stands behind the brace.
`quote` is the quote of the text literal the reader is in. -/
def takeContent (quote : Option Char) : List Char → Option (List Char × List Char)
  | [] => none
  | c :: cs =>
    match quote with
    | some q =>
      if c = '\\' then
        match cs with
        | [] => none
        | d :: cs => (takeContent (some q) cs).map fun (t, rest) => (c :: d :: t, rest)
      else
        (takeContent (if c = q then none else some q) cs).map fun (t, rest) => (c :: t, rest)
    | none =>
      if c = '\x7d' then some ([], cs)
      else if c = '\x7b' then none
      else
        (takeContent (if isQuote c then some c else none) cs).map fun (t, rest) =>
          (c :: t, rest)

/-- Reads arguments up to the parenthesis that closes them: the arguments, and what stands
behind the parenthesis. `depth` parentheses are open inside them. -/
def takeArguments (depth : Nat) (quote : Option Char) :
    List Char → Option (List Char × List Char)
  | [] => none
  | c :: cs =>
    match quote with
    | some q =>
      if c = '\\' then
        match cs with
        | [] => none
        | d :: cs => (takeArguments depth (some q) cs).map fun (t, rest) => (c :: d :: t, rest)
      else
        (takeArguments depth (if c = q then none else some q) cs).map fun (t, rest) =>
          (c :: t, rest)
    | none =>
      if c = '\x7b' ∨ c = '\x7d' then none
      else if c = ')' ∧ depth = 0 then some ([], cs)
      else
        let depth := if c = '(' then depth + 1 else if c = ')' then depth - 1 else depth
        (takeArguments depth (if isQuote c then some c else none) cs).map fun (t, rest) =>
          (c :: t, rest)

/-- The content, its closing brace and what is behind it make up what was there. -/
theorem takeContent_append {quote : Option Char} {cs content rest : List Char}
    (h : takeContent quote cs = some (content, rest)) : content ++ '\x7d' :: rest = cs := by
  fun_induction takeContent quote cs generalizing content rest with
  | case1 => cases h
  | case2 => cases h
  | case3 q d cs ih =>
    obtain ⟨⟨t, r⟩, ht, heq⟩ := Option.map_eq_some_iff.1 h
    cases heq
    simp [ih ht]
  | case4 c cs q hc ih =>
    obtain ⟨⟨t, r⟩, ht, heq⟩ := Option.map_eq_some_iff.1 h
    cases heq
    simp [ih ht]
  | case5 cs => cases h; rfl
  | case6 => cases h
  | case7 c cs _ _ ih =>
    obtain ⟨⟨t, r⟩, ht, heq⟩ := Option.map_eq_some_iff.1 h
    cases heq
    simp [ih ht]

/-- Arguments, the parenthesis that closes them and what is behind it make up what was there. -/
theorem takeArguments_append {depth : Nat} {quote : Option Char} {cs args rest : List Char}
    (h : takeArguments depth quote cs = some (args, rest)) : args ++ ')' :: rest = cs := by
  fun_induction takeArguments depth quote cs generalizing args rest with
  -- at each character, as in the reader: nothing left, a quote that ends, a backslash, a
  -- parenthesis
  | case1 => cases h
  | case2 => cases h
  | case3 depth q d cs ih =>
    obtain ⟨⟨t, r⟩, ht, heq⟩ := Option.map_eq_some_iff.1 h
    cases heq
    simp [ih ht]
  | case4 depth c cs q hc ih =>
    obtain ⟨⟨t, r⟩, ht, heq⟩ := Option.map_eq_some_iff.1 h
    cases heq
    simp [ih ht]
  | case5 => cases h
  | case6 depth c cs _ hc => cases h; simp [hc.1]
  | case7 =>
    rename_i ih
    obtain ⟨⟨t, r⟩, ht, heq⟩ := Option.map_eq_some_iff.1 h
    cases heq
    simp [ih ht]

/-- Reads a modifier behind its bar, where the text starts at `p`: the modifier, its spelling
and the rest. -/
def takeModifier? (p : Position) (cs : List Char) :
    Option (RawModifier × List Char × List Char) :=
  let gap := cs.takeWhile isGap
  let body := cs.dropWhile isGap
  let name := body.takeWhile Expr.Name.isBody
  let behind := body.dropWhile Expr.Name.isBody
  if Expr.Name.startsIdent body then
    match behind.dropWhile isGap with
    | '(' :: inside =>
      let lead := gap ++ name ++ behind.takeWhile isGap ++ ['(']
      match takeArguments 0 none inside with
      | some (args, rest) =>
        some (⟨⟨p.past gap, name⟩, some ⟨p.past lead, args⟩⟩, lead ++ args ++ [')'], rest)
      | none => none
    | _ => some (⟨⟨p.past gap, name⟩, none⟩, gap ++ name, behind)
  else none

/-- The spelling of a modifier and what is behind it make up what was there. -/
theorem takeModifier?_append {p : Position} {cs spelling rest : List Char} {m : RawModifier}
    (h : takeModifier? p cs = some (m, spelling, rest)) : spelling ++ rest = cs := by
  simp only [takeModifier?] at h
  split at h
  · split at h
    · next inside hin =>
      split at h
      · next args rest' hargs =>
        have ha := takeArguments_append hargs
        cases h
        simp only [List.append_assoc, List.cons_append, List.nil_append, ha, ← hin,
          List.takeWhile_append_dropWhile]
      · cases h
    · cases h
      simp only [List.append_assoc, List.takeWhile_append_dropWhile]
  · cases h

/-- Reads modifiers up to the brace that closes the directive, where the text starts at `p`:
the modifiers, their spelling with the brace, and the rest. -/
def takeModifiers? (p : Position) (cs : List Char) :
    Option (List RawModifier × List Char × List Char) :=
  let gap := cs.takeWhile isGap
  match _hc : cs.dropWhile isGap with
  | [] => none
  | c :: body =>
    if c = '\x7d' then some ([], gap ++ [c], body)
    else if c = '|' then
      match _hm : takeModifier? (p.past (gap ++ [c])) body with
      | none => none
      | some (m, spelling, rest) =>
        let lead := gap ++ c :: spelling
        (takeModifiers? (p.past lead) rest).map fun (ms, more, rest) =>
          (m :: ms, lead ++ more, rest)
    else none
termination_by cs.length
decreasing_by
  have h₁ := congrArg List.length (takeModifier?_append _hm)
  have h₂ := (List.dropWhile_suffix (l := cs) isGap).length_le
  rw [_hc] at h₂
  simp only [List.length_append, List.length_cons] at h₁ h₂
  omega

/-- The spelling of all modifiers and what is behind it make up what was there. -/
theorem takeModifiers?_append {p : Position} {cs spelling rest : List Char}
    {ms : List RawModifier} (h : takeModifiers? p cs = some (ms, spelling, rest)) :
    spelling ++ rest = cs := by
  fun_induction takeModifiers? p cs generalizing ms spelling rest with
  | case1 => cases h
  | case2 p cs gap body =>
    rename_i hc
    cases h
    simp only [List.append_assoc, List.cons_append, List.nil_append, gap, ← hc,
      List.takeWhile_append_dropWhile]
  | case3 => cases h
  | case4 p cs gap body m spelling' rest' hc _ hm =>
    rename_i lead ih
    obtain ⟨⟨ms', more, rest''⟩, hrest, heq⟩ := Option.map_eq_some_iff.1 h
    cases heq
    have hr := ih hrest
    have hsp := takeModifier?_append hm
    simp only [lead, gap, List.append_assoc, List.cons_append, hr, hsp, ← hc,
      List.takeWhile_append_dropWhile]
  | case5 => cases h

/-! ## Directives and texts -/

/-- Reads a directive behind its first brace, which stands at `p`. -/
def takeDirective? (p : Position) (cs : List Char) : Option (RawDirective × List Char) :=
  let (kind, marker, body) :=
    match cs with
    | c :: body =>
      match Kind.ofMarker? c with
      | some kind => (kind, [c], body)
      | none => (.output, [], cs)
    | [] => (.output, [], cs)
  match body with
  | '\x7b' :: inside =>
    match takeContent none inside with
    | none => none
    | some (content, behind) =>
      let lead := '\x7b' :: marker ++ ['\x7b']
      (takeModifiers? (p.past (lead ++ content ++ ['\x7d'])) behind).map fun (ms, more, rest) =>
        (⟨p, kind, ⟨p.past lead, content⟩, ms, lead ++ content ++ '\x7d' :: more⟩, rest)
  | _ => none

/-- The spelling of a directive and what is behind it make up what was there, from the brace on. -/
theorem takeDirective?_append {p : Position} {cs rest : List Char} {d : RawDirective}
    (h : takeDirective? p cs = some (d, rest)) : d.spelling ++ rest = '\x7b' :: cs := by
  -- all kinds but outputs have a marker and a second brace, and are read alike from there on
  have marked : ∀ (kind : Kind) (marker body : List Char), marker ++ body = cs →
      (match body with
        | '\x7b' :: inside =>
          match takeContent none inside with
          | none => none
          | some (content, behind) =>
            let lead := '\x7b' :: marker ++ ['\x7b']
            (takeModifiers? (p.past (lead ++ content ++ ['\x7d'])) behind).map
              fun (ms, more, rest) =>
                ((⟨p, kind, ⟨p.past lead, content⟩, ms, lead ++ content ++ '\x7d' :: more⟩ :
                  RawDirective), rest)
        | _ => none) = some (d, rest) → d.spelling ++ rest = '\x7b' :: cs := by
    intro kind marker body hcs h
    split at h
    · next inside =>
      split at h
      · cases h
      · next content behind hcon =>
        obtain ⟨⟨ms, more, rest'⟩, hms, heq⟩ := Option.map_eq_some_iff.1 h
        cases heq
        have hm := takeModifiers?_append hms
        have hc := takeContent_append hcon
        simp only [List.cons_append, List.append_assoc, List.nil_append, hm, hc, hcs]
    · cases h
  unfold takeDirective? at h
  split at h
  next kind marker body heq =>
  refine marked kind marker body ?_ h
  split at heq
  · split at heq <;> cases heq <;> rfl
  · cases heq; rfl

/-- Puts one character, which stands at `p`, in front of the pieces behind it. -/
def consText (p : Position) (c : Char) : List Piece → List Piece
  | .text s :: pieces => .text ⟨p, c :: s.text⟩ :: pieces
  | pieces => .text ⟨p, [c]⟩ :: pieces

/-- The pieces of a text that starts at `p`. -/
def splitAt (p : Position) (cs : List Char) : List Piece :=
  match cs with
  | [] => []
  | c :: cs =>
    if c = '\x7b' then
      match _hd : takeDirective? p cs with
      | some (d, rest) => .directive d :: splitAt (p.past d.spelling) rest
      | none => consText p c (splitAt (p.advance c) cs)
    else consText p c (splitAt (p.advance c) cs)
termination_by cs.length
decreasing_by
  · have hsp : d.spelling ≠ [] := by
      intro hnil
      have := _hd
      simp only [takeDirective?] at this
      split at this
      · split at this
        · cases this
        · obtain ⟨⟨ms, more, rest'⟩, _, heq⟩ := Option.map_eq_some_iff.1 this
          cases heq
          simp at hnil
      · cases this
    have := congrArg List.length (takeDirective?_append _hd)
    have := List.length_pos_iff.2 hsp
    simp only [List.length_append, List.length_cons] at *
    omega
  · simp
  · simp

/-- The pieces of a template text. -/
def split (cs : List Char) : List Piece := splitAt .start cs

/-- A character put in front of a text, or before a directive, is spelled in front of what was
there. -/
theorem consText_spelling (p : Position) (c : Char) (pieces : List Piece) :
    (consText p c pieces).flatMap Piece.spelling = c :: pieces.flatMap Piece.spelling := by
  unfold consText
  split <;> rfl

/-- A split loses no character, and adds none. -/
theorem splitAt_spelling (p : Position) (cs : List Char) :
    (splitAt p cs).flatMap Piece.spelling = cs := by
  fun_induction splitAt p cs with
  | case1 => rfl
  | case2 p cs d rest hd ih =>
    rw [List.flatMap_cons, ih]
    exact takeDirective?_append hd
  | case3 p cs _ ih => rw [consText_spelling, ih]
  | case4 p c cs _ ih => rw [consText_spelling, ih]

theorem split_spelling (cs : List Char) : (split cs).flatMap Piece.spelling = cs :=
  splitAt_spelling .start cs

end Stencil.Segment
