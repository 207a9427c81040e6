import Stencil.Proofs.Text.Bytes
import Stencil.Segment.Brace

/-!
# Stencil.Proofs.Segment.Grammar — the brace grammar over bytes

The directives of `Stencil.Segment.Brace` as a grammar of bytes, told without a reader:
`IsDirective` relates the bytes of a directive to its kind, its content and its modifiers. A
backslash in a literal takes the byte behind it along, which may be the first of several that
make up one character.

`Grammar.content?` and `Grammar.arguments?` look for the end of contents and of arguments byte
by byte. They end where the grammar says (`content?_eq_some_iff`, `arguments?_eq_some_iff`). What
both do inside of literals is said once, in `ReadsLiterals`.
-/

namespace Stencil.Segment

open Text

/-! ## Characters that count -/

/-- Quotes are ASCII characters. -/
theorem isAscii_of_isQuote {c : Char} (h : isQuote c = true) : IsAscii c := by
  simp only [isQuote, Bool.or_eq_true, beq_iff_eq] at h
  rcases h with rfl | rfl <;> decide

/-- So are the blanks between parts of a directive. -/
theorem isAscii_of_isGap {c : Char} (h : isGap c = true) : IsAscii c := by
  simp only [isGap, Bool.or_eq_true, beq_iff_eq] at h
  rcases h with (((rfl | rfl) | rfl) | rfl) | h
  · decide
  · decide
  · decide
  · decide
  · exact Nat.lt_of_le_of_lt (Nat.le_of_eq h) (by decide)

theorem isAscii_of_isBody {c : Char} (h : Expr.Name.isBody c = true) : IsAscii c := by
  delta Expr.Name.isBody Char.isAlphanum Char.isAlpha Char.isUpper Char.isLower Char.isDigit at h
  simp only [Bool.or_eq_true, Bool.and_eq_true, decide_eq_true_eq, beq_iff_eq,
    UInt32.le_iff_toNat_le] at h
  unfold IsAscii
  rcases h with ((h | h) | h) | rfl
  · exact Nat.lt_of_le_of_lt h.2 (by decide)
  · exact Nat.lt_of_le_of_lt h.2 (by decide)
  · exact Nat.lt_of_le_of_lt h.2 (by decide)
  · decide

namespace Grammar

/-- What a literal that `q` opened goes on with, up to and with the quote that closes it. -/
inductive IsLiteral (q : UInt8) : List UInt8 → Prop where
  | close : IsLiteral q [q]
  | escape (b : UInt8) {bs : List UInt8} : IsLiteral q bs → IsLiteral q ('\\'.toUInt8 :: b :: bs)
  | byte {b : UInt8} {bs : List UInt8} : b ≠ '\\'.toUInt8 → b ≠ q → IsLiteral q bs →
      IsLiteral q (b :: bs)

/-- Content: braces stand in literals only. -/
inductive IsContent : List UInt8 → Prop where
  | nil : IsContent []
  | byte {b : UInt8} {bs : List UInt8} : isQuote b.toChar = false → b ≠ '\x7b'.toUInt8 →
      b ≠ '\x7d'.toUInt8 → IsContent bs → IsContent (b :: bs)
  | literal {q : UInt8} {bs cs : List UInt8} : isQuote q.toChar = true → IsLiteral q bs →
      IsContent cs → IsContent (q :: (bs ++ cs))

/-- Arguments: outside of literals there are no braces, and the parentheses are balanced. -/
inductive IsArguments : List UInt8 → Prop where
  | nil : IsArguments []
  | byte {b : UInt8} {bs : List UInt8} : isQuote b.toChar = false → b ≠ '\x7b'.toUInt8 →
      b ≠ '\x7d'.toUInt8 → b ≠ '('.toUInt8 → b ≠ ')'.toUInt8 → IsArguments bs →
      IsArguments (b :: bs)
  | literal {q : UInt8} {bs cs : List UInt8} : isQuote q.toChar = true → IsLiteral q bs →
      IsArguments cs → IsArguments (q :: (bs ++ cs))
  | group {bs cs : List UInt8} : IsArguments bs → IsArguments cs →
      IsArguments ('('.toUInt8 :: (bs ++ ')'.toUInt8 :: cs))

/-- Blanks, or nothing. -/
def IsGap (bs : List UInt8) : Prop := ∀ b ∈ bs, isGap b.toChar = true

/-- The name of a modifier. -/
inductive IsName : List UInt8 → Prop where
  | intro {b : UInt8} {bs : List UInt8} : Expr.Name.isHead b.toChar = true →
      (∀ x ∈ bs, Expr.Name.isBody x.toChar = true) → IsName (b :: bs)

/-- A modifier behind its bar, with its name and its arguments. -/
inductive IsModifier : List UInt8 × Option (List UInt8) → List UInt8 → Prop where
  | bare {gap name : List UInt8} : IsGap gap → IsName name → IsModifier (name, none) (gap ++ name)
  | call {gap name gap' args : List UInt8} : IsGap gap → IsName name → IsGap gap' →
      IsArguments args →
      IsModifier (name, some args) (gap ++ (name ++ (gap' ++ '('.toUInt8 :: (args ++ [')'.toUInt8]))))

/-- The modifiers of a directive, up to and with the brace that closes it. -/
inductive IsModifiers : List (List UInt8 × Option (List UInt8)) → List UInt8 → Prop where
  | close {gap : List UInt8} : IsGap gap → IsModifiers [] (gap ++ ['\x7d'.toUInt8])
  | cons {gap bs cs : List UInt8} {m : List UInt8 × Option (List UInt8)}
      {ms : List (List UInt8 × Option (List UInt8))} : IsGap gap → IsModifier m bs →
      IsModifiers ms cs → IsModifiers (m :: ms) (gap ++ '|'.toUInt8 :: (bs ++ cs))

/-- What stands between the two braces that open a directive of the kind. -/
inductive IsMarker : Kind → List UInt8 → Prop where
  | none : IsMarker .output []
  | some {c : Char} {kind : Kind} : Kind.ofMarker? c = some kind → IsMarker kind [c.toUInt8]

/-- A complete directive with its kind, its content and its modifiers, from its first brace to its
last. -/
inductive IsDirective (kind : Kind) (content : List UInt8)
    (ms : List (List UInt8 × Option (List UInt8))) : List UInt8 → Prop where
  | intro {marker more : List UInt8} : IsMarker kind marker → IsContent content →
      IsModifiers ms more →
      IsDirective kind content ms ('\x7b'.toUInt8 :: (marker ++ '\x7b'.toUInt8 ::
        (content ++ '\x7d'.toUInt8 :: more)))

/-- The bytes start with a complete directive. -/
def BeginsDirective (bs : List UInt8) : Prop :=
  ∃ kind content ms directive rest, IsDirective kind content ms directive ∧ bs = directive ++ rest

/-! ## Inside a literal -/

/-- A quote is none of the other characters that count. -/
theorem ne_of_isQuote {q : UInt8} (hq : isQuote q.toChar = true) (c : Char)
    (hc : isQuote c.toUInt8.toChar = false) : q ≠ c.toUInt8 := by
  rintro rfl
  rw [hq] at hc
  cases hc

/-- A byte of a character that is not ASCII is none of those that count. -/
theorem ne_of_le {b : UInt8} (hb : 128 ≤ b.toNat) {c : Char} (hc : IsAscii c) : b ≠ c.toUInt8 := by
  rintro rfl
  rw [Utf8.toNat_toUInt8 hc] at hb
  exact Nat.not_lt.2 hb hc

theorem isQuote_of_le {b : UInt8} (hb : 128 ≤ b.toNat) : isQuote b.toChar = false := by
  refine Bool.eq_false_iff.2 fun h => Nat.not_lt.2 hb ?_
  rw [← Utf8.toNat_toChar]
  exact isAscii_of_isQuote h

/-- What a search does inside of the literals of a text, where their quote is given to it, and
with the bytes of characters that are not ASCII. -/
structure ReadsLiterals (search : Option UInt8 → List UInt8 → Option (List UInt8)) : Prop where
  escape : ∀ q b bs, search (some q) ('\\'.toUInt8 :: b :: bs) = search (some q) bs
  byte : ∀ q {b}, b ≠ '\\'.toUInt8 → ∀ bs,
    search (some q) (b :: bs) = search (if b = q then none else some q) bs
  high : ∀ {b : UInt8}, 128 ≤ b.toNat → ∀ bs, search none (b :: bs) = search none bs

namespace ReadsLiterals

variable {search : Option UInt8 → List UInt8 → Option (List UInt8)} (hs : ReadsLiterals search)

include hs

/-- A literal is passed as a whole. -/
theorem literal {q : UInt8} (hq : isQuote q.toChar = true) {w : List UInt8} (h : IsLiteral q w)
    (bs : List UInt8) : search (some q) (w ++ bs) = search none bs := by
  induction h with
  | close =>
    rw [List.singleton_append, hs.byte q (ne_of_isQuote hq _ (by decide)), if_pos rfl]
  | escape b _ ih => rw [List.cons_append, List.cons_append, hs.escape, ih]
  | byte hb hbq _ ih => rw [List.cons_append, hs.byte q hb, if_neg hbq, ih]

/-- The rest of a character that is not ASCII, wherever it is cut, changes nothing. -/
theorem high_append (quote : Option Char) (hquote : ∀ q ∈ quote, isQuote q = true)
    {tail : List UInt8} (h : ∀ b ∈ tail, 128 ≤ b.toNat) (bs : List UInt8) :
    search (quote.map Char.toUInt8) (tail ++ bs) = search (quote.map Char.toUInt8) bs := by
  induction tail with
  | nil => rfl
  | cons b tail ih =>
    have hb := h b List.mem_cons_self
    have hrest := ih fun x hx => h x (List.mem_cons_of_mem _ hx)
    rw [List.cons_append]
    cases quote with
    | none => exact (hs.high hb _).trans hrest
    | some q =>
      have hne : b ≠ q.toUInt8 := ne_of_le hb (isAscii_of_isQuote (hquote q rfl))
      rw [Option.map_some, hs.byte _ (ne_of_le hb (by decide)), if_neg hne]
      exact hrest

/-- A backslash takes a whole character along, though it skips one byte. -/
theorem escapeChar {q : Char} (hq : isQuote q = true) (c : Char) (bs : List UInt8) :
    search (some q.toUInt8) ('\\'.toUInt8 :: (Utf8.encodeChar c ++ bs)) =
      search (some q.toUInt8) bs := by
  obtain ⟨b, tail, hc, htail⟩ := Utf8.exists_encodeChar_eq_cons c
  rw [hc, List.cons_append, hs.escape]
  exact hs.high_append (some q) (by rintro _ ⟨⟩; exact hq) htail bs

/-- Within a literal a character is passed, byte for byte. -/
theorem char {q : Char} (hq : isQuote q = true) {c : Char} (hc : c ≠ '\\') (bs : List UInt8) :
    search (some q.toUInt8) (Utf8.encodeChar c ++ bs) =
      search ((if c = q then none else some q).map Char.toUInt8) bs := by
  have hquote := isAscii_of_isQuote hq
  by_cases hascii : IsAscii c
  · have hbyte : c.toUInt8 ≠ '\\'.toUInt8 := fun h =>
      hc ((Utf8.toUInt8_inj hascii (by decide)).1 h)
    rw [Utf8.encodeChar_of_isAscii hascii, List.singleton_append, hs.byte _ hbyte]
    simp only [Utf8.toUInt8_inj hascii hquote]
    split <;> rfl
  · have hne : c ≠ q := fun h => hascii (h ▸ hquote)
    rw [if_neg hne]
    exact hs.high_append (some q) (by rintro _ ⟨⟩; exact hq)
      (fun b hb => Utf8.le_of_mem_encodeChar hascii hb) bs

end ReadsLiterals

/-- What may follow where the literal of `quote` is open, if there is one, and `P` is what may
follow where none is. -/
def Continues (P : List UInt8 → Prop) : Option UInt8 → List UInt8 → Prop
  | none, bs => P bs
  | some q, bs => ∃ l w, IsLiteral q l ∧ P w ∧ bs = l ++ w

section Continues

variable {P : List UInt8 → Prop} {q : UInt8} {bs : List UInt8}

/-- A backslash and what is behind it are passed. -/
theorem Continues.escape (b : UInt8) (h : Continues P (some q) bs) :
    Continues P (some q) ('\\'.toUInt8 :: b :: bs) := by
  obtain ⟨l, w, hl, hw, rfl⟩ := h
  exact ⟨_, w, hl.escape b, hw, rfl⟩

/-- Any other byte is passed, and may end the literal. -/
theorem Continues.byte {b : UInt8} (hb : b ≠ '\\'.toUInt8)
    (h : Continues P (if b = q then none else some q) bs) : Continues P (some q) (b :: bs) := by
  by_cases hq : b = q
  · rw [if_pos hq] at h
    exact ⟨[b], bs, hq ▸ .close, h, rfl⟩
  · rw [if_neg hq] at h
    obtain ⟨l, w, hl, hw, rfl⟩ := h
    exact ⟨_, w, hl.byte hb hq, hw, rfl⟩

end Continues

/-! ## The end of a content -/

/-- What stands behind the brace that ends a content. `quote` is the quote of the literal that is
open. -/
def content? (quote : Option UInt8) : List UInt8 → Option (List UInt8)
  | [] => none
  | b :: bs =>
    match quote with
    | some q =>
      if b = '\\'.toUInt8 then
        match bs with
        | [] => none
        | _ :: bs => content? (some q) bs
      else content? (if b = q then none else some q) bs
    | none =>
      if b = '\x7d'.toUInt8 then some bs
      else if b = '\x7b'.toUInt8 then none
      else content? (if isQuote b.toChar then some b else none) bs

/-- The reader of contents passes literals. -/
theorem readsLiterals_content? : ReadsLiterals content? where
  escape _ _ _ := rfl
  byte q b hb bs := by cases bs <;> simp [content?, hb]
  high hb bs := by
    rw [content?, if_neg (ne_of_le hb (by decide)), if_neg (ne_of_le hb (by decide)),
      isQuote_of_le hb, if_neg Bool.false_ne_true]

/-- The search goes past a content. -/
theorem IsContent.content? {w : List UInt8} (h : IsContent w) (bs : List UInt8) :
    content? none (w ++ bs) = content? none bs := by
  induction h with
  | nil => rfl
  | byte hq ho hc _ ih => simp [Grammar.content?, hq, ho, hc, ih]
  | @literal q l w hq hl _ ih =>
    have hclose := ne_of_isQuote hq '\x7d' (by decide)
    have hopen := ne_of_isQuote hq '\x7b' (by decide)
    rw [List.cons_append, Grammar.content?, if_neg hclose, if_neg hopen, if_pos hq,
      List.append_assoc, readsLiterals_content?.literal hq hl, ih]

/-- What it finds is content by the grammar. -/
theorem continues_of_content? {quote : Option UInt8} {bs rest : List UInt8}
    (h : content? quote bs = some rest) :
    ∃ w, Continues IsContent quote w ∧ bs = w ++ '\x7d'.toUInt8 :: rest := by
  fun_induction content? quote bs with
  | case1 => cases h
  | case2 => cases h
  | case3 q b bs ih =>
    obtain ⟨w, hw, rfl⟩ := ih h
    exact ⟨_, hw.escape b, rfl⟩
  | case4 b bs q hb ih =>
    obtain ⟨w, hw, rfl⟩ := ih h
    exact ⟨b :: w, Continues.byte hb hw, rfl⟩
  | case5 bs =>
    cases h
    exact ⟨[], IsContent.nil, rfl⟩
  | case6 => cases h
  | case7 b bs hclose hopen ih =>
    obtain ⟨w, hw, rfl⟩ := ih h
    refine ⟨b :: w, ?_, rfl⟩
    -- a quote opens a literal, which the grammar has as one piece
    by_cases hq : isQuote b.toChar = true
    · rw [if_pos hq] at hw
      obtain ⟨l, w, hl, hw, rfl⟩ := hw
      exact IsContent.literal hq hl hw
    · rw [if_neg hq] at hw
      exact IsContent.byte (Bool.eq_false_iff.2 hq) hopen hclose hw

/-- The search ends behind a content and its brace. -/
theorem content?_eq_some_iff {bs rest : List UInt8} :
    content? none bs = some rest ↔ ∃ w, IsContent w ∧ bs = w ++ '\x7d'.toUInt8 :: rest := by
  refine ⟨continues_of_content?, ?_⟩
  rintro ⟨w, hw, rfl⟩
  rw [hw.content?, content?, if_pos rfl]

/-! ## The end of arguments -/

/-- What stands behind the parenthesis that ends arguments, where `depth` parentheses are open in
them. `quote` is the quote of the literal that is open. -/
def arguments? (depth : Nat) (quote : Option UInt8) : List UInt8 → Option (List UInt8)
  | [] => none
  | b :: bs =>
    match quote with
    | some q =>
      if b = '\\'.toUInt8 then
        match bs with
        | [] => none
        | _ :: bs => arguments? depth (some q) bs
      else arguments? depth (if b = q then none else some q) bs
    | none =>
      if b = '\x7b'.toUInt8 ∨ b = '\x7d'.toUInt8 then none
      else if b = ')'.toUInt8 ∧ depth = 0 then some bs
      else
        arguments?
          (if b = '('.toUInt8 then depth + 1 else if b = ')'.toUInt8 then depth - 1 else depth)
          (if isQuote b.toChar then some b else none) bs

/-- The reader of arguments passes literals. -/
theorem readsLiterals_arguments? (depth : Nat) : ReadsLiterals (arguments? depth) where
  escape _ _ _ := rfl
  byte q b hb bs := by cases bs <;> simp [arguments?, hb]
  high hb bs := by
    have hright := ne_of_le hb (c := ')') (by decide)
    rw [arguments?, if_neg (not_or.2 ⟨ne_of_le hb (by decide), ne_of_le hb (by decide)⟩),
      if_neg fun h => hright h.1, if_neg (ne_of_le hb (by decide)), if_neg hright,
      isQuote_of_le hb, if_neg Bool.false_ne_true]

/-- The search goes past arguments, at any depth. -/
theorem IsArguments.arguments? {w : List UInt8} (h : IsArguments w) (depth : Nat)
    (bs : List UInt8) : arguments? depth none (w ++ bs) = arguments? depth none bs := by
  induction h generalizing depth bs with
  | nil => rfl
  | byte hq ho hc hl hr _ ih => simp [Grammar.arguments?, hq, ho, hc, hl, hr, ih]
  | @literal q l w hq hl _ ih =>
    have hopen := ne_of_isQuote hq '\x7b' (by decide)
    have hclose := ne_of_isQuote hq '\x7d' (by decide)
    have hleft := ne_of_isQuote hq '(' (by decide)
    have hright := ne_of_isQuote hq ')' (by decide)
    rw [List.cons_append, Grammar.arguments?, if_neg (not_or.2 ⟨hopen, hclose⟩),
      if_neg fun h => hright h.1, if_pos hq, if_neg hleft, if_neg hright, List.append_assoc,
      (readsLiterals_arguments? depth).literal hq hl, ih]
  | group _ _ ih jh =>
    -- the opening parenthesis is one level more, which the closing one takes back
    have hne : '('.toUInt8 ≠ ')'.toUInt8 := by decide
    rw [List.cons_append, Grammar.arguments?, if_neg (by decide), if_neg fun h => hne h.1,
      if_pos rfl, if_neg (by decide), List.append_assoc, ih, List.cons_append,
      Grammar.arguments?, if_neg (by decide), if_neg fun h => Nat.succ_ne_zero _ h.2,
      if_neg hne.symm, if_pos rfl, if_neg (by decide), Nat.add_sub_cancel, jh]

/-- Arguments with as many parentheses in them that close more than they open. -/
def ClosesMore : Nat → List UInt8 → Prop
  | 0, bs => IsArguments bs
  | depth + 1, bs => ∃ a w, IsArguments a ∧ ClosesMore depth w ∧ bs = a ++ ')'.toUInt8 :: w

/-- What may stand in front of arguments may stand in front of these. -/
theorem ClosesMore.append {x : List UInt8} (hx : ∀ a, IsArguments a → IsArguments (x ++ a))
    {depth : Nat} {w : List UInt8} (h : ClosesMore depth w) : ClosesMore depth (x ++ w) := by
  cases depth with
  | zero => exact hx w h
  | succ depth =>
    obtain ⟨a, w, ha, hw, rfl⟩ := h
    exact ⟨x ++ a, w, hx a ha, hw, (List.append_assoc ..).symm⟩

/-- What it finds are arguments by the grammar. -/
theorem continues_of_arguments? {depth : Nat} {quote : Option UInt8} {bs rest : List UInt8}
    (h : arguments? depth quote bs = some rest) :
    ∃ w, Continues (ClosesMore depth) quote w ∧ bs = w ++ ')'.toUInt8 :: rest := by
  fun_induction arguments? depth quote bs with
  | case1 => cases h
  | case2 => cases h
  | case3 depth q b bs ih =>
    obtain ⟨w, hw, rfl⟩ := ih h
    exact ⟨_, hw.escape b, rfl⟩
  | case4 depth b bs q hb ih =>
    obtain ⟨w, hw, rfl⟩ := ih h
    exact ⟨b :: w, Continues.byte hb hw, rfl⟩
  | case5 => cases h
  | case6 depth b bs _ hb =>
    cases h
    obtain ⟨rfl, rfl⟩ := hb
    exact ⟨[], IsArguments.nil, rfl⟩
  | case7 depth b bs hbrace hend ih =>
    obtain ⟨w, hw, rfl⟩ := ih h
    refine ⟨b :: w, ?_, rfl⟩
    -- a parenthesis changes the depth, and a quote opens a literal
    obtain ⟨hopen, hclose⟩ := not_or.1 hbrace
    by_cases hq : isQuote b.toChar = true
    · rw [if_pos hq, if_neg (ne_of_isQuote hq _ (by decide)),
        if_neg (ne_of_isQuote hq _ (by decide))] at hw
      obtain ⟨l, w, hl, hw, rfl⟩ := hw
      exact ClosesMore.append (x := b :: l) (fun a ha => .literal hq hl ha) hw
    rw [if_neg hq] at hw
    by_cases hleft : b = '('.toUInt8
    · -- the group is what comes up to the first parenthesis that closes more
      rw [if_pos hleft] at hw
      obtain ⟨a, w, ha, hw, rfl⟩ := hw
      have hgroup : ClosesMore depth (('('.toUInt8 :: (a ++ [')'.toUInt8])) ++ w) := by
        refine hw.append fun v hv => ?_
        have := IsArguments.group ha hv
        rwa [List.append_cons] at this
      rw [List.cons_append, List.append_assoc, List.singleton_append] at hgroup
      exact hleft ▸ hgroup
    rw [if_neg hleft] at hw
    by_cases hright : b = ')'.toUInt8
    · rw [if_pos hright] at hw
      obtain ⟨n, rfl⟩ := Nat.exists_eq_succ_of_ne_zero fun hzero => hend ⟨hright, hzero⟩
      exact ⟨[], w, .nil, hw, hright ▸ rfl⟩
    · rw [if_neg hright] at hw
      exact ClosesMore.append (x := [b])
        (fun a ha => .byte (Bool.eq_false_iff.2 hq) hopen hclose hleft hright ha) hw

/-- The search ends behind arguments and their parenthesis. -/
theorem arguments?_eq_some_iff {bs rest : List UInt8} :
    arguments? 0 none bs = some rest ↔ ∃ w, IsArguments w ∧ bs = w ++ ')'.toUInt8 :: rest := by
  refine ⟨continues_of_arguments?, ?_⟩
  rintro ⟨w, hw, rfl⟩
  rw [hw.arguments?, arguments?, if_neg (by decide), if_pos (by simp)]

end Grammar

end Stencil.Segment
