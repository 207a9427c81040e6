import Stencil.Modifier.Library
import Stencil.Proofs.Text.Bytes
import Stencil.Proofs.Text.Width

/-!
# Stencil.Proofs.Modifier.Library — what is relied on of a library

Three things are relied on, each by the modifiers that need it: that steady characters in front of
a text take no more columns than they take alone (`Library.AddsUp`), and that what is written for a
character of HTML, or for a byte of an address, is read as that character or byte, and reading goes
on behind it (`Library.KnowsHtml`, `Library.KnowsUri`). Nothing is said of how texts are read that
were not written so.

The standard library does as much (`standard_addsUp`, `standard_knowsHtml`, `standard_knowsUri`).
-/

namespace Stencil.Library

/-! ## Widths -/

section Widths

variable (L : Library)

/-- The columns a character takes alone; one without a width takes none. -/
def ownWidth (c : Char) : Nat := (L.charWidth? c).getD 0

/-- The columns that the characters of a text take alone. -/
def ownColumns : List Char → Nat
  | [] => 0
  | c :: cs => L.ownWidth c + ownColumns cs

@[simp] theorem ownColumns_cons (c : Char) (cs : List Char) :
    L.ownColumns (c :: cs) = L.ownWidth c + L.ownColumns cs := rfl

/-- The widths of characters add up to no less than the width of their text, as long as all of them
are steady. In front of a letter of a flag this is not asked for: letters are shown in pairs, and
which of them make a pair depends on how many there are. -/
structure AddsUp (steady flagLetter : Char → Prop) : Prop where
  columns_nil : L.columns [] = 0
  columns_append_le : ∀ cs rest, (∀ c ∈ cs, steady c) → (∀ c ∈ rest, steady c) →
    (∀ c ∈ rest.head?, ¬ flagLetter c) → L.columns (cs ++ rest) ≤ L.ownColumns cs + L.columns rest

variable {L} in
/-- A text of steady characters takes no more columns than they take alone. -/
theorem AddsUp.columns_le {steady flagLetter : Char → Prop} (hL : L.AddsUp steady flagLetter)
    {cs : List Char} (hcs : ∀ c ∈ cs, steady c) : L.columns cs ≤ L.ownColumns cs := by
  have hnone : ∀ c ∈ ([] : List Char), steady c := fun _ h => nomatch h
  have h := hL.columns_append_le cs [] hcs hnone fun _ h => nomatch h
  rwa [List.append_nil, hL.columns_nil] at h

/-- The columns of the standard library are those of the tables. -/
theorem ownColumns_standard (cs : List Char) : standard.ownColumns cs = Text.ownColumns cs := by
  induction cs with
  | nil => rfl
  | cons c cs ih =>
    rw [ownColumns_cons, ih]
    rfl

/-- Characters are steady that have a width and are no selector that makes others wide. -/
theorem standard_addsUp : standard.AddsUp Text.IsSteady Text.IsFlagLetter where
  columns_nil := rfl
  columns_append_le cs rest hcs hrest hhead := by
    rw [ownColumns_standard]
    exact Text.columns_append_le hcs hrest hhead

end Widths

/-! ## References in HTML -/

section Html

/-- The characters that have a meaning in HTML, and what stands for them between an ampersand and a
semicolon. -/
def references : List (Char × List Char) :=
  [('&', ['a', 'm', 'p']), ('<', ['l', 't']), ('>', ['g', 't']), ('"', ['q', 'u', 'o', 't']),
    ('\'', ['#', 'x', '2', '7'])]

/-- What is written for a character inside a quoted attribute. -/
def referring (c : Char) : List Char :=
  match references.lookup c with
  | some name => '&' :: (name ++ [';'])
  | none => [c]

/-- Texts are written character by character, those with a meaning as references, and the reader
takes a reference that ends in a semicolon as one character. What it has read is not read again. -/
structure KnowsHtml (L : Library) : Prop where
  encode_eq : ∀ cs, L.encodeHtml cs = cs.flatMap referring
  decode_nil : L.decodeHtml [] = []
  decode_plain : ∀ c rest, c ≠ '&' → L.decodeHtml (c :: rest) = c :: L.decodeHtml rest
  decode_reference : ∀ c name rest, references.lookup c = some name →
    L.decodeHtml ('&' :: (name ++ ';' :: rest)) = c :: L.decodeHtml rest

/-- A character with a meaning and what stands for it, one after the other. -/
theorem of_lookup_references {P : Char → List Char → Prop}
    (h : P '&' ['a', 'm', 'p'] ∧ P '<' ['l', 't'] ∧ P '>' ['g', 't'] ∧ P '"' ['q', 'u', 'o', 't'] ∧
      P '\'' ['#', 'x', '2', '7'])
    {c : Char} {name : List Char} (hc : references.lookup c = some name) : P c name := by
  obtain ⟨hamp, hlt, hgt, hquot, happos⟩ := h
  simp only [references, List.lookup_cons, List.lookup_nil] at hc
  -- the character is compared with each entry in turn
  split at hc
  · next heq => cases hc; rwa [eq_of_beq heq]
  split at hc
  · next heq => cases hc; rwa [eq_of_beq heq]
  split at hc
  · next heq => cases hc; rwa [eq_of_beq heq]
  split at hc
  · next heq => cases hc; rwa [eq_of_beq heq]
  split at hc
  · next heq => cases hc; rwa [eq_of_beq heq]
  · cases hc

/-- A character that is written as it stands is no ampersand. -/
theorem ne_ampersand_of_lookup {c : Char} (h : references.lookup c = none) : c ≠ '&' := by
  rintro rfl
  cases h

end Html

/-! ## Percent escapes -/

section Uri

/-- Whether a byte stands for itself in an address: a letter, a digit or one of `-_.~`. -/
def IsUnreserved (b : UInt8) : Prop :=
  b.toChar.isAlphanum = true ∨ b.toChar ∈ ['-', '_', '.', '~']

instance (b : UInt8) : Decidable (IsUnreserved b) := inferInstanceAs (Decidable (_ ∨ _))

/-- The hexadecimal digit of a number below 16. -/
def hexDigit (n : Nat) : Char := "0123456789ABCDEF".toList.getD n '0'

/-- What is written for a byte in an address. -/
def escaped (b : UInt8) : List Char :=
  if IsUnreserved b then [b.toChar] else ['%', hexDigit (b.toNat / 16), hexDigit (b.toNat % 16)]

/-- Texts are written byte by byte, all but a few as two hexadecimal digits behind a percent sign,
and the reader takes such digits as the byte. -/
structure KnowsUri (L : Library) : Prop where
  encode_eq : ∀ cs, L.encodeUri cs = (Text.Utf8.encode cs).flatMap escaped
  decode_nil : L.decodeUri [] = []
  decode_plain : ∀ b rest, b ≠ '%'.toUInt8 → L.decodeUri (b :: rest) = b :: L.decodeUri rest
  decode_escape : ∀ m n rest, m < 16 → n < 16 →
    L.decodeUri ('%'.toUInt8 :: (hexDigit m).toUInt8 :: (hexDigit n).toUInt8 :: rest) =
      UInt8.ofNat (16 * m + n) :: L.decodeUri rest

/-- The digits of an escape are ASCII characters. -/
theorem isAscii_hexDigit {n : Nat} (h : n < 16) : Text.IsAscii (hexDigit n) := by
  revert n
  decide

/-- Only ASCII bytes are left as they are. -/
theorem isAscii_of_isUnreserved {b : UInt8} (h : IsUnreserved b) : b.toNat < 128 := by
  have hall : ∀ n < 256, IsUnreserved (UInt8.ofNat n) → n < 128 := by decide +kernel
  refine hall b.toNat b.toNat_lt ?_
  rwa [UInt8.ofNat_toNat]

theorem ne_percent_of_isUnreserved {b : UInt8} (h : IsUnreserved b) : b ≠ '%'.toUInt8 := by
  rintro rfl
  exact absurd h (by decide)

end Uri

end Stencil.Library

/-! ## The standard library -/

namespace Stencil.Text

namespace Entity

/-- The names of the characters that HTML itself uses are not shadowed. -/
theorem referenced?_of_lookup {d : Char} {name : List Char} {c : Char} (hd : d ≠ '#')
    (h : markupEntities.lookup (String.ofList (d :: name)) = some c) :
    referenced? (d :: name) = some c := by
  unfold referenced?
  split
  · next heq => exact absurd (List.cons.inj heq).1 hd
  · next heq => exact absurd (List.cons.inj heq).1 hd
  · next heq => exact absurd (List.cons.inj heq).1 hd
  · rw [names, List.lookup_append, h, Option.some_or]

/-- A reference whose body is followed by a semicolon. -/
theorem reference?_append {body : List Char} {c : Char}
    (hbody : (body.all fun d => d ≠ ';' && d ≠ '&') = true) (h : referenced? body = some c)
    (rest : List Char) : reference? (body ++ ';' :: rest) = some (c, rest) := by
  have hinside : (body ++ ';' :: rest).takeWhile (fun d => d ≠ ';' && d ≠ '&') = body := by
    rw [List.takeWhile_append_of_pos (List.all_eq_true.1 hbody)]
    simp
  rw [reference?, body?, hinside, List.drop_left]
  simp [h]

/-- The reader takes a reference as its character and goes on behind the semicolon. -/
theorem decode_reference {body : List Char} {c : Char}
    (hbody : (body.all fun d => d ≠ ';' && d ≠ '&') = true) (h : referenced? body = some c)
    (rest : List Char) : decode ('&' :: (body ++ ';' :: rest)) = c :: decode rest := by
  rw [decode, if_pos rfl]
  split
  · next found behind hfound =>
    rw [reference?_append hbody h] at hfound
    cases hfound
    rfl
  · next hnone =>
    rw [reference?_append hbody h] at hnone
    cases hnone

/-- Characters with a meaning are written as references, and no others. -/
theorem encodeChar_eq_referring (c : Char) : encodeChar c = Library.referring c := by
  unfold encodeChar
  split
  · next hc => subst hc; rfl
  split
  · next hc => subst hc; rfl
  split
  · next hc => subst hc; rfl
  split
  · next hc => subst hc; rfl
  split
  · next hc => subst hc; rfl
  · next hamp hlt hgt hquot happos =>
    have hnone : Library.references.lookup c = none := by
      simp only [Library.references, List.lookup_cons, List.lookup_nil, beq_false_of_ne hamp,
        beq_false_of_ne hlt, beq_false_of_ne hgt, beq_false_of_ne hquot, beq_false_of_ne happos]
    rw [Library.referring, hnone]

end Entity

namespace Percent

/-- A digit of an escape is read as its value. -/
theorem value?_hexDigit {n : Nat} (h : n < 16) :
    value? (Library.hexDigit n).toUInt8 = some n := by
  revert n
  decide

/-- A byte is written as it stands or as two digits, whichever it has to be. -/
theorem encodeByte_eq_escaped (b : UInt8) : encodeByte b = Library.escaped b := by
  have hall : ∀ n < 256, encodeByte (UInt8.ofNat n) = Library.escaped (UInt8.ofNat n) := by
    decide +kernel
  have h := hall b.toNat b.toNat_lt
  rwa [UInt8.ofNat_toNat] at h

/-- A byte that is no percent sign stands for itself. -/
theorem decode_cons_of_ne {b : UInt8} (h : b ≠ sign) (rest : List UInt8) :
    decode (b :: rest) = b :: decode rest := by
  match rest with
  | [] => rfl
  | [_] => rfl
  | high :: low :: rest =>
    rw [decode, escape?, if_neg h]

/-- Two digits behind a percent sign stand for a byte. -/
theorem decode_escape {m n : Nat} (hm : m < 16) (hn : n < 16) (rest : List UInt8) :
    decode (sign :: (Library.hexDigit m).toUInt8 :: (Library.hexDigit n).toUInt8 :: rest) =
      UInt8.ofNat (16 * m + n) :: decode rest := by
  rw [decode, escape?, if_pos rfl, value?_hexDigit hm, value?_hexDigit hn, Nat.mul_comm]

end Percent

end Stencil.Text

namespace Stencil.Library

/-- The standard library encodes and decodes references as is assumed of one. -/
theorem standard_knowsHtml : standard.KnowsHtml where
  encode_eq cs := by
    show cs.flatMap Text.Entity.encodeChar = _
    rw [funext Text.Entity.encodeChar_eq_referring]
  decode_nil := Text.Entity.decode.eq_1
  decode_plain c rest hc := by
    show Text.Entity.decode (c :: rest) = _
    rw [Text.Entity.decode, if_neg hc]
    rfl
  decode_reference c name rest hc := by
    have named : ∀ {c d name}, d ≠ '#' →
        ((d :: name).all fun e => e ≠ ';' && e ≠ '&') = true →
        Text.markupEntities.lookup (String.ofList (d :: name)) = some c →
        ∀ rest, Text.Entity.decode ('&' :: (d :: name ++ ';' :: rest)) =
          c :: Text.Entity.decode rest :=
      fun hd hbody h => Text.Entity.decode_reference hbody
        (Text.Entity.referenced?_of_lookup hd h)
    refine of_lookup_references (P := fun c name => ∀ rest,
      Text.Entity.decode ('&' :: (name ++ ';' :: rest)) = c :: Text.Entity.decode rest)
      ⟨?_, ?_, ?_, ?_, ?_⟩ hc rest
    · exact named (by decide) (by decide) (by decide)
    · exact named (by decide) (by decide) (by decide)
    · exact named (by decide) (by decide) (by decide)
    · exact named (by decide) (by decide) (by decide)
    · -- the apostrophe is referred to by its number
      exact Text.Entity.decode_reference (by decide) (by decide)

theorem standard_knowsUri : standard.KnowsUri where
  encode_eq cs := by
    show (Text.Utf8.encode cs).flatMap Text.Percent.encodeByte = _
    rw [funext Text.Percent.encodeByte_eq_escaped]
  decode_nil := rfl
  decode_plain _ rest hb := Text.Percent.decode_cons_of_ne hb rest
  decode_escape _ _ rest hm hn := Text.Percent.decode_escape hm hn rest

end Stencil.Library
