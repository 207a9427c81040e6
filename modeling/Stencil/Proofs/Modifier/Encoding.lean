import Stencil.Modifier.Builtin
import Stencil.Proofs.Modifier.Library
import Stencil.Proofs.Text.Utf8

/-!
# Stencil.Proofs.Modifier.Encoding — encoded texts are decoded to what they were

Both encodings write a text piece by piece: percent encoding byte by byte, and that of HTML
character by character. The reader takes exactly one such piece at a time and goes on behind it
(`Library.KnowsUri.decode_escaped`, `Library.KnowsHtml.decode_referring`), so it never reads
anything twice, whatever escapes or references the text already contains. Hence `decode` gives back
what `encode` was given (`Modifiers.decode_undoes_encode`), over any library that knows the two.
-/

namespace Stencil

namespace Library

variable {L : Library}

/-! ## Percent encoding -/

namespace KnowsUri

/-- The reader takes what is written for a byte, and nothing more. -/
theorem decode_escaped (hL : L.KnowsUri) (b : UInt8) (rest : List UInt8) :
    L.decodeUri (Text.Utf8.encode (escaped b) ++ rest) = b :: L.decodeUri rest := by
  unfold escaped
  split
  · next hplain =>
    have hascii : Text.IsAscii b.toChar :=
      lt_of_eq_of_lt (Text.Utf8.toNat_toChar b) (isAscii_of_isUnreserved hplain)
    rw [Text.Utf8.encode_cons, Text.Utf8.encodeChar_of_isAscii hascii,
      Text.Utf8.toUInt8_toChar hascii]
    exact hL.decode_plain b rest (ne_percent_of_isUnreserved hplain)
  · have hb : b.toNat < 256 := b.toNat_lt
    have hdigits : 16 * (b.toNat / 16) + b.toNat % 16 = b.toNat := by omega
    rw [Text.Utf8.encode_cons, Text.Utf8.encode_cons, Text.Utf8.encode_cons,
      Text.Utf8.encodeChar_of_isAscii (c := '%') (by decide),
      Text.Utf8.encodeChar_of_isAscii (isAscii_hexDigit (n := b.toNat / 16) (by omega)),
      Text.Utf8.encodeChar_of_isAscii (isAscii_hexDigit (n := b.toNat % 16) (by omega))]
    refine (hL.decode_escape _ _ rest (by omega) (by omega)).trans ?_
    rw [hdigits, UInt8.ofNat_toNat]

/-- What is percent encoded is decoded to the bytes that it was. -/
theorem decode_encode (hL : L.KnowsUri) (cs : List Char) :
    Text.Utf8.decode (L.decodeUri (Text.Utf8.encode (L.encodeUri cs))) = cs := by
  have hbytes : ∀ bs : List UInt8, L.decodeUri (Text.Utf8.encode (bs.flatMap escaped)) = bs := by
    intro bs
    induction bs with
    | nil => exact hL.decode_nil
    | cons b bs ih =>
      rw [List.flatMap_cons, Text.Utf8.encode_append, hL.decode_escaped, ih]
  rw [hL.encode_eq, hbytes, Text.Utf8.decode_encode]

/-- A byte is written with the characters that stand for themselves and the percent sign. -/
theorem isUnreserved_of_mem_escaped {b : UInt8} {c : Char} (h : c ∈ escaped b) :
    c.isAlphanum ∨ c ∈ ['-', '_', '.', '~', '%'] := by
  have hdigit : ∀ n < 16, (hexDigit n).isAlphanum = true := by decide
  have hb : b.toNat < 256 := b.toNat_lt
  unfold escaped at h
  split at h
  · next hplain =>
    rw [List.mem_singleton] at h
    rw [h]
    refine hplain.imp id fun hmem => ?_
    exact List.mem_append_left ['%'] hmem
  · simp only [List.mem_cons, List.not_mem_nil, or_false] at h
    rcases h with rfl | rfl | rfl
    · exact .inr (by decide)
    · exact .inl (hdigit _ (by omega))
    · exact .inl (hdigit _ (by omega))

end KnowsUri

/-! ## References in HTML -/

namespace KnowsHtml

/-- The reader takes what is written for a character, and nothing more. -/
theorem decode_referring (hL : L.KnowsHtml) (c : Char) (rest : List Char) :
    L.decodeHtml (referring c ++ rest) = c :: L.decodeHtml rest := by
  unfold referring
  split
  · next name hc =>
    rw [List.cons_append, List.append_assoc]
    exact hL.decode_reference c name rest hc
  · next hc => exact hL.decode_plain c rest (ne_ampersand_of_lookup hc)

/-- What is written inside HTML is read as what it was. -/
theorem decode_encode (hL : L.KnowsHtml) (cs : List Char) :
    L.decodeHtml (L.encodeHtml cs) = cs := by
  rw [hL.encode_eq]
  induction cs with
  | nil => exact hL.decode_nil
  | cons c cs ih => rw [List.flatMap_cons, hL.decode_referring, ih]

/-- No character that has a meaning in HTML is written, but for the ampersands of references. -/
theorem notMem_of_mem_referring {c d : Char} (h : d ∈ referring c) :
    d ∉ ['<', '>', '"', '\''] := by
  have hall : ∀ cs : List Char, (cs.all fun d => d ∉ ['<', '>', '"', '\'']) = true →
      ∀ d ∈ cs, d ∉ ['<', '>', '"', '\''] :=
    fun cs hcs d hd => of_decide_eq_true (List.all_eq_true.1 hcs d hd)
  unfold referring at h
  split at h
  · next name hc =>
    refine of_lookup_references (P := fun _ name => ∀ d ∈ '&' :: (name ++ [';']),
      d ∉ ['<', '>', '"', '\'']) ⟨?_, ?_, ?_, ?_, ?_⟩ hc d h
    · exact hall _ (by decide)
    · exact hall _ (by decide)
    · exact hall _ (by decide)
    · exact hall _ (by decide)
    · exact hall _ (by decide)
  · next hc =>
    rw [List.mem_singleton] at h
    rw [h]
    intro hmem
    simp only [List.mem_cons, List.not_mem_nil, or_false] at hmem
    -- each of the four has a reference
    rcases hmem with rfl | rfl | rfl | rfl <;> cases hc

end KnowsHtml

end Library

/-! ## The modifiers -/

namespace Modifier.Encoding

/-- What the arguments of a modifier must be for an encoding to be meant: the encoding is named
first, or it is that of HTML and nothing is named. -/
def IsNamed (args : List Value) : Encoding → Prop
  | html => args = [] ∨ args.head?.map Value.display = some "html"
  | uri => args.head?.map Value.display = some "uri"

/-- The name of an encoding is read as this encoding. -/
theorem ofArgs_of_isNamed {args : List Value} {kind : Encoding} (h : kind.IsNamed args) :
    ofArgs args = .ok kind := by
  cases args with
  | nil =>
    cases kind with
    | html => rfl
    | uri => exact absurd h (by simp [IsNamed])
  | cons v args =>
    cases kind with
    | html =>
      have hv : v.display = "html" := by simpa [IsNamed] using h
      rw [ofArgs, if_pos hv]
    | uri =>
      have hv : v.display = "uri" := by simpa [IsNamed] using h
      rw [ofArgs, hv, if_neg (by decide), if_pos rfl]

/-- Whether a library knows the encoding. -/
def IsKnown (L : Library) : Encoding → Prop
  | html => L.KnowsHtml
  | uri => L.KnowsUri

/-- What is encoded is decoded to what it was. -/
theorem decode_encode {L : Library} {kind : Encoding} (hL : kind.IsKnown L) (cs : List Char) :
    kind.decode L (kind.encode L cs) = cs := by
  cases kind with
  | html => exact hL.decode_encode cs
  | uri => exact hL.decode_encode cs

/-- Whether a character may stand in an encoded text: in HTML none that ends a text or a quoted
attribute, in percent encoding only those of addresses and the percent sign. -/
def Allows : Encoding → Char → Prop
  | html, c => c ∉ ['<', '>', '"', '\'']
  | uri, c => c.isAlphanum ∨ c ∈ ['-', '_', '.', '~', '%']

/-- Nothing else stands in an encoded text. -/
theorem allows_encode {L : Library} {kind : Encoding} (hL : kind.IsKnown L) (cs : List Char) :
    ∀ c ∈ kind.encode L cs, kind.Allows c := by
  intro c hc
  cases kind with
  | html =>
    rw [encode, hL.encode_eq] at hc
    obtain ⟨d, -, hc⟩ := List.mem_flatMap.1 hc
    exact Library.KnowsHtml.notMem_of_mem_referring hc
  | uri =>
    rw [encode, hL.encode_eq] at hc
    obtain ⟨b, -, hc⟩ := List.mem_flatMap.1 hc
    exact Library.KnowsUri.isUnreserved_of_mem_escaped hc

end Modifier.Encoding

open Modifier (Encoding)

/-- What `encode` makes of a value is made into the text of the value again by `decode`, when both
have the same arguments and the library knows the encoding that these name. -/
theorem Modifiers.decode_undoes_encode (L : Library) (v : Value) (args : List Value)
    (kind : Encoding) (hknown : kind.IsKnown L) (h : kind.IsNamed args) :
    ∃ encoded : String,
      (Modifiers.ofLibrary L).apply "encode" v args = .ok (.text encoded) ∧
      (∀ c ∈ encoded.toList, kind.Allows c) ∧
      (Modifiers.ofLibrary L).apply "decode" (.text encoded) args = .ok (.text v.display) := by
  have hkind := Encoding.ofArgs_of_isNamed h
  refine ⟨String.ofList (kind.encode L v.display.toList), ?_, ?_, ?_⟩
  · show Modifier.encode L v args = _
    rw [Modifier.encode, hkind]
    rfl
  · rw [String.toList_ofList]
    exact Encoding.allows_encode hknown _
  · show Modifier.decode L _ args = _
    rw [Modifier.decode, hkind]
    show Modifier.onText (kind.decode L) _ args = _
    rw [Modifier.onText, Value.display, String.toList_ofList, Encoding.decode_encode hknown,
      String.ofList_toList]

/-- A text that holds an escape, a reference and a character of several bytes. -/
theorem Modifiers.decode_undoes_encode_escaped :
    Encoding.uri.IsKnown .standard ∧ Encoding.uri.IsNamed [.text "uri"] ∧
      ∃ encoded : String,
        Modifiers.builtin.apply "encode" (.text "100%25 é&amp;") [.text "uri"] =
          .ok (.text encoded) ∧
        (∀ c ∈ encoded.toList, Encoding.uri.Allows c) ∧
        Modifiers.builtin.apply "decode" (.text encoded) [.text "uri"] =
          .ok (.text "100%25 é&amp;") :=
  ⟨Library.standard_knowsUri, rfl, Modifiers.decode_undoes_encode .standard
    (.text "100%25 é&amp;") [.text "uri"] .uri Library.standard_knowsUri rfl⟩

end Stencil
