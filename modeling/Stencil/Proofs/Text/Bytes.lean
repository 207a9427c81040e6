import Mathlib.Data.UInt
import Stencil.Text.Size
import Stencil.Text.Utf8

/-!
# Stencil.Proofs.Text.Bytes — characters and their bytes

An ASCII character is one byte, and its byte is below 128; all bytes of any other character
are 128 and more. So a byte below 128 stands in the bytes of a text only where an ASCII
character stands in the text.
-/

namespace Stencil.Text

/-- Whether a character is a single byte. -/
def IsAscii (c : Char) : Prop := c.toNat < 128

instance (c : Char) : Decidable (IsAscii c) := Nat.decLt _ _

namespace Utf8

@[simp] theorem encode_nil : encode [] = [] := rfl

@[simp] theorem encode_cons (c : Char) (cs : List Char) :
    encode (c :: cs) = encodeChar c ++ encode cs := rfl

@[simp] theorem encode_append (a b : List Char) : encode (a ++ b) = encode a ++ encode b :=
  List.flatMap_append

theorem encodeChar_of_isAscii {c : Char} (h : IsAscii c) : encodeChar c = [c.toUInt8] :=
  String.utf8EncodeChar_eq_singleton
    (Char.utf8Size_eq_one_iff.2 (UInt32.le_iff_toNat_le.2 (Nat.le_of_lt_succ h)))

theorem encodeChar_ne_nil (c : Char) : encodeChar c ≠ [] := String.utf8EncodeChar_ne_nil

/-- The byte of an ASCII character is its code. -/
theorem toNat_toUInt8 {c : Char} (h : IsAscii c) : c.toUInt8.toNat = c.toNat := by
  have hmod : c.toUInt8.toNat = c.toNat % 256 := UInt32.toNat_toUInt8 c.val
  rw [hmod]
  exact Nat.mod_eq_of_lt (Nat.lt_trans h (by decide))

theorem toUInt8_inj {c d : Char} (hc : IsAscii c) (hd : IsAscii d) :
    c.toUInt8 = d.toUInt8 ↔ c = d := by
  refine ⟨fun h => ?_, congrArg _⟩
  have hnat : c.toNat = d.toNat := by rw [← toNat_toUInt8 hc, ← toNat_toUInt8 hd, h]
  exact Char.toNat_inj.1 hnat

/-- All bytes of a character that is not ASCII are 128 and more. -/
theorem le_of_mem_encodeChar {c : Char} (h : ¬ IsAscii c) {b : UInt8} (hb : b ∈ encodeChar c) :
    128 ≤ b.toNat := by
  have hc : ¬ c.val.toNat ≤ 127 := fun hle => h (Nat.lt_succ_of_le hle)
  simp only [encodeChar, String.utf8EncodeChar, if_neg hc] at hb
  split at hb
  · simp only [List.mem_cons, List.not_mem_nil, or_false] at hb
    rcases hb with rfl | rfl <;> simp only [UInt8.toNat_ofNat'] <;> omega
  split at hb
  · simp only [List.mem_cons, List.not_mem_nil, or_false] at hb
    rcases hb with rfl | rfl | rfl <;> simp only [UInt8.toNat_ofNat'] <;> omega
  · simp only [List.mem_cons, List.not_mem_nil, or_false] at hb
    rcases hb with rfl | rfl | rfl | rfl <;> simp only [UInt8.toNat_ofNat'] <;> omega

/-- Behind the first byte of a character there are only bytes of 128 and more. -/
theorem exists_encodeChar_eq_cons (c : Char) :
    ∃ b bs, encodeChar c = b :: bs ∧ ∀ x ∈ bs, 128 ≤ x.toNat := by
  by_cases hc : IsAscii c
  · exact ⟨c.toUInt8, [], encodeChar_of_isAscii hc, fun _ h => (nomatch h)⟩
  · obtain ⟨b, bs, heq⟩ := List.exists_cons_of_ne_nil (encodeChar_ne_nil c)
    refine ⟨b, bs, heq, fun x hx => le_of_mem_encodeChar hc ?_⟩
    rw [heq]
    exact List.mem_cons_of_mem _ hx

/-! ## Classes of ASCII characters -/

/-- The character that has the byte as its code. -/
theorem toNat_toChar (b : UInt8) : b.toChar.toNat = b.toNat := UInt8.toNat_toUInt32 b

/-- The byte of an ASCII character stands for the character. -/
theorem toChar_toUInt8 {c : Char} (h : IsAscii c) : c.toUInt8.toChar = c :=
  Char.toNat_inj.1 ((toNat_toChar _).trans (toNat_toUInt8 h))

/-- A byte that stands for an ASCII character is its byte. -/
theorem toUInt8_toChar {b : UInt8} (h : IsAscii b.toChar) : b.toChar.toUInt8 = b :=
  UInt8.toNat_inj.1 ((toNat_toUInt8 h).trans (toNat_toChar b))

section Classes

variable {p : Char → Bool} (hp : ∀ c, p c = true → IsAscii c)

include hp

/-- Members of a class are bytes that stand for members. -/
theorem forall_mem_encode {cs : List Char} (h : ∀ c ∈ cs, p c = true) :
    ∀ b ∈ encode cs, p b.toChar = true := by
  intro b hb
  obtain ⟨c, hc, hbc⟩ := List.mem_flatMap.1 hb
  rw [encodeChar_of_isAscii (hp c (h c hc)), List.mem_singleton] at hbc
  rw [hbc, toChar_toUInt8 (hp c (h c hc))]
  exact h c hc

/-- No byte of another character stands for a member. -/
theorem not_of_mem_encodeChar {c : Char} (h : ¬ p c = true) {b : UInt8} (hb : b ∈ encodeChar c) :
    ¬ p b.toChar = true := by
  intro hpb
  have hascii : b.toNat < 128 := (toNat_toChar b).symm ▸ hp _ hpb
  by_cases hc : IsAscii c
  · rw [encodeChar_of_isAscii hc, List.mem_singleton] at hb
    rw [hb, toChar_toUInt8 hc] at hpb
    exact h hpb
  · exact Nat.not_lt.2 (le_of_mem_encodeChar hc hb) hascii

/-- Characters can be dropped before or after they are encoded, as long as only ASCII ones are. -/
theorem encode_dropWhile (cs : List Char) :
    encode (cs.dropWhile p) = (encode cs).dropWhile (fun b => p b.toChar) := by
  induction cs with
  | nil => rfl
  | cons c cs ih =>
    by_cases hc : p c = true
    · rw [List.dropWhile_cons_of_pos hc, ih, encode_cons, encodeChar_of_isAscii (hp c hc),
        List.singleton_append, List.dropWhile_cons_of_pos]
      rwa [toChar_toUInt8 (hp c hc)]
    · obtain ⟨b, bs, heq, -⟩ := exists_encodeChar_eq_cons c
      have hb : ¬ p b.toChar = true :=
        not_of_mem_encodeChar hp hc (heq ▸ List.mem_cons_self)
      rw [List.dropWhile_cons_of_neg hc, encode_cons, heq, List.cons_append,
        List.dropWhile_cons_of_neg (p := fun b : UInt8 => p b.toChar) hb]

/-- A run of the class at the front of a text is a run of its bytes. -/
theorem encode_dropWhile_eq {cs : List Char} {w rest : List UInt8}
    (hw : ∀ b ∈ w, p b.toChar = true) (hrest : ∀ b ∈ rest.head?, ¬ p b.toChar = true)
    (h : encode cs = w ++ rest) : encode (cs.dropWhile p) = rest := by
  rw [encode_dropWhile hp, h, List.dropWhile_append_of_pos hw]
  cases rest with
  | nil => rfl
  | cons b rest => exact List.dropWhile_cons_of_neg (hrest b rfl)

end Classes

/-- A byte of an ASCII character stands in a text only for that character. -/
theorem exists_of_encode_eq_cons {cs : List Char} {c : Char} {bs : List UInt8} (hc : IsAscii c)
    (h : encode cs = c.toUInt8 :: bs) : ∃ cs', cs = c :: cs' ∧ encode cs' = bs := by
  cases cs with
  | nil => cases h
  | cons d cs =>
    by_cases hd : IsAscii d
    · rw [encode_cons, encodeChar_of_isAscii hd, List.singleton_append, List.cons.injEq] at h
      rw [(toUInt8_inj hd hc).1 h.1]
      exact ⟨cs, rfl, h.2⟩
    · obtain ⟨b, tail, heq, -⟩ := exists_encodeChar_eq_cons d
      rw [encode_cons, heq, List.cons_append, List.cons.injEq] at h
      have hle : 128 ≤ b.toNat := le_of_mem_encodeChar hd (heq ▸ List.mem_cons_self)
      rw [h.1, toNat_toUInt8 hc] at hle
      exact absurd hc (Nat.not_lt.2 hle)

end Utf8

end Stencil.Text
