import Stencil.Proofs.Text.Bytes

/-!
# Stencil.Proofs.Text.Utf8 — bytes read back as their text

The bytes of a text are read as that text (`Utf8.decode_encode`). The first byte of a character
holds its highest bits and says between which bounds the next byte lies; a code that is written
with that many bytes, and is no surrogate, keeps to them.
-/

namespace Stencil.Text.Utf8

variable {n : Nat} (rest : List UInt8)

/-! ## One byte -/

/-- A byte below 128 stands for itself. -/
theorem decodeFrom_ascii (h : n < 0x80) :
    decodeFrom none (UInt8.ofNat n :: rest) = Char.ofNat n :: decodeFrom none rest := by
  have hnat : (UInt8.ofNat n).toNat = n := by
    rw [UInt8.toNat_ofNat']
    omega
  have hlt : UInt8.ofNat n < 0x80 := UInt8.lt_iff_toNat_lt.2 (hnat.symm ▸ h)
  rw [decodeFrom, step, start, if_pos hlt, hnat]
  rfl

/-- A byte that opens a character. -/
theorem decodeFrom_open {l : Lead} (hn : n < 0x100) (h : lead? n = some l) (hle : 0x80 ≤ n) :
    decodeFrom none (UInt8.ofNat n :: rest) = decodeFrom (some l) rest := by
  have hnat : (UInt8.ofNat n).toNat = n := by
    rw [UInt8.toNat_ofNat']
    omega
  have hlt : ¬ UInt8.ofNat n < 0x80 :=
    fun hlt => Nat.not_lt.2 hle (hnat ▸ UInt8.lt_iff_toNat_lt.1 hlt)
  rw [decodeFrom, step, start, if_neg hlt, hnat, h]
  rfl

/-- What follows an open character when its next byte holds the six bits `n`. -/
theorem decodeFrom_more {l : Lead} (hn : n < 0x40) (hleast : l.least ≤ n + 0x80)
    (hgreatest : n + 0x80 ≤ l.greatest) :
    decodeFrom (some l) (UInt8.ofNat (n + 0x80) :: rest) =
      if l.more ≤ 1 then Char.ofNat (l.bits * 0x40 + n) :: decodeFrom none rest
      else decodeFrom (some ⟨l.bits * 0x40 + n, l.more - 1, 0x80, 0xBF⟩) rest := by
  have hnat : (UInt8.ofNat (n + 0x80)).toNat = n + 0x80 := by
    rw [UInt8.toNat_ofNat']
    omega
  have hbits : (n + 0x80) % 0x40 = n := by omega
  have hfits : (decide (l.least ≤ n + 0x80) && decide (n + 0x80 ≤ l.greatest)) = true := by
    rw [decide_eq_true hleast, decide_eq_true hgreatest, Bool.and_self]
  rw [decodeFrom, step, hnat, if_pos hfits, hbits]
  by_cases hlast : l.more ≤ 1
  · simp only [if_pos hlast]
    rfl
  · simp only [if_neg hlast]
    rfl

/-! ## What a first byte says -/

/-- The first of two bytes. -/
theorem exists_lead_two (hlow : 0x80 ≤ n) (hhigh : n ≤ 0x7FF) :
    ∃ l, lead? (n / 64 % 0x20 + 0xC0) = some l ∧ l.bits = n / 64 ∧ l.more = 1 ∧
      l.least ≤ n % 64 + 0x80 ∧ n % 64 + 0x80 ≤ l.greatest := by
  refine ⟨_, if_pos ?_, ?_, rfl, ?_, ?_⟩
  · rw [Bool.and_eq_true, decide_eq_true_iff, decide_eq_true_iff]
    omega
  · show (n / 64 % 0x20 + 0xC0) % 0x20 = n / 64
    omega
  · show 0x80 ≤ n % 64 + 0x80
    omega
  · show n % 64 + 0x80 ≤ 0xBF
    omega

/-- The first of three. -/
theorem exists_lead_three (hlow : 0x7FF < n) (hhigh : n ≤ 0xFFFF) (hvalid : n.isValidChar) :
    ∃ l, lead? (n / 4096 % 0x10 + 0xE0) = some l ∧ l.bits = n / 4096 ∧ l.more = 2 ∧
      l.least ≤ n / 64 % 64 + 0x80 ∧ n / 64 % 64 + 0x80 ≤ l.greatest := by
  -- the first byte that could begin a surrogate leaves no room for one in the second
  have hsurrogate : n < 0xD800 ∨ 0xDFFF < n := hvalid.imp id And.left
  unfold lead?
  simp only [Bool.and_eq_true, decide_eq_true_eq]
  rw [if_neg (by omega)]
  split
  · exact ⟨_, rfl, by dsimp only; omega, rfl, by dsimp only; omega, by dsimp only; omega⟩
  split
  · exact ⟨_, rfl, by dsimp only; omega, rfl, by dsimp only; omega, by dsimp only; omega⟩
  rw [if_pos (by omega)]
  exact ⟨_, rfl, by dsimp only; omega, rfl, by dsimp only; omega, by dsimp only; omega⟩

/-- The first of four. -/
theorem exists_lead_four (hlow : 0xFFFF < n) (hhigh : n < 0x110000) :
    ∃ l, lead? (n / 262144 % 8 + 0xF0) = some l ∧ l.bits = n / 262144 ∧ l.more = 3 ∧
      l.least ≤ n / 4096 % 64 + 0x80 ∧ n / 4096 % 64 + 0x80 ≤ l.greatest := by
  unfold lead?
  simp only [Bool.and_eq_true, decide_eq_true_eq]
  rw [if_neg (by omega), if_neg (by omega), if_neg (by omega), if_neg (by omega)]
  split
  · exact ⟨_, rfl, by dsimp only; omega, rfl, by dsimp only; omega, by dsimp only; omega⟩
  split
  · exact ⟨_, rfl, by dsimp only; omega, rfl, by dsimp only; omega, by dsimp only; omega⟩
  rw [if_pos (by omega)]
  exact ⟨_, rfl, by dsimp only; omega, rfl, by dsimp only; omega, by dsimp only; omega⟩

/-! ## Texts -/

/-- **A character is read back** from its bytes. -/
theorem decodeFrom_encodeChar (c : Char) :
    decodeFrom none (encodeChar c ++ rest) = c :: decodeFrom none rest := by
  have hvalid : c.toNat.isValidChar := c.valid
  have hlt : c.toNat < 0x110000 := hvalid.elim (fun h => Nat.lt_trans h (by decide)) And.right
  have hcode : Char.ofNat c.toNat = c := Char.ofNat_toNat c
  unfold encodeChar String.utf8EncodeChar
  simp only [show c.val.toNat = c.toNat from rfl]
  generalize c.toNat = n at *
  -- one case for each number of bytes; all but the first hold six bits, the last ones last
  split
  · exact (decodeFrom_ascii rest (by omega)).trans (by rw [hcode])
  split
  · obtain ⟨l, hl, hbits, hmore, hleast, hgreatest⟩ := exists_lead_two (n := n) (by omega) (by omega)
    rw [List.cons_append, decodeFrom_open _ (by omega) hl (by omega), List.cons_append,
      decodeFrom_more _ (by omega) hleast hgreatest, if_pos (by omega), hbits]
    rw [show n / 64 * 0x40 + n % 64 = n by omega, hcode]
    rfl
  split
  · obtain ⟨l, hl, hbits, hmore, hleast, hgreatest⟩ :=
      exists_lead_three (n := n) (by omega) (by omega) hvalid
    rw [List.cons_append, decodeFrom_open _ (by omega) hl (by omega), List.cons_append,
      decodeFrom_more _ (by omega) hleast hgreatest, if_neg (by omega), List.cons_append,
      decodeFrom_more _ (by omega) (by dsimp only; omega) (by dsimp only; omega),
      if_pos (by dsimp only; omega)]
    dsimp only
    rw [hbits, show (n / 4096 * 0x40 + n / 64 % 64) * 0x40 + n % 64 = n by omega, hcode]
    rfl
  · obtain ⟨l, hl, hbits, hmore, hleast, hgreatest⟩ :=
      exists_lead_four (n := n) (by omega) (by omega)
    rw [List.cons_append, decodeFrom_open _ (by omega) hl (by omega), List.cons_append,
      decodeFrom_more _ (by omega) hleast hgreatest, if_neg (by omega), List.cons_append,
      decodeFrom_more _ (by omega) (by dsimp only; omega) (by dsimp only; omega),
      if_neg (by dsimp only; omega), List.cons_append,
      decodeFrom_more _ (by omega) (by dsimp only; omega) (by dsimp only; omega),
      if_pos (by dsimp only; omega)]
    dsimp only
    rw [hbits, show ((n / 262144 * 0x40 + n / 4096 % 64) * 0x40 + n / 64 % 64) * 0x40 + n % 64 = n
      by omega, hcode]
    rfl

/-- The bytes of a text are read as that text. -/
theorem decode_encode (cs : List Char) : decode (encode cs) = cs := by
  unfold decode
  induction cs with
  | nil => rfl
  | cons c cs ih => rw [encode_cons, decodeFrom_encodeChar, ih]

end Stencil.Text.Utf8
