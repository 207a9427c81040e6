/-!
# Stencil.Text.Utf8 — texts as bytes

`Utf8.encode` gives the bytes of a text. `Utf8.decode` reads bytes that need not be those
of a text: each longest start of a character that breaks off is replaced by U+FFFD, and so
is each byte that starts none.
-/

namespace Stencil.Text.Utf8

/-- The bytes of a character. -/
def encodeChar (c : Char) : List UInt8 := String.utf8EncodeChar c

/-- The bytes of a text. -/
def encode (cs : List Char) : List UInt8 := cs.flatMap encodeChar

/-- What the first byte of a character of several bytes says about the rest. -/
structure Lead where
  /-- The bits of the first byte. -/
  bits : Nat
  /-- How many bytes follow. -/
  more : Nat
  /-- The least and the greatest byte that may come next: other ones would make the character
  longer than needed, a surrogate, or too great. -/
  least : Nat
  greatest : Nat

/-- The lead a byte gives, if it starts a character of several bytes. -/
def lead? (n : Nat) : Option Lead :=
  if 0xC2 ≤ n && n ≤ 0xDF then some ⟨n % 0x20, 1, 0x80, 0xBF⟩
  else if n = 0xE0 then some ⟨n % 0x10, 2, 0xA0, 0xBF⟩
  else if n = 0xED then some ⟨n % 0x10, 2, 0x80, 0x9F⟩
  else if 0xE1 ≤ n && n ≤ 0xEF then some ⟨n % 0x10, 2, 0x80, 0xBF⟩
  else if n = 0xF0 then some ⟨n % 8, 3, 0x90, 0xBF⟩
  else if 0xF1 ≤ n && n ≤ 0xF3 then some ⟨n % 8, 3, 0x80, 0xBF⟩
  else if n = 0xF4 then some ⟨n % 8, 3, 0x80, 0x8F⟩
  else none

/-- What stands for bytes that are no character. -/
def replacement : Char := '\uFFFD'

/-- What a byte adds to the text where no character is open, and the character it opens. -/
def start (b : UInt8) : List Char × Option Lead :=
  if b < 0x80 then ([Char.ofNat b.toNat], none)
  else match lead? b.toNat with
    | some l => ([], some l)
    | none => ([replacement], none)

/-- What a byte adds to the text, and the character that is open behind it. A byte that cannot
go on with the open character ends that one and starts anew. -/
def step : Option Lead → UInt8 → List Char × Option Lead
  | none, b => start b
  | some l, b =>
    if l.least ≤ b.toNat && b.toNat ≤ l.greatest then
      let bits := l.bits * 0x40 + b.toNat % 0x40
      if l.more ≤ 1 then ([Char.ofNat bits], none)
      else ([], some ⟨bits, l.more - 1, 0x80, 0xBF⟩)
    else (replacement :: (start b).1, (start b).2)

/-- Reads on with a character that is open, or with none. -/
def decodeFrom (opened? : Option Lead) : List UInt8 → List Char
  | [] => if opened?.isSome then [replacement] else []
  | b :: bs =>
    let (cs, opened?) := step opened? b
    cs ++ decodeFrom opened? bs

/-- The text of bytes. -/
def decode (bs : List UInt8) : List Char := decodeFrom none bs

end Stencil.Text.Utf8
