import Stencil.Text.Utf8

/-!
# Stencil.Text.Percent — percent encoding

Every byte but letters, digits and `-_.~` is written as a percent sign and two
hexadecimal digits. Reading undoes that, and keeps a percent sign that is followed by
anything else.
-/

namespace Stencil.Text.Percent

/-- Whether a byte is written as it is. -/
def isPlain (b : UInt8) : Bool :=
  let c := Char.ofNat b.toNat
  b.toNat < 0x80 && (c.isAlphanum || c = '-' || c = '_' || c = '.' || c = '~')

/-- The upper-case hexadecimal digit of a number below 16. -/
def digit (n : Nat) : Char := if n < 10 then Char.ofNat (48 + n) else Char.ofNat (55 + n)

/-- The number of a hexadecimal digit, whose byte is given. -/
def value? (b : UInt8) : Option Nat :=
  let n := b.toNat
  if 48 ≤ n && n ≤ 57 then some (n - 48)
  else if 65 ≤ n && n ≤ 70 then some (n - 55)
  else if 97 ≤ n && n ≤ 102 then some (n - 87)
  else none

/-- A byte as it is written. -/
def encodeByte (b : UInt8) : List Char :=
  if isPlain b then [Char.ofNat b.toNat]
  else ['%', digit (b.toNat / 16), digit (b.toNat % 16)]

/-- The text percent encoded. -/
def encode (cs : List Char) : List Char := (Utf8.encode cs).flatMap encodeByte

/-- The byte of the percent sign. -/
def sign : UInt8 := 37

/-- The byte that three bytes stand for, if they are an escape. -/
def escape? (b high low : UInt8) : Option UInt8 :=
  if b = sign then
    match value? high, value? low with
    | some h, some l => some (UInt8.ofNat (h * 16 + l))
    | _, _ => none
  else none

/-- The bytes that percent encoded bytes stand for. -/
def decode : List UInt8 → List UInt8
  | b :: high :: low :: rest =>
    match escape? b high low with
    | some byte => byte :: decode rest
    | none => b :: decode (high :: low :: rest)
  | bs => bs

end Stencil.Text.Percent
