import Stencil.Modifier.Basic
import Stencil.Modifier.Library
import Stencil.Text.Blank
import Stencil.Text.Case.Basic

/-!
# Stencil.Modifier.Builtin — the modifiers every template has

All of them work on the text of a value and give a text: changes of case, trimming,
fitting to a width (`pad`, `truncate`), encodings, and the value as a document. How wide a
text is and how it is encoded is left to a library.
-/

namespace Stencil.Modifier

/-! ## Plain texts -/

/-- A modifier without arguments that works on texts. -/
def onText (f : List Char → List Char) : Modifier := fun v _ =>
  .ok (.text (String.ofList (f v.display.toList)))

/-- The value as a document on one line. -/
def json : Modifier := fun v _ => .ok (.text v.toJson.compact)

/-- The text with a line break behind it. -/
def line : Modifier := fun v _ => .ok (.text (v.display ++ "\n"))

-- what widths and encodings are
variable (L : Library)

/-! ## Encodings -/

/-- The encodings that `encode` and `decode` know. -/
inductive Encoding where
  | html
  | uri

/-- The encoding that the arguments name; without any it is that of HTML. -/
def Encoding.ofArgs (args : List Value) : Except RenderError Encoding :=
  match args with
  | [] => .ok html
  | v :: _ =>
    if v.display = "html" then .ok html
    else if v.display = "uri" then .ok uri
    else .error (.callback ("unsupported encoding '" ++ v.display ++ "'"))

/-- A text encoded. -/
def Encoding.encode : Encoding → List Char → List Char
  | html => L.encodeHtml
  | uri => L.encodeUri

/-- The text that an encoded text stands for. Escapes are replaced byte by byte. -/
def Encoding.decode : Encoding → List Char → List Char
  | html, cs => L.decodeHtml cs
  | uri, cs => Text.Utf8.decode (L.decodeUri (Text.Utf8.encode cs))

/-- Encodes the text. -/
def encode : Modifier := fun v args => do onText ((← Encoding.ofArgs args).encode L) v args

/-- Decodes the text. -/
def decode : Modifier := fun v args => do onText ((← Encoding.ofArgs args).decode L) v args

/-! ## Widths -/

/-- A finite number without its fraction. -/
def whole (x : Float) : Float := if x < 0 then x.ceil else x.floor

/-- The width that a modifier is given as its first argument. -/
def width (name : String) (args : List Value) : Except RenderError Float :=
  let x := (args.head?.map Value.toNumber).getD (0 / 0)
  if x.isFinite then .ok (whole x)
  else .error (.callback (name ++ " requires a numeric width"))

/-- The greatest width that `pad` fills. -/
def maxPadWidth : Nat := Nat.pow 2 16

/-- The padding that brings a text of `current` columns as near to `target` as whole copies of
`fill` allow. -/
def padding (fill : Char) (current target : Nat) : List Char :=
  List.replicate ((target - current) / max 1 ((L.charWidth? fill).getD 1)) fill

/-- Fills the text up to a width: in front of it when the width is positive, else behind it. -/
def pad : Modifier := fun v args => do
  let width ← width "pad" args
  let fill := (args[1]?.bind fun fill => fill.display.toList.head?).getD ' '
  if width.abs > maxPadWidth.toFloat then
    throw (.callback ("pad width " ++ Value.writeFinite width ++ " exceeds the limit of " ++
      toString maxPadWidth))
  let cs := v.display.toList
  let padding := padding L fill (L.columns cs) width.abs.toUInt64.toNat
  return .text (String.ofList (if width > 0 then padding ++ cs else cs ++ padding))

/-- The longest start of a text whose characters take at most so many columns, each counted as
if it stood alone. -/
def takeColumns : Nat → List Char → List Char
  | _, [] => []
  | room, c :: cs =>
    let width := (L.charWidth? c).getD 0
    if width ≤ room then c :: takeColumns (room - width) cs else []

/-- The text cut to a width if it is wider, with the ellipsis at its end. -/
def cut (width : Nat) (ellipsis cs : List Char) : List Char :=
  let mark := L.columns ellipsis
  if L.columns cs ≤ width then cs
  else if width ≤ mark then takeColumns L width ellipsis
  else takeColumns L (width - mark) cs ++ ellipsis

/-- Cuts the text to a width. -/
def truncate : Modifier := fun v args => do
  let width ← width "truncate" args
  let ellipsis := (args[1]?.map fun e => e.display.toList).getD ['…']
  return .text (String.ofList (cut L width.toUInt64.toNat ellipsis v.display.toList))

end Modifier

/-- The modifiers that need not be registered, over a library. -/
def Modifiers.ofLibrary (L : Library) : Modifiers := ⟨[
  ("upper", Modifier.onText Text.upper),
  ("lower", Modifier.onText Text.lower),
  ("trim", Modifier.onText Text.trim),
  ("pad", Modifier.pad L),
  ("truncate", Modifier.truncate L),
  ("encode", Modifier.encode L),
  ("decode", Modifier.decode L),
  ("json", Modifier.json),
  ("nl", Modifier.line)]⟩

/-- The modifiers that templates are rendered with, unless others are registered. -/
def Modifiers.builtin : Modifiers := ofLibrary .standard

end Stencil
