import Stencil.Text.Entity.Basic
import Stencil.Text.Percent
import Stencil.Text.Width.Basic

/-!
# Stencil.Modifier.Library — what modifiers take from elsewhere

How wide characters and texts are shown, and how a text is written inside HTML or an address,
is not for the modifiers to say. They are given a library that knows; `Library.standard` is the
one that templates are rendered with.
-/

namespace Stencil

/-- Widths and encodings. -/
structure Library where
  /-- The columns of a character that has a width of its own. -/
  charWidth? : Char → Option Nat
  /-- The columns of a text. -/
  columns : List Char → Nat
  /-- A text as it is written inside a quoted attribute. -/
  encodeHtml : List Char → List Char
  /-- A text with its references replaced. -/
  decodeHtml : List Char → List Char
  /-- A text percent encoded. -/
  encodeUri : List Char → List Char
  /-- Bytes with their percent escapes replaced. -/
  decodeUri : List UInt8 → List UInt8

/-- The widths and encodings of texts. -/
def Library.standard : Library where
  charWidth? := Text.charWidth?
  columns := Text.columns
  encodeHtml := Text.Entity.encode
  decodeHtml := Text.Entity.decode
  encodeUri := Text.Percent.encode
  decodeUri := Text.Percent.decode

end Stencil
