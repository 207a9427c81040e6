import Stencil.Text.Width.Table

/-!
# Stencil.Text.Width.Basic — the columns a text takes on a terminal

Most characters have a width that does not depend on their neighbours (`charWidth?`). In
a text some are shown together: emoji with a selector, a skin tone or a joiner, flags,
and the ligatures of a few scripts. What a character adds there depends on what stands
behind it, so a text is measured from its end (`measure`); the state in between is a
`Follower`. What is added may be negative, when two characters that were counted turn out
to share their columns.
-/

namespace Stencil.Text

/-! ## What follows a character -/

/-- What a text begins with, as far as the character before it is concerned. -/
inductive Shape where
  | plain
  | lineFeed
  | emoji
  | skinTone
  /-- A letter of a flag, alone or with others behind it. -/
  | flagLetter (more : Bool)
  /-- A joiner with an emoji behind it. -/
  | joinedEmoji
  /-- A keycap mark with a joiner and an emoji behind it. -/
  | keycapJoined
  /-- Letters of a flag with a joiner and an emoji behind them. -/
  | flagJoined (count : Nat)
  /-- The end of a tag, its letters and its digits so far, with a joiner and an emoji behind. -/
  | tagJoined (letters digits : Nat)
  | alef
  | lamed (joined : Bool)
  | bugineseYa (joined : Bool)
  | bugineseVowelYa
  | tifinagh (joined : Bool)
  | tifinaghJoined
  | khmer
  | lisu
  | oldTurkic (joined : Bool)
  | kiratRaiE
  | kiratRaiAi
deriving DecidableEq

/-- A variation selector in front. -/
inductive Selector where
  | text
  | emoji
  | wideQuote
deriving DecidableEq

/-- What stands behind a character. -/
structure Follower where
  shape : Shape
  selector : Option Selector
deriving DecidableEq

namespace Follower

/-- Nothing that matters. -/
def none : Follower := ⟨.plain, .none⟩

/-- A shape without a selector. -/
def of (shape : Shape) : Follower := ⟨shape, .none⟩

end Follower

namespace Shape

/-- Whether the shape waits for a letter it forms a ligature with, over characters that do not
show. -/
def isLigature : Shape → Bool
  | lamed _ | bugineseYa _ | bugineseVowelYa | tifinagh _ | tifinaghJoined | khmer | lisu
  | oldTurkic _ => true
  | _ => false

/-- Whether the shape lasts when a selector stands in front. -/
def outlastsSelector : Shape → Bool
  | alef => true
  | s => s.isLigature

/-- Whether an emoji in front belongs to the one that follows. -/
def joinsEmoji : Shape → Bool
  | joinedEmoji | keycapJoined => true
  | _ => false

/-- The shape with a joiner in front. -/
def joined : Shape → Shape
  | lamed _ => lamed true
  | bugineseYa _ => bugineseYa true
  | tifinagh _ => tifinagh true
  | oldTurkic _ => oldTurkic true
  | s => s

/-- The shape with a selector in front. -/
def select (s : Shape) (selector : Selector) : Follower :=
  let kept := s.outlastsSelector || (s.joinsEmoji && selector = .emoji)
  ⟨if kept then s else plain, some selector⟩

/-- The shape that stays when a selector had no effect. -/
def unselected (s : Shape) : Shape := if s.outlastsSelector then s else plain

end Shape

/-! ## Single characters -/

/-- Whether a code lies between two others. -/
def within (lo hi n : Nat) : Bool := lo ≤ n && n ≤ hi

/-- Whether an emoji selector has an effect behind the character. -/
def takesEmojiSelector (c : Char) : Bool := emojiSelectable.contains c

/-- Whether a text selector makes the character narrow. -/
def takesTextSelector (c : Char) : Bool :=
  emojiSelectable.contains c && !within 0x3030 0x3299 c.toNat && !within 0x1F200 0x1F2FF c.toNat

/-- The width of a printing character and the shape it gives a text it begins. -/
def classify (c : Char) : Nat × Follower :=
  let n := c.toNat
  if n = 0x0A then (1, .of .lineFeed)
  else if n = 0x05DC then (1, .of (.lamed false))
  else if alefs.contains c then (1, .of .alef)
  else if khmerSubscripts.contains c then (1, .of .khmer)
  else if n = 0x17D8 then (3, .none)
  else if n = 0x1A10 then (1, .of (.bugineseYa false))
  else if tifinaghConsonants.contains c then (1, .of (.tifinagh false))
  else if within 0xA4FC 0xA4FD n then (1, .of .lisu)
  else if n = 0xFE01 then (0, ⟨.plain, some .wideQuote⟩)
  else if n = 0xFE0E then (0, ⟨.plain, some .text⟩)
  else if n = 0xFE0F then (0, ⟨.plain, some .emoji⟩)
  else if n = 0x10C03 then (1, .of (.oldTurkic false))
  else if n = 0x16D67 then (1, .of .kiratRaiE)
  else if n = 0x16D68 then (1, .of .kiratRaiAi)
  else if within 0x1F1E6 0x1F1FF n then (1, .of (.flagLetter false))
  else if within 0x1F3FB 0x1F3FF n then (2, .of .skinTone)
  else if emojiByDefault.contains c then (2, .of .emoji)
  else if zeroWidth.contains c then (0, .none)
  else if wide.contains c then (2, .none)
  else (1, .none)

/-- The width of a character that stands alone; control characters have none. -/
def charWidth? (c : Char) : Option Nat :=
  if c.toNat < 0x20 || within 0x7F 0x9F c.toNat then none
  else if c.toNat < 0x7F then some 1
  else some (classify c).1

/-! ## Characters in a text -/

/-- What a character does in front of a shape, if it is shown together with it. -/
def combine (c : Char) (s : Shape) : Option (Int × Shape) :=
  let n := c.toNat
  let isFlagLetter := within 0x1F1E6 0x1F1FF n
  match s with
  | .alef =>
    if lams.contains c then some (0, .plain)
    else if zeroWidth.contains c && !joiningOpaque.contains c then some (0, .alef)
    else none
  | .lamed true => if n = 0x05D0 then some (0, .plain) else none
  | .khmer => if n = 0x17D2 then some (-1, .plain) else none
  | .bugineseYa true => if n = 0x1A17 then some (0, .bugineseVowelYa) else none
  | .bugineseVowelYa => if n = 0x1A15 then some (0, .plain) else none
  | .tifinagh joined =>
    if n = 0x2D7F then some (1, .tifinaghJoined)
    else if joined && tifinaghConsonants.contains c then some (0, .plain)
    else none
  | .tifinaghJoined => if tifinaghConsonants.contains c then some (-1, .plain) else none
  | .lisu => if within 0xA4F8 0xA4FB n then some (0, .plain) else none
  | .oldTurkic true => if n = 0x10C32 then some (0, .plain) else none
  | .kiratRaiE =>
    if n = 0x16D63 then some (0, .plain)
    else if n = 0x16D67 then some (0, .kiratRaiAi)
    else if n = 0x16D68 then some (1, .kiratRaiE)
    else if n = 0x16D69 then some (0, .plain)
    else none
  | .kiratRaiAi => if n = 0x16D63 then some (0, .plain) else none
  | .emoji => if n = 0x200D then some (0, .joinedEmoji) else none
  | .skinTone =>
    if emojiModifiable.contains c then some (0, .emoji)
    else if n = 0x200D then some (0, .joinedEmoji)
    else none
  | .flagLetter more =>
    if isFlagLetter then some (1, .flagLetter true)
    else if more && n = 0x200D then some (0, .joinedEmoji)
    else none
  | .joinedEmoji =>
    if n = 0x20E3 then some (0, .keycapJoined)
    else if isFlagLetter then some (1, .flagJoined 1)
    else if within 0x1F3FB 0x1F3FF n then some (0, .skinTone)
    else if n = 0xE007F then some (0, .tagJoined 0 0)
    else if emojiByDefault.contains c then some (0, .emoji)
    else none
  | .flagJoined count =>
    if isFlagLetter then some (if count % 2 = 1 then -1 else 3, .flagJoined (count + 1))
    else if n = 0x200D && 2 ≤ count then some (0, .joinedEmoji)
    else none
  | .tagJoined letters digits =>
    if within 0xE0061 0xE007A n && digits = 0 && letters < 6 then
      some (0, .tagJoined (letters + 1) 0)
    else if within 0xE0030 0xE0039 n && letters ≤ 4 && digits < 3 then
      some (0, .tagJoined letters (digits + 1))
    else if n = 0x1F3F4 && (digits = 3 || (digits = 0 && 3 ≤ letters)) then some (0, .emoji)
    else none
  | _ => none

/-- What a character adds in front of a shape that no selector precedes. -/
def addBefore (c : Char) (s : Shape) : Int × Follower :=
  if s.isLigature && c.toNat = 0x200D then (0, .of s.joined)
  else if s.isLigature && ligatureTransparent.contains c then (0, .of s)
  else
    match combine c s with
    | some (width, s) => (width, .of s)
    | none => ((classify c).1, (classify c).2)

/-- What a character adds in front of what follows it, and what then stands there. -/
def add (c : Char) (f : Follower) : Int × Follower :=
  if f.selector = some .emoji && takesEmojiSelector c then
    (if f.shape.joinsEmoji then 0 else 2, .of .emoji)
  else
    let f := if f.selector = some .emoji then .of f.shape.unselected else f
    if c.toNat ≤ 0xA0 then
      if c = '\n' then (1, .of .lineFeed)
      else if c = '\r' && f.shape = .lineFeed then (0, .none)
      else (1, .none)
    else if c.toNat = 0xFE0F then (0, f.shape.select .emoji)
    else if c.toNat = 0xFE0E then (0, f.shape.select .text)
    else if c.toNat = 0xFE01 then (0, f.shape.select .wideQuote)
    else
      match f.selector with
      | some .text => if takesTextSelector c then (1, .none) else addBefore c f.shape.unselected
      | some .wideQuote =>
        if within 0x2018 0x2019 c.toNat || within 0x201C 0x201D c.toNat then (2, .none)
        else addBefore c f.shape.unselected
      | _ => addBefore c f.shape

/-- The columns of a text and the way it begins. -/
def measure (cs : List Char) : Int × Follower :=
  cs.foldr (fun c (width, f) => ((add c f).1 + width, (add c f).2)) (0, .none)

@[simp] theorem measure_nil : measure [] = (0, .none) := rfl

@[simp] theorem measure_cons (c : Char) (cs : List Char) :
    measure (c :: cs) = ((add c (measure cs).2).1 + (measure cs).1, (add c (measure cs).2).2) := rfl

/-- The columns a text takes. -/
def columns (cs : List Char) : Nat := (measure cs).1.toNat

end Stencil.Text
