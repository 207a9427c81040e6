import Stencil.Expr.Basic

/-!
# Stencil.Expr.Name — identifiers and paths

An identifier starts with an ASCII letter or `_` and goes on with letters, digits and
`_`. A dotted name joins identifiers by single dots. A path is a dotted name, possibly
behind `~` or behind a run of dots.

The readers take the longest such spelling from the front of a text and return it with
what is left; `takeDotted_append` says that nothing is lost.
-/

namespace Stencil.Expr.Name

/-- The characters that start an identifier. -/
def isHead (c : Char) : Bool := c.isAlpha || c == '_'

/-- The characters that continue an identifier. -/
def isBody (c : Char) : Bool := c.isAlphanum || c == '_'

/-- What a name may begin with, it may go on with. -/
theorem isBody_of_isHead {c : Char} (h : isHead c = true) : isBody c = true := by
  simp only [isHead, isBody, Char.isAlphanum, Bool.or_eq_true] at h ⊢
  exact h.imp_left Or.inl

/-- Whether the text starts with an identifier. -/
def startsIdent : List Char → Bool
  | c :: _ => isHead c
  | [] => false

/-- The longest run of identifier characters and of dots that each stand before another
identifier, and the rest. -/
def takeDotted : List Char → List Char × List Char
  | [] => ([], [])
  | c :: cs =>
    if isBody c || (c == '.' && startsIdent cs) then
      let (taken, rest) := takeDotted cs
      (c :: taken, rest)
    else ([], c :: cs)

/-- Nothing is lost. -/
theorem takeDotted_append (cs : List Char) : (takeDotted cs).1 ++ (takeDotted cs).2 = cs := by
  induction cs with
  | nil => rfl
  | cons c cs ih =>
    unfold takeDotted
    split
    · exact congrArg (c :: ·) ih
    · rfl

/-- An identifier at the front is taken. -/
theorem takeDotted_ne_nil {cs : List Char} (h : startsIdent cs = true) :
    (takeDotted cs).1 ≠ [] := by
  cases cs with
  | nil => cases h
  | cons c cs =>
    have hc : isBody c = true := isBody_of_isHead h
    simp [takeDotted, hc]

/-- The mark in front of a path: `~`, or as many dots as there are. -/
def takeAnchor : List Char → List Char × List Char
  | '~' :: cs => (['~'], cs)
  | cs => (cs.takeWhile (· == '.'), cs.dropWhile (· == '.'))

/-- An anchor and what is behind it make up what was there. -/
theorem takeAnchor_append (cs : List Char) : (takeAnchor cs).1 ++ (takeAnchor cs).2 = cs := by
  unfold takeAnchor
  split <;> simp

/-- The path at the front of the text, with the rest; none when no identifier follows the
anchor. -/
def takePath? (cs : List Char) : Option (List Char × List Char) :=
  let (anchor, body) := takeAnchor cs
  if startsIdent body then
    let (dotted, rest) := takeDotted body
    some (anchor ++ dotted, rest)
  else none

/-- A path and what is behind it make up what was there. -/
theorem takePath?_append {cs taken rest : List Char} (h : takePath? cs = some (taken, rest)) :
    taken ++ rest = cs := by
  have hd := takeDotted_append (takeAnchor cs).2
  have ha := takeAnchor_append cs
  simp only [takePath?] at h
  split at h
  · simp only [Option.some.injEq, Prod.mk.injEq] at h
    rw [← h.1, ← h.2, List.append_assoc, hd, ha]
  · simp at h

/-- A path takes at least one character. -/
theorem takePath?_ne_nil {cs taken rest : List Char} (h : takePath? cs = some (taken, rest)) :
    taken ≠ [] := by
  simp only [takePath?] at h
  split at h
  · next hs =>
    simp only [Option.some.injEq, Prod.mk.injEq] at h
    rw [← h.1]
    simp [takeDotted_ne_nil hs]
  · simp at h

/-- The property read from a call's result: a single dot right behind the parenthesis and a
dotted name. -/
def takeProperty? : List Char → Option (List Char × List Char)
  | '.' :: cs => if startsIdent cs then some (takeDotted cs) else none
  | _ => none

/-- A property, its dot and what is behind it make up what was there. -/
theorem takeProperty?_append {cs taken rest : List Char}
    (h : takeProperty? cs = some (taken, rest)) : '.' :: (taken ++ rest) = cs := by
  unfold takeProperty? at h
  split at h
  · next body =>
    split at h
    · have hd := takeDotted_append body
      simp only [Option.some.injEq] at h
      rw [h] at hd
      rw [hd]
    · simp at h
  · simp at h

end Stencil.Expr.Name
