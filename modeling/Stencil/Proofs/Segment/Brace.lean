import Mathlib.Data.List.TakeWhile
import Stencil.Proofs.Segment.Grammar

/-!
# Stencil.Proofs.Segment.Brace — the readers find the directives of the grammar

The readers of `Stencil.Segment.Brace` go by characters, the grammar by bytes. What
`takeDirective?` reads is a directive of the grammar (`directiveAt_of_takeDirective?`,
`DirectiveAt.isDirective`), and where the bytes of a text start with a directive it reads one
(`takeDirective?_of_isDirective`).
-/

namespace Stencil.Segment

open Text Grammar

/-! ## Contents and arguments -/

namespace Grammar

/-- A character within a directive is passed, byte for byte; a quote opens a literal. -/
theorem content?_char {c : Char} (hclose : c ≠ '\x7d') (hopen : c ≠ '\x7b') (bs : List UInt8) :
    content? none (Utf8.encodeChar c ++ bs) =
      content? ((if isQuote c then some c else none).map Char.toUInt8) bs := by
  by_cases hascii : IsAscii c
  · have hclose' : c.toUInt8 ≠ '\x7d'.toUInt8 := fun h =>
      hclose ((Utf8.toUInt8_inj hascii (by decide)).1 h)
    have hopen' : c.toUInt8 ≠ '\x7b'.toUInt8 := fun h =>
      hopen ((Utf8.toUInt8_inj hascii (by decide)).1 h)
    rw [Utf8.encodeChar_of_isAscii hascii, List.singleton_append, content?, if_neg hclose',
      if_neg hopen', Utf8.toChar_toUInt8 hascii]
    split <;> rfl
  · have hquote : ¬ isQuote c = true := fun h => hascii (isAscii_of_isQuote h)
    rw [if_neg hquote]
    refine readsLiterals_content?.high_append none ?_
      (fun b hb => Utf8.le_of_mem_encodeChar hascii hb) bs
    intro q hq
    cases hq

/-- So is one within arguments, where parentheses are counted too. -/
theorem arguments?_char {c : Char} (hbrace : ¬ (c = '\x7b' ∨ c = '\x7d')) {depth : Nat}
    (hend : ¬ (c = ')' ∧ depth = 0)) (bs : List UInt8) :
    arguments? depth none (Utf8.encodeChar c ++ bs) =
      arguments? (if c = '(' then depth + 1 else if c = ')' then depth - 1 else depth)
        ((if isQuote c then some c else none).map Char.toUInt8) bs := by
  by_cases hascii : IsAscii c
  · have hbyte : ∀ d, IsAscii d → (c.toUInt8 = d.toUInt8 ↔ c = d) := fun d hd =>
      Utf8.toUInt8_inj hascii hd
    rw [Utf8.encodeChar_of_isAscii hascii, List.singleton_append, arguments?,
      Utf8.toChar_toUInt8 hascii]
    simp only [hbyte '\x7b' (by decide), hbyte '\x7d' (by decide), hbyte '(' (by decide),
      hbyte ')' (by decide), if_neg hbrace, if_neg hend]
    congr 1
    split <;> rfl
  · -- the bytes of any other character are none that count
    have hquote : ¬ isQuote c = true := fun h => hascii (isAscii_of_isQuote h)
    have hleft : c ≠ '(' := by rintro rfl; exact hascii (by decide)
    have hright : c ≠ ')' := by rintro rfl; exact hascii (by decide)
    rw [if_neg hquote, if_neg hleft, if_neg hright]
    refine (readsLiterals_arguments? depth).high_append none ?_
      (fun b hb => Utf8.le_of_mem_encodeChar hascii hb) bs
    intro q hq
    cases hq

end Grammar

/-- Where a literal is open behind a character, its quote is one. -/
theorem isQuote_of_mem_ite {c q : Char} (h : q ∈ if isQuote c then some c else none) :
    isQuote q = true := by
  split at h
  · cases h
    assumption
  · cases h

/-- A quote is open as long as it is not met again. -/
theorem isQuote_of_mem_ite_none {p : Prop} [Decidable p] {q q' : Char} (hq : isQuote q = true)
    (h : q' ∈ if p then none else some q) : isQuote q' = true := by
  split at h
  · cases h
  · cases h
    exact hq

/-- By bytes a content ends where it ends by characters. -/
theorem map_takeContent (quote : Option Char) (hquote : ∀ q ∈ quote, isQuote q = true)
    (cs : List Char) :
    (takeContent quote cs).map (fun x => Utf8.encode x.2) =
      content? (quote.map Char.toUInt8) (Utf8.encode cs) := by
  fun_induction takeContent quote cs with
  | case1 => rfl
  | case2 => rfl
  | case3 q d cs ih =>
    rw [Option.map_map]
    exact (ih hquote).trans (readsLiterals_content?.escapeChar (hquote q rfl) d _).symm
  | case4 c cs q hc ih =>
    rw [Option.map_map]
    exact (ih fun _ h => isQuote_of_mem_ite_none (hquote q rfl) h).trans
      (readsLiterals_content?.char (hquote q rfl) hc _).symm
  | case5 => rfl
  | case6 => rfl
  | case7 c cs hclose hopen ih =>
    rw [Option.map_map]
    exact (ih fun _ => isQuote_of_mem_ite).trans (content?_char hclose hopen _).symm

/-- By bytes arguments end where they end by characters. -/
theorem map_takeArguments (depth : Nat) (quote : Option Char)
    (hquote : ∀ q ∈ quote, isQuote q = true) (cs : List Char) :
    (takeArguments depth quote cs).map (fun x => Utf8.encode x.2) =
      arguments? depth (quote.map Char.toUInt8) (Utf8.encode cs) := by
  fun_induction takeArguments depth quote cs with
  | case1 => rfl
  | case2 => rfl
  | case3 depth q d cs ih =>
    rw [Option.map_map]
    exact (ih hquote).trans ((readsLiterals_arguments? depth).escapeChar (hquote q rfl) d _).symm
  -- within a literal, the quote may end it
  | case4 depth c cs q hc ih =>
    rw [Option.map_map]
    exact (ih fun _ h => isQuote_of_mem_ite_none (hquote q rfl) h).trans
      ((readsLiterals_arguments? depth).char (hquote q rfl) hc _).symm
  | case5 depth c cs hbrace =>
    rcases hbrace with rfl | rfl <;> rfl
  | case6 depth c cs hbrace hend =>
    obtain ⟨rfl, rfl⟩ := hend
    rfl
  | case7 depth c cs hbrace hend depth' ih =>
    rw [Option.map_map]
    exact (ih fun _ => isQuote_of_mem_ite).trans (arguments?_char hbrace hend _).symm

/-- Whether a reader of characters goes up to a closing character, and ends where the bytes of a
text end that are like this and have the closing byte behind them. -/
structure EndsAs (Q : List UInt8 → Prop) (close : Char)
    (take : List Char → Option (List Char × List Char)) : Prop where
  append {cs text rest : List Char} (h : take cs = some (text, rest)) : text ++ close :: rest = cs
  isAscii : IsAscii close
  ends (cs : List Char) (rest : List UInt8) :
    (take cs).map (fun x => Utf8.encode x.2) = some rest ↔
      ∃ w, Q w ∧ Utf8.encode cs = w ++ close.toUInt8 :: rest

namespace EndsAs

variable {Q : List UInt8 → Prop} {close : Char} {take : List Char → Option (List Char × List Char)}
  (h : EndsAs Q close take)
include h

/-- What is read is like this. -/
theorem holds {cs text rest : List Char} (htake : take cs = some (text, rest)) :
    Q (Utf8.encode text) := by
  have hend : (take cs).map (fun x => Utf8.encode x.2) = some (Utf8.encode rest) := by
    rw [htake]
    rfl
  obtain ⟨w, hw, heq⟩ := (h.ends cs _).1 hend
  -- both end at the same closing byte
  rw [← h.append htake, Utf8.encode_append, Utf8.encode_cons,
    Utf8.encodeChar_of_isAscii h.isAscii, List.singleton_append] at heq
  rw [List.append_cancel_right heq]
  exact hw

/-- Something is read wherever there are such bytes, and no more than these. -/
theorem exists_take {cs : List Char} {w rest : List UInt8} (hw : Q w)
    (heq : Utf8.encode cs = w ++ close.toUInt8 :: rest) :
    ∃ text rest', take cs = some (text, rest') ∧ Utf8.encode rest' = rest := by
  obtain ⟨⟨text, rest'⟩, htake, hrest⟩ :=
    Option.map_eq_some_iff.1 ((h.ends cs rest).2 ⟨w, hw, heq⟩)
  exact ⟨text, rest', htake, hrest⟩

end EndsAs

/-- Contents are taken up to the brace that ends them. -/
theorem endsAs_takeContent : EndsAs IsContent '\x7d' (takeContent none) where
  append := takeContent_append
  isAscii := by decide
  ends cs rest := by
    rw [map_takeContent none (fun _ h => nomatch h) cs, Option.map_none]
    exact content?_eq_some_iff

/-- Arguments are taken up to the parenthesis that closes them. -/
theorem endsAs_takeArguments : EndsAs IsArguments ')' (takeArguments 0 none) where
  append := takeArguments_append
  isAscii := by decide
  ends cs rest := by
    rw [map_takeArguments 0 none (fun _ h => nomatch h) cs, Option.map_none]
    exact arguments?_eq_some_iff

/-! ## What is read -/

/-- The bytes of a modifier's name and arguments. -/
def RawModifier.bytes (m : RawModifier) : List UInt8 × Option (List UInt8) :=
  (Utf8.encode m.name.text, m.args.map fun s => Utf8.encode s.text)

/-- The name of a modifier, by characters. -/
def IsNameText (name : List Char) : Prop :=
  Expr.Name.startsIdent name = true ∧ ∀ c ∈ name, Expr.Name.isBody c = true

/-- What is read for a modifier that starts at `p`, with its spelling. -/
inductive ModifierAt (p : Position) : RawModifier → List Char → Prop where
  | bare {gap name : List Char} : (∀ c ∈ gap, isGap c = true) → IsNameText name →
      ModifierAt p ⟨⟨p.past gap, name⟩, none⟩ (gap ++ name)
  | call {gap name gap' args : List Char} : (∀ c ∈ gap, isGap c = true) → IsNameText name →
      (∀ c ∈ gap', isGap c = true) → IsArguments (Utf8.encode args) →
      ModifierAt p ⟨⟨p.past gap, name⟩, some ⟨p.past (gap ++ name ++ gap' ++ ['(']), args⟩⟩
        (gap ++ name ++ gap' ++ ['('] ++ args ++ [')'])

/-- What is read for the modifiers of a directive, which start at `p`. -/
inductive ModifiersAt : Position → List RawModifier → List Char → Prop where
  | close {p : Position} {gap : List Char} : (∀ c ∈ gap, isGap c = true) →
      ModifiersAt p [] (gap ++ ['\x7d'])
  | cons {p : Position} {gap spelling more : List Char} {m : RawModifier}
      {ms : List RawModifier} : (∀ c ∈ gap, isGap c = true) →
      ModifierAt (p.past (gap ++ ['|'])) m spelling →
      ModifiersAt (p.past (gap ++ '|' :: spelling)) ms more →
      ModifiersAt p (m :: ms) (gap ++ '|' :: spelling ++ more)

/-- What is read for the character behind the first brace. -/
inductive MarkerText : Kind → List Char → Prop where
  | none : MarkerText .output []
  | some {c : Char} {kind : Kind} : Kind.ofMarker? c = some kind → MarkerText kind [c]

/-- What is read for a directive that starts at `p`. -/
inductive DirectiveAt (p : Position) : RawDirective → Prop where
  | intro {kind : Kind} {marker content more : List Char} {ms : List RawModifier} :
      MarkerText kind marker → IsContent (Utf8.encode content) →
      ModifiersAt (p.past ('\x7b' :: marker ++ ['\x7b'] ++ content ++ ['\x7d'])) ms more →
      DirectiveAt p ⟨p, kind, ⟨p.past ('\x7b' :: marker ++ ['\x7b']), content⟩, ms,
        '\x7b' :: marker ++ ['\x7b'] ++ content ++ '\x7d' :: more⟩

/-- What is passed before a modifier is blank. -/
theorem isGap_of_mem_takeWhile {cs : List Char} {c : Char} (h : c ∈ cs.takeWhile isGap) :
    isGap c = true := List.mem_takeWhile_imp h

/-- What is taken for the name of a modifier is one. -/
theorem isNameText_takeWhile {cs : List Char} (h : Expr.Name.startsIdent cs = true) :
    IsNameText (cs.takeWhile Expr.Name.isBody) := by
  refine ⟨?_, fun c hc => List.mem_takeWhile_imp hc⟩
  cases cs with
  | nil => cases h
  | cons c cs =>
    rw [List.takeWhile_cons_of_pos (Expr.Name.isBody_of_isHead h)]
    exact h

/-- A modifier is where it is read. -/
theorem modifierAt_of_takeModifier? {p : Position} {cs spelling rest : List Char}
    {m : RawModifier} (h : takeModifier? p cs = some (m, spelling, rest)) :
    ModifierAt p m spelling := by
  simp only [takeModifier?] at h
  split at h
  · next hname =>
    split at h
    · next inside _ =>
      split at h
      · next args rest' hargs =>
        cases h
        exact .call (fun _ => isGap_of_mem_takeWhile) (isNameText_takeWhile hname)
          (fun _ => isGap_of_mem_takeWhile) (endsAs_takeArguments.holds hargs)
      · cases h
    · cases h
      exact .bare (fun _ => isGap_of_mem_takeWhile) (isNameText_takeWhile hname)
  · cases h

/-- So are modifiers in a row. -/
theorem modifiersAt_of_takeModifiers? {p : Position} {cs spelling rest : List Char}
    {ms : List RawModifier} (h : takeModifiers? p cs = some (ms, spelling, rest)) :
    ModifiersAt p ms spelling := by
  fun_induction takeModifiers? p cs generalizing ms spelling rest with
  | case1 => cases h
  | case2 =>
    cases h
    exact .close fun _ => isGap_of_mem_takeWhile
  | case3 => cases h
  | case4 p cs gap body m spelling' rest' _ _ hm =>
    rename_i lead ih
    obtain ⟨⟨ms', more, rest''⟩, hrest, heq⟩ := Option.map_eq_some_iff.1 h
    cases heq
    exact .cons (fun _ => isGap_of_mem_takeWhile) (modifierAt_of_takeModifier? hm) (ih hrest)
  | case5 => cases h

/-- So is a directive. -/
theorem directiveAt_of_takeDirective? {p : Position} {cs rest : List Char} {d : RawDirective}
    (h : takeDirective? p cs = some (d, rest)) : DirectiveAt p d := by
  unfold takeDirective? at h
  split at h
  next kind marker body hmarked =>
  have hmarker : MarkerText kind marker := by
    split at hmarked
    · split at hmarked
      · next hkind =>
        cases hmarked
        exact .some hkind
      · cases hmarked
        exact .none
    · cases hmarked
      exact .none
  split at h
  · split at h
    · cases h
    · next content behind hcontent =>
      obtain ⟨⟨ms, more, rest'⟩, hms, heq⟩ := Option.map_eq_some_iff.1 h
      cases heq
      exact .intro hmarker (endsAs_takeContent.holds hcontent)
        (modifiersAt_of_takeModifiers? hms)
  · cases h

/-! ### It is a directive of the grammar -/

theorem isGap_encode {gap : List Char} (h : ∀ c ∈ gap, isGap c = true) :
    IsGap (Utf8.encode gap) :=
  Utf8.forall_mem_encode (fun _ => isAscii_of_isGap) h

/-- Names are names in bytes. -/
theorem IsNameText.encode {name : List Char} (h : IsNameText name) : IsName (Utf8.encode name) := by
  obtain ⟨hstart, hbody⟩ := h
  cases name with
  | nil => cases hstart
  | cons c name =>
    have hc : IsAscii c := isAscii_of_isBody (Expr.Name.isBody_of_isHead hstart)
    rw [Utf8.encode_cons, Utf8.encodeChar_of_isAscii hc, List.singleton_append]
    refine .intro ((Utf8.toChar_toUInt8 hc).symm ▸ hstart) ?_
    exact Utf8.forall_mem_encode (fun _ => isAscii_of_isBody)
      fun d hd => hbody d (List.mem_cons_of_mem _ hd)

/-- A modifier is one by the grammar of bytes. -/
theorem ModifierAt.isModifier {p : Position} {m : RawModifier} {spelling : List Char}
    (h : ModifierAt p m spelling) : IsModifier m.bytes (Utf8.encode spelling) := by
  cases h with
  | bare hgap hname =>
    rw [Utf8.encode_append]
    exact .bare (isGap_encode hgap) hname.encode
  | call hgap hname hgap' hargs =>
    simp only [Utf8.encode_append, List.append_assoc]
    exact .call (isGap_encode hgap) hname.encode (isGap_encode hgap') hargs

theorem ModifiersAt.isModifiers {p : Position} {ms : List RawModifier} {spelling : List Char}
    (h : ModifiersAt p ms spelling) :
    IsModifiers (ms.map RawModifier.bytes) (Utf8.encode spelling) := by
  induction h with
  | close hgap =>
    rw [Utf8.encode_append]
    exact .close (isGap_encode hgap)
  | cons hgap hm _ ih =>
    have hbar : Utf8.encodeChar '|' = ['|'.toUInt8] := rfl
    simp only [Utf8.encode_append, Utf8.encode_cons, List.append_assoc, List.cons_append, hbar,
      List.nil_append]
    exact .cons (isGap_encode hgap) hm.isModifier ih

theorem isAscii_of_ofMarker? {c : Char} {kind : Kind} (h : Kind.ofMarker? c = some kind) :
    IsAscii c := by
  unfold Kind.ofMarker? at h
  repeat' split at h
  all_goals first | cases h; done | (subst c; decide)

/-- A marker is one in bytes. -/
theorem MarkerText.isMarker {kind : Kind} {marker : List Char} (h : MarkerText kind marker) :
    IsMarker kind (Utf8.encode marker) := by
  cases h with
  | none => exact .none
  | @some c _ hc =>
    rw [Utf8.encode_cons, Utf8.encodeChar_of_isAscii (isAscii_of_ofMarker? hc)]
    exact .some hc

/-- A directive that is read is one by the grammar of bytes. -/
theorem DirectiveAt.isDirective {p : Position} {d : RawDirective} (h : DirectiveAt p d) :
    IsDirective d.kind (Utf8.encode d.content.text) (d.modifiers.map RawModifier.bytes)
      (Utf8.encode d.spelling) := by
  cases h with
  | intro hmarker hcontent hms =>
    simp only [Utf8.encode_append, Utf8.encode_cons, List.append_assoc, List.cons_append]
    exact .intro hmarker.isMarker hcontent hms.isModifiers

/-! ### Every directive of the grammar is read -/

/-- No blank belongs to a name. -/
theorem isBody_of_isGap {c : Char} (h : isGap c = true) : ¬ Expr.Name.isBody c = true := by
  simp only [isGap, Bool.or_eq_true, beq_iff_eq] at h
  rcases h with (((rfl | rfl) | rfl) | rfl) | h
  · decide
  · decide
  · decide
  · decide
  · obtain rfl : c = Char.ofNat 0x0C := Char.toNat_inj.1 h
    decide

/-- Behind a gap, the next byte is the first that is none. -/
theorem encode_dropWhile_isGap {cs : List Char} {gap rest : List UInt8} {b : UInt8}
    (hgap : IsGap gap) (hb : ¬ isGap b.toChar = true) (h : Utf8.encode cs = gap ++ b :: rest) :
    Utf8.encode (cs.dropWhile isGap) = b :: rest :=
  Utf8.encode_dropWhile_eq (fun _ => isAscii_of_isGap) hgap (by rintro _ ⟨⟩; exact hb) h

/-- Behind a name that is followed by a gap and a byte that goes on with no name. -/
theorem encode_dropWhile_isBody {cs : List Char} {name gap rest : List UInt8} {b : UInt8}
    (hname : ∀ x ∈ name, Expr.Name.isBody x.toChar = true) (hgap : IsGap gap)
    (hb : ¬ Expr.Name.isBody b.toChar = true)
    (h : Utf8.encode cs = name ++ (gap ++ b :: rest)) :
    Utf8.encode (cs.dropWhile Expr.Name.isBody) = gap ++ b :: rest := by
  refine Utf8.encode_dropWhile_eq (fun _ => isAscii_of_isBody) hname ?_ h
  intro x hx
  cases gap with
  | nil =>
    cases hx
    exact hb
  | cons y gap =>
    cases hx
    exact isBody_of_isGap (hgap _ List.mem_cons_self)

/-- What may stand behind a modifier: a gap, and the brace or the bar that ends it. -/
def EndsModifier (bs : List UInt8) : Prop :=
  ∃ gap b rest, IsGap gap ∧ (b = '\x7d'.toUInt8 ∨ b = '|'.toUInt8) ∧ bs = gap ++ b :: rest

/-- What follows a modifier ends it, another modifier or the brace. -/
theorem Grammar.IsModifiers.endsModifier {ms : List (List UInt8 × Option (List UInt8))}
    {bs : List UInt8} (h : IsModifiers ms bs) (rest : List UInt8) : EndsModifier (bs ++ rest) := by
  cases h with
  | close hgap => exact ⟨_, _, rest, hgap, .inl rfl, List.append_assoc ..⟩
  | cons hgap _ _ => exact ⟨_, _, _, hgap, .inr rfl, List.append_assoc ..⟩

/-- A name of the grammar at the front of a text is one that is read. -/
theorem startsIdent_of_isName {cs : List Char} {name rest : List UInt8} (hname : IsName name)
    (h : Utf8.encode cs = name ++ rest) :
    Expr.Name.startsIdent cs = true ∧ ∀ x ∈ name, Expr.Name.isBody x.toChar = true := by
  obtain ⟨hhead, hbody⟩ := hname
  rename_i b tail
  have hascii : IsAscii b.toChar := isAscii_of_isBody (Expr.Name.isBody_of_isHead hhead)
  obtain ⟨cs', rfl, -⟩ := Utf8.exists_of_encode_eq_cons hascii
    ((Utf8.toUInt8_toChar hascii).symm ▸ h : Utf8.encode cs = b.toChar.toUInt8 :: (tail ++ rest))
  refine ⟨hhead, fun x hx => ?_⟩
  rcases List.mem_cons.1 hx with rfl | hx
  · exact Expr.Name.isBody_of_isHead hhead
  · exact hbody x hx

/-- A name does not begin with a blank. -/
theorem isGap_head_of_isName {name : List UInt8} (h : IsName name) (rest : List UInt8) :
    ∃ b tail, name ++ rest = b :: tail ∧ ¬ isGap b.toChar = true := by
  obtain ⟨hhead, -⟩ := h
  exact ⟨_, _, rfl, fun hgap => isBody_of_isGap hgap (Expr.Name.isBody_of_isHead hhead)⟩

/-- What is a modifier by the grammar is read as one. -/
theorem takeModifier?_of_isModifier {cs : List Char} {m : List UInt8 × Option (List UInt8)}
    {bs rest : List UInt8} (hm : IsModifier m bs) (hend : EndsModifier rest)
    (h : Utf8.encode cs = bs ++ rest) (p : Position) :
    ∃ m' spelling rest', takeModifier? p cs = some (m', spelling, rest') ∧
      Utf8.encode rest' = rest := by
  cases hm with
  | @bare gap name hgap hname =>
    obtain ⟨b, tail, hb, hbgap⟩ := isGap_head_of_isName hname rest
    rw [List.append_assoc, hb] at h
    have hbody := (encode_dropWhile_isGap hgap hbgap h).trans hb.symm
    obtain ⟨hident, hall⟩ := startsIdent_of_isName hname hbody
    obtain ⟨gap', e, more, hgap', he, rfl⟩ := hend
    have hebody : ¬ Expr.Name.isBody e.toChar = true := by rcases he with rfl | rfl <;> decide
    have hegap : ¬ isGap e.toChar = true := by rcases he with rfl | rfl <;> decide
    have hbehind := encode_dropWhile_isBody hall hgap' hebody hbody
    have hnext := encode_dropWhile_isGap hgap' hegap hbehind
    simp only [takeModifier?, if_pos hident]
    split
    · next inside heq =>
      -- the next character ends the modifier, so it opens no arguments
      rw [heq] at hnext
      have : '('.toUInt8 = e := (List.cons.inj hnext).1
      rcases he with rfl | rfl <;> exact absurd this (by decide)
    · exact ⟨_, _, _, rfl, hbehind⟩
  | @call gap name gap' args hgap hname hgap' hargs =>
    obtain ⟨b, tail, hb, hbgap⟩ :=
      isGap_head_of_isName hname (gap' ++ '('.toUInt8 :: (args ++ ')'.toUInt8 :: rest))
    have hcs : Utf8.encode cs =
        gap ++ (name ++ (gap' ++ '('.toUInt8 :: (args ++ ')'.toUInt8 :: rest))) := by
      simpa using h
    rw [hb] at hcs
    have hbody := (encode_dropWhile_isGap hgap hbgap hcs).trans hb.symm
    obtain ⟨hident, hall⟩ := startsIdent_of_isName hname hbody
    have hbehind := encode_dropWhile_isBody hall hgap' (by decide) hbody
    have hnext := encode_dropWhile_isGap hgap' (by decide) hbehind
    obtain ⟨inside, hinside, hrest⟩ := Utf8.exists_of_encode_eq_cons (by decide) hnext
    obtain ⟨args', rest', htake, hrest'⟩ := endsAs_takeArguments.exists_take hargs hrest
    simp only [takeModifier?, if_pos hident, hinside, htake]
    exact ⟨_, _, _, rfl, hrest'⟩

/-- The brace ends the modifiers. -/
theorem takeModifiers?_close {cs body : List Char} (h : cs.dropWhile isGap = '\x7d' :: body)
    (p : Position) :
    takeModifiers? p cs = some ([], cs.takeWhile isGap ++ ['\x7d'], body) := by
  rw [takeModifiers?]
  split
  · next hnil => cases h.symm.trans hnil
  · next hcons =>
    cases h.symm.trans hcons
    exact if_pos rfl

/-- A bar begins another one. -/
theorem takeModifiers?_bar {p : Position} {cs body spelling rest : List Char} {m : RawModifier}
    (h : cs.dropWhile isGap = '|' :: body)
    (hm : takeModifier? (p.past (cs.takeWhile isGap ++ ['|'])) body = some (m, spelling, rest)) :
    takeModifiers? p cs =
      (takeModifiers? (p.past (cs.takeWhile isGap ++ '|' :: spelling)) rest).map
        fun (ms, more, rest) => (m :: ms, cs.takeWhile isGap ++ '|' :: spelling ++ more, rest) := by
  rw [takeModifiers?]
  split
  · next hnil => cases h.symm.trans hnil
  · next hcons =>
    cases h.symm.trans hcons
    rw [if_neg (by decide), if_pos rfl]
    split
    · next hnone => cases hm.symm.trans hnone
    · next hsome =>
      cases hm.symm.trans hsome
      rfl

/-- What are modifiers by the grammar is read as such. -/
theorem takeModifiers?_of_isModifiers {ms : List (List UInt8 × Option (List UInt8))}
    {bs : List UInt8} (hms : IsModifiers ms bs) {cs : List Char} {rest : List UInt8}
    (h : Utf8.encode cs = bs ++ rest) (p : Position) :
    ∃ ms' spelling rest', takeModifiers? p cs = some (ms', spelling, rest') ∧
      Utf8.encode rest' = rest := by
  induction hms generalizing cs p with
  | close hgap =>
    rw [List.append_assoc] at h
    obtain ⟨body, hbody, hrest⟩ := Utf8.exists_of_encode_eq_cons (by decide)
      (encode_dropWhile_isGap hgap (by decide) h)
    exact ⟨_, _, _, takeModifiers?_close hbody p, hrest⟩
  | @cons gap bs more m ms hgap hm hms ih =>
    rw [List.append_assoc, List.cons_append, List.append_assoc] at h
    obtain ⟨body, hbody, hrest⟩ := Utf8.exists_of_encode_eq_cons (by decide)
      (encode_dropWhile_isGap hgap (by decide) h)
    -- the grammar says what is behind the modifier, and this is where the reader stops
    obtain ⟨m', spelling, rest', htake, hrest'⟩ := takeModifier?_of_isModifier hm
      (hms.endsModifier rest) hrest (p.past (cs.takeWhile isGap ++ ['|']))
    obtain ⟨ms', more', rest'', htakes, hrest''⟩ :=
      ih hrest' (p.past (cs.takeWhile isGap ++ '|' :: spelling))
    rw [takeModifiers?_bar hbody htake, htakes]
    exact ⟨_, _, _, rfl, hrest''⟩

/-- What is a directive by the grammar is read as one. -/
theorem takeDirective?_of_isDirective {kind : Kind} {content : List UInt8}
    {ms : List (List UInt8 × Option (List UInt8))} {bs rest : List UInt8}
    (hd : IsDirective kind content ms bs) {cs : List Char}
    (h : Utf8.encode ('\x7b' :: cs) = bs ++ rest) (p : Position) :
    (takeDirective? p cs).isSome = true := by
  cases hd with
  | @intro marker more hmarker hcontent hms =>
  have hcs : Utf8.encode cs =
      marker ++ '\x7b'.toUInt8 :: (content ++ '\x7d'.toUInt8 :: more) ++ rest :=
    (List.cons.inj h).2
  simp only [List.append_assoc, List.cons_append] at hcs
  -- behind the second brace it is the same with a marker and without
  have hinner : ∀ lead inside, Utf8.encode inside =
      content ++ '\x7d'.toUInt8 :: (more ++ rest) → ∃ content' behind,
        takeContent none inside = some (content', behind) ∧
        (takeModifiers? (p.past (lead ++ content' ++ ['\x7d'])) behind).isSome = true := by
    intro lead inside hinside
    obtain ⟨content', behind, htake, hbehind⟩ := endsAs_takeContent.exists_take hcontent hinside
    obtain ⟨_, _, _, htakes, -⟩ := takeModifiers?_of_isModifiers hms hbehind
      (p.past (lead ++ content' ++ ['\x7d']))
    exact ⟨content', behind, htake, htakes ▸ rfl⟩
  cases hmarker with
  | none =>
    obtain ⟨inside, rfl, hinside⟩ := Utf8.exists_of_encode_eq_cons (by decide) hcs
    obtain ⟨content', behind, htake, htakes⟩ := hinner (['\x7b'] ++ ['\x7b']) inside hinside
    have hmarker : Kind.ofMarker? '\x7b' = none := by decide
    simp only [takeDirective?, hmarker, htake, Option.isSome_map]
    exact htakes
  | @some c _ hc =>
    obtain ⟨body, rfl, hbody⟩ :=
      Utf8.exists_of_encode_eq_cons (isAscii_of_ofMarker? hc) hcs
    obtain ⟨inside, rfl, hinside⟩ := Utf8.exists_of_encode_eq_cons (by decide) hbody
    obtain ⟨content', behind, htake, htakes⟩ :=
      hinner ('\x7b' :: [c] ++ ['\x7b']) inside hinside
    simp only [takeDirective?, hc, htake, Option.isSome_map]
    exact htakes

end Stencil.Segment
