import Stencil.Text.Width.Basic

/-!
# Stencil.Proofs.Text.Width — columns alone and in a text

What a character takes in a text depends on what stands behind it. Most characters take no more
there than they take alone (`columns_append_le`). Three kinds do: a control character has no width
alone, a selector makes the character in front of it wide, and a letter of a flag may part two
flags that were counted as one. Flags are the reason why the columns that are still to come back
are carried along as `Shape.slack`.
-/

namespace Stencil.Text

/-! ## Disjoint sets -/

namespace CharSet

/-- Whether two sets have nothing in common, found by going through their boundaries in order.
`a` and `b` say whether the codes in front of the next boundaries are in the sets; `fuel` bounds
the number of boundaries. -/
def apart : Nat → Bool → Bool → List Nat → List Nat → Bool
  | 0, _, _, _, _ => false
  | fuel + 1, a, b, as, bs =>
    !(a && b) &&
      match as, bs with
      | [], [] => true
      | _ :: as, [] => apart fuel (!a) b as []
      | [], _ :: bs => apart fuel a (!b) [] bs
      | m :: as, n :: bs =>
        if m < n then apart fuel (!a) b as (n :: bs)
        else if n < m then apart fuel a (!b) (m :: as) bs
        else apart fuel (!a) (!b) as bs

/-- Past a boundary, membership is the other way round. -/
theorem xor_isBehindOdd_cons (n b : Nat) (bs : List Nat) (a : Bool) :
    (a ^^ isBehindOdd n (b :: bs)) = if n < b then a else !a ^^ isBehindOdd n bs := by
  rw [isBehindOdd]
  split <;> simp

/-- No code is in both sets. The induction moves the code past one boundary at a time, so it is in
front of both next boundaries when it is in front of the lower one. -/
theorem not_both_of_apart {fuel : Nat} {a b : Bool} {as bs : List Nat}
    (h : apart fuel a b as bs = true) (n : Nat) :
    ((a ^^ isBehindOdd n as) && (b ^^ isBehindOdd n bs)) = false := by
  induction fuel generalizing a b as bs with
  | zero => cases h
  | succ fuel ih =>
    unfold apart at h
    rw [Bool.and_eq_true, Bool.not_eq_true'] at h
    obtain ⟨hab, h⟩ := h
    -- the bounds are merged: the smaller of the two first ones says which set changes
    match as, bs with
    | [], [] => simpa [isBehindOdd] using hab
    | l :: as, [] =>
      rw [xor_isBehindOdd_cons]
      split
      · simpa [isBehindOdd] using hab
      · exact ih h
    | [], m :: bs =>
      rw [xor_isBehindOdd_cons n m]
      split
      · simpa [isBehindOdd] using hab
      · exact ih h
    | l :: as, m :: bs =>
      dsimp only at h
      split at h
      · next hlt =>
        rw [xor_isBehindOdd_cons n l]
        split
        · rw [xor_isBehindOdd_cons, if_pos (by omega)]
          exact hab
        · exact ih h
      split at h
      · next hlt =>
        rw [xor_isBehindOdd_cons n m]
        split
        · rw [xor_isBehindOdd_cons, if_pos (by omega)]
          exact hab
        · exact ih h
      · next hlm hml =>
        obtain rfl : l = m := by omega
        rw [xor_isBehindOdd_cons, xor_isBehindOdd_cons]
        split
        · exact hab
        · exact ih h

end CharSet

/-- A character that may be shown as an emoji takes columns. -/
theorem not_zeroWidth_of_emojiSelectable {c : Char} (h : emojiSelectable.contains c = true) :
    zeroWidth.contains c = false := by
  have hapart : CharSet.apart 1200 false false emojiSelectable.boundaries
      zeroWidth.boundaries = true := by decide +kernel
  have hboth := CharSet.not_both_of_apart hapart c.toNat
  rw [Bool.false_xor, Bool.false_xor] at hboth
  unfold CharSet.contains at h ⊢
  rw [h, Bool.true_and] at hboth
  exact hboth

/-! ## What a character takes alone -/

/-- The columns a character takes alone; one without a width takes none. -/
def ownWidth (c : Char) : Nat := (charWidth? c).getD 0

/-- The columns that the characters of a text take alone. -/
def ownColumns : List Char → Nat
  | [] => 0
  | c :: cs => ownWidth c + ownColumns cs

/-- Whether a letter of a flag. -/
def IsFlagLetter (c : Char) : Prop := within 0x1F1E6 0x1F1FF c.toNat = true

instance (c : Char) : Decidable (IsFlagLetter c) := inferInstanceAs (Decidable (_ = true))

/-- Characters that have a width and make no other one wide. -/
structure IsSteady (c : Char) : Prop where
  printing : (charWidth? c).isSome = true
  ne_emojiSelector : c.toNat ≠ 0xFE0F
  ne_quoteSelector : c.toNat ≠ 0xFE01

instance (c : Char) : Decidable (IsSteady c) :=
  decidable_of_iff ((charWidth? c).isSome = true ∧ c.toNat ≠ 0xFE0F ∧ c.toNat ≠ 0xFE01)
    ⟨fun ⟨h₁, h₂, h₃⟩ => ⟨h₁, h₂, h₃⟩, fun ⟨h₁, h₂, h₃⟩ => ⟨h₁, h₂, h₃⟩⟩

@[simp] theorem ownColumns_nil : ownColumns [] = 0 := rfl

@[simp] theorem ownColumns_cons (c : Char) (cs : List Char) :
    ownColumns (c :: cs) = ownWidth c + ownColumns cs := rfl

/-- The width of a character beyond the Latin ones is that of its class. -/
theorem ownWidth_of_lt {c : Char} (h : 0xA0 < c.toNat) : ownWidth c = (classify c).1 := by
  have hcontrol : within 0x7F 0x9F c.toNat = false := by
    unfold within
    simp only [Bool.and_eq_false_iff, decide_eq_false_iff_not]
    omega
  rw [ownWidth, charWidth?, hcontrol, if_neg (by simp; omega), if_neg (by omega), Option.getD_some]

/-- How many columns a letter of a flag may add beyond its own, when a text begins like this: two
letters in front of a joined emoji were counted as none. -/
def Shape.slack : Shape → Int
  | flagJoined count => if count % 2 = 0 then 2 else 0
  | _ => 0

theorem Shape.slack_nonneg (s : Shape) : 0 ≤ s.slack := by
  unfold slack
  split
  · split <;> decide
  · exact Int.le_refl 0

/-- What a character can be when it is not shown together with others: it takes columns, or it is a
selector, or it is known to take no column. -/
inductive Classified (c : Char) : Nat × Follower → Prop
  | shown {width : Nat} {shape : Shape} :
      1 ≤ width → shape.slack = 0 → Classified c (width, .of shape)
  | selects (selector : Selector) :
      c.toNat = 0xFE01 ∨ c.toNat = 0xFE0E ∨ c.toNat = 0xFE0F →
        Classified c (0, ⟨.plain, some selector⟩)
  | hidden : zeroWidth.contains c = true → ¬ IsFlagLetter c → Classified c (0, .none)

/-- Every character is classified. -/
theorem classified (c : Char) : Classified c (classify c) := by
  have narrow : ∀ {p : Prop} {shape : Shape}, shape.slack = 0 → p → Classified c (1, .of shape) :=
    fun hshape _ => .shown (Nat.le_refl 1) hshape
  unfold classify
  iterate 4 refine iteInduction (motive := Classified c) (narrow rfl) fun _ => ?_
  refine iteInduction (motive := Classified c) (fun _ => .shown (by decide) rfl) fun _ => ?_
  iterate 3 refine iteInduction (motive := Classified c) (narrow rfl) fun _ => ?_
  refine iteInduction (motive := Classified c) (fun h => .selects _ (.inl h)) fun _ => ?_
  refine iteInduction (motive := Classified c) (fun h => .selects _ (.inr (.inl h))) fun _ => ?_
  refine iteInduction (motive := Classified c) (fun h => .selects _ (.inr (.inr h))) fun _ => ?_
  iterate 3 refine iteInduction (motive := Classified c) (narrow rfl) fun _ => ?_
  refine iteInduction (motive := Classified c) (narrow rfl) fun hletter => ?_
  iterate 2
    refine iteInduction (motive := Classified c) (fun _ => .shown (by decide) rfl) fun _ => ?_
  refine iteInduction (motive := Classified c) (fun h => .hidden h hletter) fun _ => ?_
  exact iteInduction (motive := Classified c) (fun _ => .shown (by decide) rfl) (narrow rfl)

/-- Printing characters up to the first that takes no column take one. -/
theorem one_le_ownWidth_of_le {c : Char} (hprinting : (charWidth? c).isSome = true)
    (h : c.toNat ≤ 0xA0) : 1 ≤ ownWidth c := by
  unfold ownWidth
  by_cases hspace : c.toNat = 0xA0
  · have hc : c = '\u00A0' := Char.toNat_inj.1 hspace
    rw [hc]
    decide +kernel
  · unfold charWidth? within at hprinting ⊢
    split at hprinting
    · cases hprinting
    next hcontrol =>
    rw [if_neg hcontrol, if_pos (by simp at hcontrol; omega)]
    exact Nat.le_refl 1

/-- Only selectors and what is known to take no column take none. -/
theorem one_le_classify {c : Char}
    (hselector : ¬ (c.toNat = 0xFE01 ∨ c.toNat = 0xFE0E ∨ c.toNat = 0xFE0F))
    (hzero : zeroWidth.contains c = false ∨ IsFlagLetter c) : 1 ≤ (classify c).1 := by
  have hclass := classified c
  generalize classify c = x at hclass ⊢
  cases hclass with
  | shown hwidth _ => exact hwidth
  | selects _ h => exact absurd h hselector
  | hidden h hletter =>
    rw [hzero.resolve_right hletter] at h
    cases h

theorem one_le_ownWidth_of_isFlagLetter {c : Char} (h : IsFlagLetter c) : 1 ≤ ownWidth c := by
  have hlow : 0x1F1E6 ≤ c.toNat := of_decide_eq_true (Bool.and_eq_true_iff.1 h).1
  rw [ownWidth_of_lt (by omega)]
  exact one_le_classify (by omega) (.inr h)

/-! ## What a character adds to a text -/

/-- Whether so many columns in front of a shape, and what may then be taken back, are paid for by
the columns that the character takes alone. Only for letters of a flag is anything taken back. -/
structure Covers (c : Char) (s : Shape) (x : Int × Shape) : Prop where
  le : x.1 + x.2.slack ≤ ownWidth c + s.slack
  slack : ¬ IsFlagLetter c → x.2.slack = 0

/-- Both branches of a rule must cover the character. -/
theorem forall_mem_ite {p : Prop} [Decidable p] {a b : Option (Int × Shape)} {c : Char} {s : Shape}
    (ha : p → ∀ x ∈ a, Covers c s x) (hb : ¬ p → ∀ x ∈ b, Covers c s x) :
    ∀ x ∈ (if p then a else b), Covers c s x :=
  iteInduction (motive := fun found : Option (Int × Shape) => ∀ x ∈ found, Covers c s x) ha hb

/-- A width no greater than that of the character covers it. -/
theorem covers_of_le {c : Char} {s t : Shape} {w : Int} (hw : w ≤ ownWidth c) (ht : t.slack = 0) :
    ∀ x ∈ some (w, t), Covers c s x := by
  rintro x ⟨⟩
  have := s.slack_nonneg
  exact ⟨by dsimp only; omega, fun _ => ht⟩

theorem covers_of_nonpos {c : Char} {s t : Shape} {w : Int} (hw : w ≤ 0) (ht : t.slack = 0) :
    ∀ x ∈ some (w, t), Covers c s x :=
  covers_of_le (by omega) ht

theorem covers_none (c : Char) (s : Shape) : ∀ x ∈ (none : Option (Int × Shape)), Covers c s x :=
  fun _ h => nomatch h

theorem covers_ite {p : Prop} [Decidable p] {c : Char} {s t : Shape} {w : Int} (hw : w ≤ 0)
    (ht : t.slack = 0) : ∀ x ∈ (if p then some (w, t) else none), Covers c s x :=
  forall_mem_ite (fun _ => covers_of_nonpos hw ht) fun _ => covers_none c s

/-- A character that is shown together with what follows takes no more than alone. -/
theorem covers_combine (c : Char) (s : Shape) : ∀ x ∈ combine c s, Covers c s x := by
  have hletter : IsFlagLetter c → (1 : Int) ≤ ownWidth c := fun h => by
    have := one_le_ownWidth_of_isFlagLetter h
    omega
  have hcode : ∀ d : Char, 1 ≤ ownWidth d → c.toNat = d.toNat → (1 : Int) ≤ ownWidth c := by
    intro d hd heq
    rw [Char.toNat_inj.1 heq]
    omega
  have free : ∀ (w : Int) (t : Shape), w ≤ 0 → t.slack = 0 →
      ∀ x ∈ some (w, t), Covers c s x := fun _ _ => covers_of_nonpos
  cases s with
  | alef =>
    refine forall_mem_ite (fun _ => free _ _ (by decide) rfl) fun _ => ?_
    exact covers_ite (by decide) rfl
  | tifinagh joined =>
    refine forall_mem_ite (fun h => ?_) fun _ => ?_
    · exact covers_of_le (hcode '\u2D7F' (by decide +kernel) h) rfl
    · exact covers_ite (by decide) rfl
  | kiratRaiE =>
    refine forall_mem_ite (fun _ => free _ _ (by decide) rfl) fun _ => ?_
    refine forall_mem_ite (fun _ => free _ _ (by decide) rfl) fun _ => ?_
    refine forall_mem_ite (fun h => ?_) fun _ => ?_
    · exact covers_of_le (hcode (Char.ofNat 0x16D68) (by decide) h) rfl
    · exact covers_ite (by decide) rfl
  | lamed joined =>
    cases joined with
    | false => exact covers_none _ _
    | true => exact covers_ite (by decide) rfl
  | bugineseYa joined =>
    cases joined with
    | false => exact covers_none _ _
    | true => exact covers_ite (by decide) rfl
  | oldTurkic joined =>
    cases joined with
    | false => exact covers_none _ _
    | true => exact covers_ite (by decide) rfl
  | khmer | bugineseVowelYa | tifinaghJoined | lisu | kiratRaiAi | emoji =>
    exact covers_ite (by decide) rfl
  | skinTone =>
    refine forall_mem_ite (fun _ => free _ _ (by decide) rfl) fun _ => ?_
    exact covers_ite (by decide) rfl
  | flagLetter more =>
    refine forall_mem_ite (fun h => covers_of_le (hletter h) rfl) fun _ => ?_
    exact covers_ite (by decide) rfl
  | joinedEmoji =>
    refine forall_mem_ite (fun _ => free _ _ (by decide) rfl) fun _ => ?_
    refine forall_mem_ite (fun h => covers_of_le (hletter h) rfl) fun _ => ?_
    iterate 2 refine forall_mem_ite (fun _ => free _ _ (by decide) rfl) fun _ => ?_
    exact covers_ite (by decide) rfl
  | flagJoined count =>
    refine forall_mem_ite (fun h => ?_) fun _ => ?_
    · rintro x ⟨⟩
      have hone := hletter h
      refine ⟨?_, fun hno => absurd h hno⟩
      -- every second letter takes back its own column and the one before, for a flag in front of
      -- a joined emoji takes none
      unfold Shape.slack
      dsimp only
      split <;> split <;> omega
    · exact covers_ite (by decide) rfl
  | tagJoined letters digits =>
    iterate 2 refine forall_mem_ite (fun _ => free _ _ (by decide) rfl) fun _ => ?_
    exact covers_ite (by decide) rfl
  | plain | lineFeed | keycapJoined => exact covers_none _ _

/-- Whether so many columns, and what then stands at the front of a text, are paid for by the
columns that the character takes alone and those that were to come back. -/
structure Fits (c : Char) (s : Shape) (x : Int × Follower) : Prop where
  covers : Covers c s (x.1, x.2.shape)
  selector : x.2.selector = none ∨ x.2.selector = some .text

/-- A width no greater than that of the character fits. -/
theorem Fits.of_le {c : Char} {s : Shape} {width : Int} {f : Follower}
    (hwidth : width ≤ ownWidth c) (hf : f.shape.slack = 0)
    (hselector : f.selector = none ∨ f.selector = some .text) : Fits c s (width, f) :=
  ⟨covers_of_le hwidth hf _ rfl, hselector⟩

theorem Fits.of_zero {c : Char} (s : Shape) {t : Shape} (ht : t.slack = 0) : Fits c s (0, .of t) :=
  .of_le (by omega) ht (.inl rfl)

theorem Shape.slack_of_isLigature {s : Shape} (h : s.isLigature = true) : s.slack = 0 := by
  cases s <;> first | rfl | cases h

theorem Shape.slack_joined (s : Shape) : s.joined.slack = s.slack := by
  cases s <;> rfl

/-- Letters of a flag do not outlast a selector. -/
theorem Shape.slack_of_outlastsSelector {s : Shape} (h : s.outlastsSelector = true) :
    s.slack = 0 := by
  cases s <;> first | rfl | cases h

theorem Shape.slack_unselected (s : Shape) : s.unselected.slack = 0 := by
  unfold unselected
  split
  · exact slack_of_outlastsSelector ‹_›
  · rfl

/-- A character in front of a shape takes no more than alone. -/
theorem fits_addBefore {c : Char} (hc : 0xA0 < c.toNat)
    (hselector : ¬ (c.toNat = 0xFE01 ∨ c.toNat = 0xFE0E ∨ c.toNat = 0xFE0F)) (s : Shape) :
    Fits c s (addBefore c s) := by
  have hslack := s.slack_nonneg
  unfold addBefore
  split
  · next h =>
    exact .of_zero _ (s.slack_joined.trans (Shape.slack_of_isLigature (Bool.and_eq_true_iff.1 h).1))
  split
  · next h => exact .of_zero _ (Shape.slack_of_isLigature (Bool.and_eq_true_iff.1 h).1)
  split
  · next width t hfound => exact ⟨covers_combine c s (width, t) hfound, .inl rfl⟩
  · have hown := ownWidth_of_lt hc
    have hclass := classified c
    generalize classify c = x at hclass hown ⊢
    cases hclass with
    | shown _ ht =>
      exact .of_le (by dsimp only at hown; omega) ht (.inl rfl)
    | selects _ h => exact absurd h hselector
    | hidden _ _ => exact .of_zero _ rfl

theorem Shape.slack_select_text (s : Shape) : (s.select .text).shape.slack = 0 := by
  unfold select
  dsimp only
  split
  · next h =>
    refine slack_of_outlastsSelector ?_
    simpa using h
  · rfl

/-- A steady character takes no more in a text than alone, when no emoji selector stands behind
it. -/
theorem fits_add {c : Char} (hc : IsSteady c) {f : Follower}
    (hf : f.selector = none ∨ f.selector = some .text) : Fits c f.shape (add c f) := by
  have hslack := f.shape.slack_nonneg
  have hemoji : f.selector ≠ some .emoji := by
    rcases hf with hf | hf <;> rw [hf] <;> simp
  unfold add
  rw [if_neg (by simp [hemoji]), if_neg hemoji]
  dsimp only
  split
  · next hlow =>
    -- the printing characters below the first that takes no column
    have hone := one_le_ownWidth_of_le hc.printing hlow
    split
    · next hline =>
      subst hline
      exact absurd hc.printing (by decide)
    split
    · exact .of_zero _ rfl
    · exact .of_le (by omega) rfl (.inl rfl)
  next hhigh =>
  have hhigh : 0xA0 < c.toNat := Nat.lt_of_not_le hhigh
  rw [if_neg hc.ne_emojiSelector]
  split
  · exact .of_le (by omega) f.shape.slack_select_text (.inr rfl)
  next htext =>
  have hselector : ¬ (c.toNat = 0xFE01 ∨ c.toNat = 0xFE0E ∨ c.toNat = 0xFE0F) := by
    rintro (h | h | h)
    · exact hc.ne_quoteSelector h
    · exact htext h
    · exact hc.ne_emojiSelector h
  rw [if_neg hc.ne_quoteSelector]
  rcases hf with hf | hf <;> rw [hf] <;> dsimp only
  · exact fits_addBefore hhigh hselector f.shape
  split
  · next hselectable =>
    have hown : 1 ≤ ownWidth c := by
      have hcontains : emojiSelectable.contains c = true := by
        simp only [takesTextSelector, Bool.and_eq_true] at hselectable
        exact hselectable.1.1
      rw [ownWidth_of_lt hhigh]
      exact one_le_classify hselector (.inl (not_zeroWidth_of_emojiSelectable hcontains))
    exact .of_le (by omega) rfl (.inl rfl)
  · have hfits := fits_addBefore hhigh hselector f.shape.unselected
    have hle := hfits.covers.le
    rw [f.shape.slack_unselected] at hle
    exact ⟨⟨by omega, hfits.covers.slack⟩, hfits.selector⟩

/-! ## Texts -/

/-- Among steady characters only text presentation is selected. -/
theorem selector_measure {cs : List Char} (hcs : ∀ c ∈ cs, IsSteady c) :
    (measure cs).2.selector = none ∨ (measure cs).2.selector = some .text := by
  induction cs with
  | nil => exact .inl rfl
  | cons c cs ih =>
    have hselector := ih fun d hd => hcs d (List.mem_cons_of_mem _ hd)
    exact (fits_add (hcs c List.mem_cons_self) hselector).selector

/-- What stands in front of a text takes no more columns than its characters take alone, but for
what letters of a flag may take back. -/
theorem measure_append_le {cs rest : List Char} (hcs : ∀ c ∈ cs, IsSteady c)
    (hrest : ∀ c ∈ rest, IsSteady c) :
    (measure (cs ++ rest)).1 + (measure (cs ++ rest)).2.shape.slack ≤
      ownColumns cs + ((measure rest).1 + (measure rest).2.shape.slack) := by
  induction cs with
  | nil => simp
  | cons c cs ih =>
    have hbehind : ∀ d ∈ cs, IsSteady d := fun d hd => hcs d (List.mem_cons_of_mem _ hd)
    have hle := ih hbehind
    have hselector := selector_measure (List.forall_mem_append.2 ⟨hbehind, hrest⟩)
    have hfits := (fits_add (hcs c List.mem_cons_self) hselector).covers.le
    rw [List.cons_append, measure_cons, ownColumns_cons]
    dsimp only at hfits ⊢
    omega

/-- A text that does not begin with a letter of a flag has nothing that may be taken back. -/
theorem slack_measure {cs : List Char} (hcs : ∀ c ∈ cs, IsSteady c)
    (h : ∀ c ∈ cs.head?, ¬ IsFlagLetter c) : (measure cs).2.shape.slack = 0 := by
  cases cs with
  | nil => rfl
  | cons c cs =>
    have hselector := selector_measure fun d hd => hcs d (List.mem_cons_of_mem _ hd)
    exact (fits_add (hcs c List.mem_cons_self) hselector).covers.slack (h c rfl)

/-- Steady characters in front of a text take no more columns than they take alone, unless the text
begins with a letter of a flag. -/
theorem columns_append_le {cs rest : List Char} (hcs : ∀ c ∈ cs, IsSteady c)
    (hrest : ∀ c ∈ rest, IsSteady c) (hhead : ∀ c ∈ rest.head?, ¬ IsFlagLetter c) :
    columns (cs ++ rest) ≤ ownColumns cs + columns rest := by
  have hle := measure_append_le hcs hrest
  have hslack := (measure (cs ++ rest)).2.shape.slack_nonneg
  rw [slack_measure hrest hhead] at hle
  unfold columns
  omega

/-- A text of steady characters takes no more columns than they take alone. -/
theorem columns_le {cs : List Char} (hcs : ∀ c ∈ cs, IsSteady c) : columns cs ≤ ownColumns cs := by
  have hnone : ∀ c ∈ ([] : List Char), IsSteady c := fun _ h => nomatch h
  have h := columns_append_le hcs hnone fun _ h => nomatch h
  rwa [List.append_nil] at h

end Stencil.Text
