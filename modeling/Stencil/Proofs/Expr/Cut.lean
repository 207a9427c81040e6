import Stencil.Proofs.Expr.Literal
import Stencil.Proofs.Expr.Offset
import Stencil.Proofs.Expr.Tail

/-!
# Stencil.Proofs.Expr.Cut — texts cut behind a lexeme

A text starts with a lexeme, behind blanks or as a property, and goes on with a rest
(`Lexemes.Starts`), or there is no lexeme in it: it is blank, or something else starts behind its
blanks. Where the text stands does not matter but for offsets (`Lexemes.scan_add`).

A text may be cut behind any of its lexemes (`Lexemes.scan_cut`): the lexemes in front of the cut
are those of the text up to there, whether a blank, a parenthesis or nothing follows.
-/

namespace Stencil.Expr.Lexemes

open Expr.Symbol Text

/-! ## The first lexeme -/

/-- The symbol that stands behind these lexemes. -/
def last : Option Symbol → List Lexeme → Option Symbol
  | previous, [] => previous
  | _, x :: xs => last (some x.symbol) xs

/-- Lexemes in front of others. -/
def prepend (xs : List Lexeme) (ys : Lexemes) : Lexemes := ⟨xs ++ ys.items, ys.ending⟩

/-- The text starts with the lexeme, behind blanks or as a property, and goes on with the rest. -/
inductive Starts (previous : Option Symbol) (base : Nat) : List Char → Lexeme → List Char → Prop
  | property {taken rest : List Char} :
      property? previous ('.' :: (taken ++ rest)) = some (taken, rest) →
      Starts previous base ('.' :: (taken ++ rest))
        ⟨.property (String.ofList taken), '.' :: taken, base⟩ rest
  | symbol {blanks more rest : List Char} {c : Char} {x : Symbol} :
      (∀ b ∈ blanks, isBlank b = true) → isBlank c = false →
      property? previous (blanks ++ c :: (more ++ rest)) = none →
      read? (expectsOperand previous) c (more ++ rest) = .ok (x, c :: more, rest) →
      Starts previous base (blanks ++ c :: (more ++ rest)) ⟨x, c :: more, base + size blanks⟩ rest

variable {previous : Option Symbol} {base : Nat} {cs rest : List Char} {x : Lexeme}

/-- Where a property may be, and is, it is read. -/
theorem scan_of_property?_some {taken rest : List Char}
    (h : property? previous cs = some (taken, rest)) (base : Nat) :
    scan previous base cs =
      prepend [⟨.property (String.ofList taken), '.' :: taken, base⟩]
        (scan (some (.property (String.ofList taken))) (base + size ('.' :: taken)) rest) := by
  rw [scan]
  split
  · next hsome =>
    cases h.symm.trans hsome
    have hsize : base + 1 + size taken = base + size ('.' :: taken) := by
      rw [size_cons, ← Nat.add_assoc]
      rfl
    rw [hsize]
    rfl
  · next hnone => cases h.symm.trans hnone

/-- Elsewhere blanks are skipped, and the next symbol is read. -/
theorem scan_of_property?_none (h : property? previous cs = none) (base : Nat) :
    scan previous base cs =
      match trimStart cs with
      | [] => ⟨[], .finish (base + size (cs.takeWhile isBlank))⟩
      | c :: body =>
        match read? (expectsOperand previous) c body with
        | .error f => ⟨[], .fault ⟨f, base + size (cs.takeWhile isBlank)⟩⟩
        | .ok (x, spelling, rest) =>
          prepend [⟨x, spelling, base + size (cs.takeWhile isBlank)⟩]
            (scan (some x) (base + size (cs.takeWhile isBlank) + size spelling) rest) := by
  rw [scan]
  split
  · next hsome => cases h.symm.trans hsome
  · split
    · next hnil => rw [hnil]
    · next hcons =>
      rw [hcons]
      split
      · next herror => simp only [herror]
      · next hok =>
        simp only [hok]
        rfl

/-- Blanks end at the first character that is not blank. -/
theorem trimStart_blanks {blanks : List Char} {c : Char} (h : ∀ b ∈ blanks, isBlank b = true)
    (hc : isBlank c = false) (cs : List Char) :
    (blanks ++ c :: cs).takeWhile isBlank = blanks ∧ trimStart (blanks ++ c :: cs) = c :: cs := by
  refine takeWhile_of_stopsAt h ?_
  intro d hd
  cases hd
  exact hc

/-- The scan goes on behind the symbol that comes first. -/
theorem Starts.scan_eq (h : Starts previous base cs x rest) :
    scan previous base cs =
      prepend [x] (scan (some x.symbol) (x.offset + size x.spelling) rest) := by
  cases h with
  | property hproperty => exact scan_of_property?_some hproperty base
  | symbol hblanks hc hproperty hread =>
    obtain ⟨htake, htrim⟩ := trimStart_blanks hblanks hc _
    rw [scan_of_property?_none hproperty, htrim, htake]
    simp only [hread]

/-- Nothing but blanks stands in front of the first lexeme. -/
theorem Starts.eq_append (h : Starts previous base cs x rest) :
    ∃ blanks, (∀ b ∈ blanks, isBlank b = true) ∧ cs = blanks ++ (x.spelling ++ rest) ∧
      x.offset = base + size blanks := by
  cases h with
  | property hproperty => exact ⟨[], (fun _ hb => nomatch hb), rfl, rfl⟩
  | @symbol blanks more rest c x hblanks hc hproperty hread => exact ⟨blanks, hblanks, rfl, rfl⟩

/-- If a scan finds a symbol, one comes first. -/
theorem exists_starts {xs : List Lexeme} (h : (scan previous base cs).items = x :: xs) :
    ∃ rest, Starts previous base cs x rest := by
  cases hproperty : property? previous cs with
  | some found =>
    obtain ⟨taken, rest⟩ := found
    rw [scan_of_property?_some hproperty] at h
    obtain ⟨rfl, -⟩ := List.cons.inj h
    have happend := property?_append hproperty
    subst happend
    exact ⟨rest, .property hproperty⟩
  | none =>
    rw [scan_of_property?_none hproperty] at h
    split at h
    · cases h
    next c body hcons =>
    split at h
    · cases h
    next x spelling rest hread =>
    obtain ⟨rfl, -⟩ := List.cons.inj h
    obtain ⟨more, rfl, rfl, -⟩ := read?_replaced hread (.delimited rest delimited_nil)
    have hblanks : ∀ b ∈ cs.takeWhile isBlank, isBlank b = true :=
      List.all_eq_true.1 List.all_takeWhile
    -- the symbol begins where the blanks end
    have hc : isBlank c = false := by
      have hstops : StopsAt isBlank (trimStart cs) := stopsAt_dropWhile isBlank cs
      rw [hcons] at hstops
      exact hstops c rfl
    have happend := append_of_trimStart hcons
    rw [← happend] at hproperty
    have hstarts : Starts previous base _ _ rest := .symbol hblanks hc hproperty hread
    rw [happend] at hstarts
    exact ⟨rest, hstarts⟩

/-- What stands behind the first lexeme may be replaced; the lexeme stays, and it ends what stands
in front of it. -/
theorem Starts.replaced (h : Starts previous base cs x rest) :
    ∃ front, cs = front ++ rest ∧ x.offset + size x.spelling = base + size front ∧
      ∀ tail, Replaces rest tail →
        Replaces cs (front ++ tail) ∧ Starts previous base (front ++ tail) x tail := by
  cases h with
  | @property taken rest hproperty =>
    refine ⟨'.' :: taken, rfl, rfl, fun tail ht => ?_⟩
    obtain ⟨rfl, hname⟩ := of_property? hproperty
    obtain ⟨body, hbody, hs, hdotted⟩ := exists_of_takeProperty? hname
    have htaken : taken ≠ [] := by
      have hne := Name.takeDotted_ne_nil hs
      rwa [hdotted] at hne
    exact ⟨replaces_append (fun _ => htaken) rest tail,
      .property (takeProperty?_replaced hname ht)⟩
  | @symbol blanks more rest c x hblanks hc hproperty hread =>
    refine ⟨blanks ++ c :: more, ?_, ?_, fun tail ht => ?_⟩
    · rw [List.append_assoc, List.cons_append]
    · rw [size_append, Nat.add_assoc]
    obtain ⟨more', hmore, -, hread'⟩ := read?_replaced hread ht
    cases hmore
    -- the blanks before the symbol are kept, so only the case without any needs the symbol
    have hreplaces : Replaces (blanks ++ c :: (more ++ rest)) (blanks ++ c :: (more ++ tail)) := by
      cases blanks with
      | nil =>
        refine replaces_append ?_ rest tail
        rintro rfl
        exact ne_nil_of_read?_dot hread
      | cons b blanks =>
        have hb := delimits_of_isBlank (hblanks b List.mem_cons_self)
        exact .char _ _ hb.ne_dot
    rw [List.append_assoc, List.cons_append]
    exact ⟨hreplaces, .symbol hblanks hc (property?_none_replaced hproperty hreplaces) hread'⟩

/-- **A text may be cut behind any of its lexemes.** In front of anything that goes on with no
lexeme, the text up to there has the lexemes that it had. -/
theorem scan_cut {pre post : List Lexeme} (h : (scan previous base cs).items = pre ++ post) :
    ∃ taken rest, cs = taken ++ rest ∧
      scan (last previous pre) (base + size taken) rest =
        ⟨post, (scan previous base cs).ending⟩ ∧
      ∀ tail, Delimited tail → Replaces cs (taken ++ tail) ∧
        scan previous base (taken ++ tail) =
          prepend pre (scan (last previous pre) (base + size taken) tail) := by
  induction pre generalizing previous base cs with
  | nil =>
    refine ⟨[], cs, rfl, ?_, fun tail ht => ⟨.delimited cs ht, rfl⟩⟩
    rw [List.nil_append] at h
    rw [← h]
    rfl
  | cons x pre ih =>
    obtain ⟨rest₁, hstarts⟩ := exists_starts h
    have hscan := hstarts.scan_eq
    -- the first symbol takes a piece of the text, and the others a piece of the rest
    obtain ⟨front, rfl, hsize, hreplaced⟩ := hstarts.replaced
    rw [hsize] at hscan
    have hitems : (scan (some x.symbol) (base + size front) rest₁).items = pre ++ post := by
      rw [hscan] at h
      exact (List.cons.inj h).2
    obtain ⟨taken, rest, rfl, hrest, htail⟩ := ih hitems
    refine ⟨front ++ taken, rest, (List.append_assoc ..).symm, ?_, fun tail ht => ?_⟩
    · rw [size_append, ← Nat.add_assoc, last, hrest, hscan]
      rfl
    · obtain ⟨hreplaces, hpre⟩ := htail tail ht
      obtain ⟨hreplaces, hfirst⟩ := hreplaced (taken ++ tail) hreplaces
      rw [List.append_assoc, size_append, ← Nat.add_assoc]
      refine ⟨hreplaces, ?_⟩
      rw [hfirst.scan_eq, hsize, hpre]
      rfl

/-! ## No lexeme -/

/-- Blanks delimit, and nothing but blanks leaves what is behind them in charge. -/
theorem delimited_blanks {blanks tail : List Char} (h : ∀ b ∈ blanks, isBlank b = true)
    (ht : Delimited tail) : Delimited (blanks ++ tail) := by
  cases blanks with
  | nil => exact ht
  | cons b blanks => exact .cons (delimits_of_isBlank (h b List.mem_cons_self)) _

/-- There is no property behind blanks. -/
theorem property?_blanks {blanks : List Char} (h : ∀ b ∈ blanks, isBlank b = true)
    (hcs : property? previous cs = none) : property? previous (blanks ++ cs) = none := by
  cases blanks with
  | nil => exact hcs
  | cons b blanks =>
    have hb : b ≠ '.' := (delimits_of_isBlank (h b List.mem_cons_self)).ne_dot
    unfold property?
    split
    · rw [takeProperty?_eq_none_iff]
      intro body hbody
      exact absurd (List.cons.inj hbody).1 hb
    · rfl

/-- Blanks are passed over. -/
theorem scan_blanks {blanks : List Char} (h : ∀ b ∈ blanks, isBlank b = true)
    (hcs : property? previous cs = none) (base : Nat) :
    scan previous base (blanks ++ cs) = scan previous (base + size blanks) cs := by
  have htake : (blanks ++ cs).takeWhile isBlank = blanks ++ cs.takeWhile isBlank :=
    List.takeWhile_append_of_pos h
  have htrim : trimStart (blanks ++ cs) = trimStart cs := List.dropWhile_append_of_pos h
  rw [scan_of_property?_none (property?_blanks h hcs), scan_of_property?_none hcs, htake, htrim,
    size_append, ← Nat.add_assoc]

/-- A blank text has no lexemes. -/
theorem scan_of_blank (previous : Option Symbol) (h : ∀ c ∈ cs, isBlank c = true) (base : Nat) :
    scan previous base cs = ⟨[], .finish (base + size cs)⟩ := by
  have hnil : property? previous [] = none := by
    cases previous with
    | none => rfl
    | some x => cases x <;> rfl
  have hscan := scan_blanks h hnil base
  rw [List.append_nil, scan_nil hnil] at hscan
  exact hscan

/-- A text without lexemes is blank, or something that is no lexeme stands behind its blanks. -/
theorem of_scan_eq_nil {ending : Ending} (h : scan previous base cs = ⟨[], ending⟩) :
    ((∀ c ∈ cs, isBlank c = true) ∧ ending = .finish (base + size cs)) ∨
      ∃ blanks c body f, cs = blanks ++ c :: body ∧ (∀ b ∈ blanks, isBlank b = true) ∧
        read? (expectsOperand previous) c body = .error f ∧
        ending = .fault ⟨f, base + size blanks⟩ := by
  have hblanks : ∀ b ∈ cs.takeWhile isBlank, isBlank b = true :=
    List.all_eq_true.1 List.all_takeWhile
  -- a scan without symbols has skipped blanks, and found the end or a fault
  cases hproperty : property? previous cs with
  | some found =>
    rw [scan_of_property?_some hproperty] at h
    cases h
  | none =>
    rw [scan_of_property?_none hproperty] at h
    split at h
    · next hnil =>
      have happend := append_of_trimStart hnil
      rw [List.append_nil] at happend
      cases h
      rw [happend] at hblanks ⊢
      exact .inl ⟨hblanks, rfl⟩
    · next c body hcons =>
      have happend := append_of_trimStart hcons
      split at h
      · next f herror =>
        cases h
        exact .inr ⟨_, c, body, f, happend.symm, hblanks, herror, rfl⟩
      · cases h

/-- Where the lexemes end with the text and there are none, it is blank. -/
theorem isBlank_of_scan_eq_finish {offset : Nat}
    (h : scan previous base cs = ⟨[], .finish offset⟩) :
    (∀ c ∈ cs, isBlank c = true) ∧ offset = base + size cs := by
  rcases of_scan_eq_nil h with ⟨hblank, hend⟩ | ⟨_, _, _, _, _, _, _, hfault⟩
  · injection hend with hoffset
    exact ⟨hblank, hoffset⟩
  · cases hfault

/-! ## Closing parentheses -/

/-- A closing parenthesis begins no property. -/
theorem property?_closings (previous : Option Symbol) (k : Nat) :
    property? previous (List.replicate k ')') = none := by
  have hnone : Name.takeProperty? (List.replicate k ')') = none := by
    cases k <;> rfl
  unfold property?
  split
  · exact hnone
  · rfl

/-- Closing parentheses are scanned one by one. -/
theorem scan_closings (previous : Option Symbol) (base k : Nat) :
    ∃ items offset, scan previous base (List.replicate k ')') = ⟨items, .finish offset⟩ ∧
      items.map (·.symbol) = List.replicate k .closing := by
  induction k generalizing previous base with
  | zero => exact ⟨[], _, scan_of_blank previous (by simp) base, rfl⟩
  | succ k ih =>
    obtain ⟨items, offset, hscan, hitems⟩ := ih (some .closing) (base + size [')'])
    have hproperty : property? previous (')' :: List.replicate k ')') = none :=
      property?_closings previous (k + 1)
    have hfirst := scan_cons previous hproperty (by decide) rfl base
    rw [List.replicate_succ, hfirst, hscan]
    exact ⟨_, offset, rfl, congrArg (Symbol.closing :: ·) hitems⟩

theorem delimited_closings (k : Nat) : Delimited (List.replicate k ')') := by
  cases k with
  | zero => exact delimited_nil
  | succ k => exact .cons delimits_closing _

/-! ## Where a text stands -/

/-- The lexemes of the text if it stands so many bytes further into another. -/
def shift (k : Nat) (xs : Lexemes) : Lexemes where
  items := xs.items.map fun x => { x with offset := x.offset + k }
  ending := match xs.ending with
    | .finish offset => .finish (offset + k)
    | .fault e => .fault (e.shift k)

/-- Where the text begins only moves the offsets. -/
theorem scan_add (previous : Option Symbol) (base k : Nat) (cs : List Char) :
    scan previous (base + k) cs = (scan previous base cs).shift k := by
  fun_induction scan previous base cs with
  | case1 previous base cs taken rest hproperty x after ih =>
    have hk : base + k + size ('.' :: taken) = base + 1 + size taken + k := by
      rw [size_cons]
      show base + k + (1 + size taken) = _
      omega
    rw [scan_of_property?_some hproperty, hk, ih]
    rfl
  | case2 previous base cs hproperty start hnil =>
    rw [scan_of_property?_none hproperty, hnil, Nat.add_right_comm]
    rfl
  | case3 previous base cs hproperty start c body hcons f hread =>
    rw [scan_of_property?_none hproperty, hcons, Nat.add_right_comm]
    simp only [hread]
    rfl
  | case4 previous base cs hproperty start c body hcons x spelling rest hread after ih =>
    have hstart : start = base + size (cs.takeWhile isBlank) := rfl
    have hk : base + k + size (cs.takeWhile isBlank) + size spelling =
        start + size spelling + k := by
      omega
    rw [scan_of_property?_none hproperty, hcons]
    simp only [hread]
    rw [hk, ih, Nat.add_right_comm base k]
    rfl

end Stencil.Expr.Lexemes
