import Stencil.Proofs.Expr.Cut
import Stencil.Proofs.Expr.Parse

/-!
# Stencil.Proofs.Expr.Arguments — arguments with and without their call

A list of expressions is read as the arguments of a call are: it parses exactly when its lexemes
spell phrases with separators between them (`Phrase.parseList_eq_ok_iff`). Parentheses around a
text add their two lexemes and change none of it (`Lexemes.spell_call_iff`), and of the phrases
spelled so only the call gives a single token. So the arguments of a modifier are the same
language as those of a call (`Postfix.parseList_eq_ok_iff_call`).
-/

namespace Stencil.Expr

/-! ## Reading a list -/

namespace Reading

/-- The phrases of a list that are complete lead to where the next one is expected. -/
theorem reads_doneSymbols (done es : List Phrase) :
    reads ⟨.list done, .operand none⟩ (doneSymbols es) =
      some ⟨.list (done ++ es), .operand none⟩ := by
  induction es generalizing done with
  | nil =>
    rw [List.append_nil]
    rfl
  | cons e es ih =>
    obtain ⟨lead, n, p, hp, hc⟩ := e.progress_eq
    have hes := ih (done ++ [e])
    rw [List.append_assoc, List.singleton_append] at hes
    rw [doneSymbols, reads_append, e.reads_symbols, hp, Option.bind_some,
      reads_cons (step_complete ..), hc]
    exact hes

/-- The symbols of a list lead behind its last phrase. -/
theorem list_reads_argumentSymbols (done : List Phrase) (e : Phrase) :
    Reading.list.reads (argumentSymbols (done ++ [e])) = some ⟨.list done, e.progress⟩ := by
  have hdone : Reading.list.reads (doneSymbols done) = some ⟨.list done, .operand none⟩ :=
    reads_doneSymbols [] done
  rw [argumentSymbols_append_singleton, reads_append, hdone, Option.bind_some]
  exact e.reads_symbols (.list done)

/-- A list is finished with the last of its arguments, which may be unfinished on its own no more.
-/
theorem finish_list (done : List Phrase) (e : Phrase) :
    finish ⟨.list done, e.progress⟩ = .ok (done, e) := by
  obtain ⟨lead, n, p, hp, hc⟩ := e.progress_eq
  rw [hp, finish, hc]

/-- The reading of a list finishes behind the symbols of the phrases it gives. -/
theorem symbols_finish_list {s : Reading} {done : List Phrase} {e : Phrase}
    (hs : s.nesting.isSingle = false) (h : s.finish = .ok (done, e)) :
    s.symbols = argumentSymbols (done ++ [e]) := by
  obtain ⟨nesting, progress⟩ := s
  cases progress with
  | operand lead => cases h
  | primary lead n => cases h
  | complete lead n p =>
    cases nesting with
    | single => cases hs
    | list done =>
      cases h
      rw [argumentSymbols_append_singleton, symbols_close]
      rfl
    | group => cases h
    | call => cases h

end Reading

/-! ## The phrases that a text lists -/

theorem Primary.symbols_ne_nil (p : Primary) : p.symbols ≠ [] := by
  cases p <;> rw [Primary.symbols] <;> exact List.cons_ne_nil _ _

/-- No expression is spelled without symbols. -/
theorem Phrase.symbols_ne_nil (e : Phrase) : e.symbols ≠ [] := by
  cases e with
  | operand n p =>
    rw [Phrase.symbols]
    exact List.append_ne_nil_of_right_ne_nil _ p.symbols_ne_nil
  | join before op n p =>
    rw [Phrase.symbols]
    exact List.append_ne_nil_of_right_ne_nil _ (List.cons_ne_nil _ _)

/-- Only an empty list of arguments is spelled without symbols. -/
theorem argumentSymbols_eq_nil_iff (es : List Phrase) : argumentSymbols es = [] ↔ es = [] := by
  constructor
  · intro h
    rcases es.eq_nil_or_concat with rfl | ⟨done, e, rfl⟩
    · rfl
    · rw [List.concat_eq_append, Reading.argumentSymbols_append_singleton] at h
      exact absurd (List.append_eq_nil_iff.1 h).2 e.symbols_ne_nil
  · rintro rfl
    rfl

/-- Only a blank text has no lexemes. -/
theorem Lexemes.spell_nil_iff (text : String) :
    Spell text [] ↔ text.toList.all Text.isBlank = true := by
  rw [List.all_eq_true]
  constructor
  · rintro ⟨⟨offset, hending⟩, hitems⟩
    have hscan : ofChars text.toList = ⟨[], .finish offset⟩ := by
      rw [← hending, ← List.map_eq_nil_iff.1 hitems]
    exact (isBlank_of_scan_eq_finish hscan).1
  · intro h
    have hscan : ofChars text.toList = _ := scan_of_blank none h 0
    rw [Spell, hscan]
    exact ⟨⟨_, rfl⟩, rfl⟩

/-- A text lists the phrases that its lexemes spell. -/
theorem Phrase.parseList_eq_ok_iff (text : String) (es : List Phrase) :
    Phrase.parseList text = .ok es ↔ Lexemes.Spell text (argumentSymbols es) := by
  unfold Phrase.parseList
  split
  · next hblank =>
    have hnil := (Lexemes.spell_nil_iff text).2 hblank
    constructor
    · intro h
      cases h
      exact hnil
    · intro h
      have hes : argumentSymbols es = [] := h.2.symm.trans hnil.2
      rw [(argumentSymbols_eq_nil_iff es).1 hes]
  · next hblank =>
    rw [Except.map_eq_ok_iff]
    constructor
    · rintro ⟨⟨done, e⟩, h, rfl⟩
      obtain ⟨s, offset, hreads, hend, hfinish⟩ := Reading.runAll_eq_ok_iff.1 h
      have hsymbols : s.symbols = _ := Reading.symbols_reads hreads
      have hlist : s.nesting.isSingle = false := Reading.isSingle_reads hreads
      refine ⟨⟨offset, hend⟩, ?_⟩
      rw [← Reading.symbols_finish_list hlist hfinish, hsymbols]
      rfl
    · rintro ⟨⟨offset, hend⟩, hsymbols⟩
      rcases es.eq_nil_or_concat with rfl | ⟨done, e, rfl⟩
      · -- only a blank text has no lexemes
        exact absurd ((Lexemes.spell_nil_iff text).1 ⟨⟨offset, hend⟩, hsymbols⟩) hblank
      · rw [List.concat_eq_append] at hsymbols ⊢
        refine ⟨(done, e), ?_, rfl⟩
        rw [Reading.runAll_eq_ok_iff, hsymbols]
        exact ⟨⟨.list done, e.progress⟩, offset, Reading.list_reads_argumentSymbols done e, hend,
          Reading.finish_list done e⟩

/-! ## Parentheses around a text -/

namespace Lexemes

open Expr.Symbol Text

/-- In front of a symbol as in front of another one after which the same is expected. -/
theorem scan_congr {previous previous' : Option Symbol}
    (hoperand : expectsOperand previous = expectsOperand previous')
    (hproperty : property? previous = property? previous') (base : Nat) (cs : List Char) :
    scan previous base cs = scan previous' base cs := by
  have hcs : property? previous cs = property? previous' cs := congrFun hproperty cs
  cases h : property? previous' cs with
  | some found =>
    rw [h] at hcs
    rw [scan_of_property?_some hcs, scan_of_property?_some h]
  | none =>
    rw [h] at hcs
    rw [scan_of_property?_none hcs, scan_of_property?_none h, hoperand]

/-- The lexemes of a text, wherever it starts, end with the text and have these symbols. -/
def Shows (xs : Lexemes) (symbols : List Symbol) : Prop :=
  (∃ offset, xs.ending = .finish offset) ∧ xs.items.map (·.symbol) = symbols

/-- What a text shows does not depend on where it stands. -/
theorem shows_scan_iff (previous : Option Symbol) (base : Nat) (cs : List Char)
    (symbols : List Symbol) :
    (scan previous base cs).Shows symbols ↔ (scan previous 0 cs).Shows symbols := by
  have hscan := scan_add previous 0 base cs
  rw [Nat.zero_add] at hscan
  rw [hscan, Shows, Shows, shift, List.map_map]
  refine and_congr_left fun _ => ?_
  cases (scan previous 0 cs).ending <;> simp

/-- A closing parenthesis is spelled as one. -/
theorem Starts.eq_closing {previous : Option Symbol} {base : Nat} {cs rest : List Char}
    {x : Lexeme} (h : Starts previous base cs x rest) (hx : x.symbol = .closing) :
    ∃ blanks, (∀ b ∈ blanks, isBlank b = true) ∧ cs = blanks ++ ')' :: rest := by
  cases h with
  | property hproperty => cases hx
  | @symbol blanks more rest c y hblanks hc hproperty hread =>
    have hspelling := (of_read? hread).1 (congrArg Symbol.role hx)
    cases hspelling
    exact ⟨blanks, hblanks, rfl⟩

/-- Where nothing but blanks follows a parenthesis, it is the one that was added. -/
theorem eq_of_append_closing {cs front back : List Char} (h : cs ++ [')'] = front ++ ')' :: back)
    (hback : ∀ c ∈ back, isBlank c = true) : cs = front ∧ back = [] := by
  rcases back.eq_nil_or_concat with rfl | ⟨init, d, rfl⟩
  · exact ⟨List.append_cancel_right h, rfl⟩
  · have hd : isBlank d = true := hback d (by simp)
    rw [List.concat_eq_append, ← List.cons_append, ← List.append_assoc] at h
    have hlast : [')'] = [d] := List.append_inj_right' h rfl
    rw [← List.singleton_inj.1 hlast] at hd
    cases hd

/-- A parenthesis behind a text is one more lexeme. -/
theorem Shows.append_closing {previous : Option Symbol} {base : Nat} {cs : List Char}
    {symbols : List Symbol} (h : (scan previous base cs).Shows symbols) :
    (scan previous base (cs ++ [')'])).Shows (symbols ++ [.closing]) := by
  cases hscan : scan previous base cs with
  | mk items ending =>
  rw [hscan] at h
  obtain ⟨⟨offset, hending⟩, rfl⟩ := h
  have hall : (scan previous base cs).items = items ++ [] := by
    rw [hscan, List.append_nil]
  obtain ⟨taken, blanks, hcs, hrest, htail⟩ := scan_cut hall
  rw [hscan, hending] at hrest
  have hblank := (isBlank_of_scan_eq_finish hrest).1
  obtain ⟨closing, offset', hclosing, hsymbols⟩ :=
    scan_closings (last previous items) (base + size taken + size blanks) 1
  -- the symbols before the parenthesis do not depend on what is behind the blanks
  have happend := (htail (blanks ++ List.replicate 1 ')')
    (delimited_blanks hblank (delimited_closings 1))).2
  rw [scan_blanks hblank (property?_closings _ 1), hclosing] at happend
  rw [List.replicate_one] at happend hsymbols
  rw [hcs, List.append_assoc, happend]
  refine ⟨⟨offset', rfl⟩, ?_⟩
  rw [prepend, List.map_append, hsymbols]

/-- If the last lexeme is the parenthesis behind a text, the text has the lexemes before it. -/
theorem shows_of_append_closing {previous : Option Symbol} {base : Nat} {cs : List Char}
    {symbols : List Symbol}
    (h : (scan previous base (cs ++ [')'])).Shows (symbols ++ [.closing])) :
    (scan previous base cs).Shows symbols := by
  obtain ⟨⟨offset, hending⟩, hitems⟩ := h
  obtain ⟨pre, post, happend, rfl, hpost⟩ := List.map_eq_append_iff.1 hitems
  obtain ⟨x, rfl, hx⟩ := List.map_eq_singleton_iff.1 hpost
  obtain ⟨taken, rest, hcs, hrest, htail⟩ := scan_cut happend
  have hfirst := congrArg items hrest
  obtain ⟨back, hstarts⟩ := exists_starts hfirst
  obtain ⟨blanks, hblanks, rfl⟩ := hstarts.eq_closing hx
  have hafter := hstarts.scan_eq.symm.trans hrest
  injection hafter with hnone hfinish
  have hback : scan (some x.symbol) (x.offset + size x.spelling) back = ⟨[], .finish offset⟩ := by
    rw [← hending, ← hfinish, ← (List.cons.inj hnone).2]
    rfl
  -- nothing but blanks may follow the last lexeme, so it is the parenthesis that was added
  rw [← List.append_assoc] at hcs
  obtain ⟨rfl, rfl⟩ := eq_of_append_closing hcs (isBlank_of_scan_eq_finish hback).1
  have hscan := (htail (blanks ++ []) (delimited_blanks hblanks delimited_nil)).2
  rw [List.append_nil, scan_of_blank _ hblanks] at hscan
  rw [hscan, Shows, prepend, List.append_nil]
  exact ⟨⟨_, rfl⟩, rfl⟩

/-- A call of `f` starts with two lexemes, behind which a text starts as at its own start. -/
theorem scan_call (cs : List Char) :
    scan none 0 ('f' :: '(' :: cs) =
      prepend [⟨.path "f", ['f'], 0⟩, ⟨.opening, ['('], 1⟩] (scan none 2 cs) := by
  have hword : read? true 'f' ['('] = .ok (.path "f", ['f'], ['(']) := rfl
  obtain ⟨more, hmore, -, hread⟩ := read?_replaced hword (.char [] cs (by decide))
  cases hmore
  have hfirst : scan none 0 ('f' :: '(' :: cs) = _ := scan_cons none rfl (by decide) hread 0
  have hsecond : scan (some (.path "f")) 1 ('(' :: cs) = _ :=
    scan_cons (some (.path "f")) rfl (by decide) rfl 1
  have hoperand : expectsOperand (some .opening) = expectsOperand none := rfl
  have hproperty : property? (some .opening) = property? none := rfl
  have hrest : scan (some .opening) 2 cs = scan none 2 cs := scan_congr hoperand hproperty 2 cs
  rw [← hrest, hfirst]
  have hsize : 0 + size ['f'] = 1 := rfl
  rw [hsize, hsecond]
  rfl

/-- Parentheses around a text, and the name of a call in front of them, are lexemes of their own. -/
theorem spell_call_iff (text : String) (xs : List Symbol) :
    Spell ("f(" ++ text ++ ")") xs ↔
      ∃ zs, xs = .path "f" :: .opening :: zs ∧ (scan none 0 (text.toList ++ [')'])).Shows zs := by
  have hchars : ("f(" ++ text ++ ")").toList = 'f' :: '(' :: (text.toList ++ [')']) := by
    rw [String.toList_append, String.toList_append]
    rfl
  rw [Spell, hchars, ofChars, scan_call]
  constructor
  · rintro ⟨hending, rfl⟩
    exact ⟨_, rfl, (shows_scan_iff none 2 _ _).1 ⟨hending, rfl⟩⟩
  · rintro ⟨zs, rfl, h⟩
    obtain ⟨hending, rfl⟩ := (shows_scan_iff none 2 _ _).2 h
    exact ⟨hending, rfl⟩

end Lexemes

/-! ## The phrases that are one call -/

/-- Adding an operator gives a tree with an operator on top. -/
theorem Grouping.exists_insert {α : Type} (t : Grouping α) (op : Operator) (a : α) :
    ∃ top l r, t.insert op a = .node top l r := by
  cases t with
  | operand b => exact ⟨op, .operand b, .operand a, rfl⟩
  | node top l r =>
    unfold Grouping.insert
    split
    · exact ⟨top, l, r.insert op a, rfl⟩
    · exact ⟨op, .node top l r, .operand a, rfl⟩

/-- Several operands end in an operator, so they are no single call. -/
theorem Phrase.toPostfix_join_ne (before : Phrase) (op : Operator) (n : Option Negation)
    (p : Primary) (f : String) (args : List Postfix) (property : Option String) :
    (Phrase.join before op n p).toPostfix ≠ [.call f args property] := by
  intro h
  obtain ⟨top, l, r, hnode⟩ := before.grouping.exists_insert op (negated n p.toPostfix)
  rw [Phrase.toPostfix, Phrase.grouping, hnode, Grouping.toPostfix_node] at h
  have hlast : [Token.operator top] = [.call f args property] :=
    List.append_inj_right' (h.trans (List.nil_append _).symm) rfl
  cases hlast

/-- What starts with a path and is a single call is spelled as one. -/
theorem Phrase.eq_call {e : Phrase} {f p : String} {args : List Postfix} {xs : List Symbol}
    (hsymbols : e.symbols = .path p :: xs) (hcall : e.toPostfix = [.call f args none]) :
    ∃ es, e = .operand none (.call f es none) ∧ es.map Phrase.toPostfix = args := by
  cases e with
  | join before op n p => exact absurd hcall (before.toPostfix_join_ne op n p f args none)
  | operand n p =>
    cases n with
    | some n => cases hsymbols
    | none =>
      rw [Phrase.toPostfix, Phrase.grouping, Grouping.toPostfix_operand, negated] at hcall
      cases p with
      | literal l => cases hcall
      | path p => cases hcall
      | group body => cases hsymbols
      | call p es property =>
        cases hcall
        exact ⟨es, rfl, (argumentPostfix_eq_map es).symm⟩

/-- A call is in postfix order when its arguments are. -/
theorem Phrase.toPostfix_call (f : String) (es : List Phrase) :
    (Phrase.operand none (.call f es none)).toPostfix =
      [.call f (es.map Phrase.toPostfix) none] := by
  rw [← argumentPostfix_eq_map]
  exact Grouping.toPostfix_operand _

/-- A text lists phrases just when the call with the text between its parentheses is spelled as
that of a call with these arguments. -/
theorem Lexemes.spell_arguments_iff (text : String) (es : List Phrase) :
    Spell ("f(" ++ text ++ ")") (Phrase.operand none (.call "f" es none)).symbols ↔
      Spell text (argumentSymbols es) := by
  have hsymbols : (Phrase.operand none (.call "f" es none)).symbols =
      .path "f" :: .opening :: (argumentSymbols es ++ [.closing]) := rfl
  rw [hsymbols, spell_call_iff]
  constructor
  · rintro ⟨zs, hzs, h⟩
    cases hzs
    exact shows_of_append_closing h
  · intro h
    exact ⟨_, rfl, Shows.append_closing h⟩

/-- **Arguments are the same language with and without their call.** A text lists arguments just
when a call with the text between its parentheses is an expression of one token, and they are its
arguments. There are none just when the text is blank. -/
theorem Postfix.parseList_eq_ok_iff_call (text : String) (args : List Postfix) :
    (Postfix.parseList text = .ok args ↔
      Postfix.parse ("f(" ++ text ++ ")") = .ok [.call "f" args none]) ∧
    (Postfix.parseList text = .ok [] ↔ text.toList.all Text.isBlank = true) := by
  have hlist : ∀ args, Postfix.parseList text = .ok args ↔
      ∃ es : List Phrase, Lexemes.Spell text (argumentSymbols es) ∧
        es.map Phrase.toPostfix = args := by
    intro args
    unfold Postfix.parseList
    simp only [Except.map_eq_ok_iff, Phrase.parseList_eq_ok_iff]
  constructor
  · rw [hlist, Postfix.parse, Except.map_eq_ok_iff]
    constructor
    · rintro ⟨es, hspell, rfl⟩
      refine ⟨.operand none (.call "f" es none), ?_, Phrase.toPostfix_call "f" es⟩
      rw [Phrase.parse_eq_ok_iff, Lexemes.spell_arguments_iff]
      exact hspell
    · -- a text that reads as a call of `f` when put in parentheses is a list of arguments
      rintro ⟨e, he, hcall⟩
      have hspell := (Phrase.parse_eq_ok_iff _ e).1 he
      obtain ⟨zs, hsymbols, -⟩ := (Lexemes.spell_call_iff text e.symbols).1 hspell
      obtain ⟨es, rfl, hargs⟩ := Phrase.eq_call hsymbols hcall
      exact ⟨es, (Lexemes.spell_arguments_iff text es).1 hspell, hargs⟩
  · rw [hlist, ← Lexemes.spell_nil_iff]
    constructor
    · rintro ⟨es, hspell, hnil⟩
      rw [List.map_eq_nil_iff] at hnil
      rw [hnil] at hspell
      exact hspell
    · intro hspell
      exact ⟨[], hspell, rfl⟩

end Stencil.Expr
