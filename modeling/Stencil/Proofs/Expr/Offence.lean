import Stencil.Proofs.Expr.Cut
import Stencil.Proofs.Expr.Parse

/-!
# Stencil.Proofs.Expr.Offence — the first offending lexeme

Whatever has been read without a fault is the start of an expression: an operand, if one is
expected, and the parentheses that are open complete it (`Reading.exists_reads_missing`). A symbol
that cannot be read is one with which no expression goes on (`Reading.refused_of_step`). So the
parser's errors stand at the first lexeme that is too much, or where the text breaks off
(`Postfix.error_at_first_offence`).
-/

namespace Stencil.Expr

/-! ## Completing what has been read -/

/-- How many parentheses are open. -/
def Nesting.depth : Nesting → Nat
  | .single | .list _ => 0
  | .group _ _ outer | .call _ _ _ _ outer => outer.depth + 1

/-- What is missing in front of the parentheses: an operand, if one is expected. -/
def Progress.missing : Progress → List Char
  | .operand _ | .primary .. => ['a']
  | .complete .. => []

/-- The symbol of that operand. -/
def Progress.missingSymbols : Progress → List Symbol
  | .operand _ | .primary .. => [.path "a"]
  | .complete .. => []

namespace Reading

/-- A text that completes what has been read. -/
def missing (s : Reading) : List Char :=
  s.progress.missing ++ List.replicate s.nesting.depth ')'

/-- Its symbols. -/
def missingSymbols (s : Reading) : List Symbol :=
  s.progress.missingSymbols ++ List.replicate s.nesting.depth .closing

/-- Behind a complete operand the parentheses that are open may be closed. -/
theorem exists_reads_closings (nesting : Nesting) (hs : nesting.isSingle = true) (lead : Lead)
    (n : Option Negation) (p : Primary) :
    ∃ e : Phrase, reads ⟨nesting, .complete lead n p⟩ (List.replicate nesting.depth .closing) =
      some ⟨.single, e.progress⟩ := by
  -- each parenthesis completes an operand outside of it: the induction goes outwards
  induction nesting generalizing lead n p with
  | single =>
    refine ⟨lead.close n p, ?_⟩
    cases lead <;> rfl
  | list done => cases hs
  | group lead' n' outer ih =>
    obtain ⟨e, he⟩ := ih hs lead' n' (.group (lead.close n p))
    refine ⟨e, ?_⟩
    rw [Nesting.depth, List.replicate_succ, reads_cons (step_complete ..)]
    exact he
  | call lead' n' f done outer ih =>
    obtain ⟨e, he⟩ := ih hs lead' n' (.call f (done ++ [lead.close n p]) none)
    refine ⟨e, ?_⟩
    rw [Nesting.depth, List.replicate_succ, reads_cons (step_complete ..)]
    exact he

/-- **What has been read is the start of an expression.** -/
theorem exists_reads_missing (s : Reading) (hs : s.nesting.isSingle = true) :
    ∃ e : Phrase, s.reads s.missingSymbols = some ⟨.single, e.progress⟩ := by
  obtain ⟨nesting, progress⟩ := s
  cases progress with
  | operand lead =>
    obtain ⟨e, he⟩ := exists_reads_closings nesting hs lead none (.path "a")
    have hpath : step ⟨nesting, .operand lead⟩ (.path "a") = _ :=
      awaits_operand nesting lead (.path "a") _ rfl
    exact ⟨e, (reads_cons hpath _).trans he⟩
  | primary lead n =>
    obtain ⟨e, he⟩ := exists_reads_closings nesting hs lead (some n) (.path "a")
    have hpath : step ⟨nesting, .primary lead n⟩ (.path "a") = _ :=
      awaits_primary nesting lead n (.path "a") _ rfl
    exact ⟨e, (reads_cons hpath _).trans he⟩
  | complete lead n p => exact exists_reads_closings nesting hs lead n p

end Reading

/-- A text parses if its symbols lead to the end of a phrase. -/
theorem Phrase.parse_of_reads {text : String} {xs : List Symbol} {e : Phrase}
    (hxs : Lexemes.Spell text xs) (h : Reading.single.reads xs = some ⟨.single, e.progress⟩) :
    Phrase.parse text = .ok e := by
  rw [Phrase.parse_eq_ok_iff]
  have hread : Reading.symbols ⟨.single, e.progress⟩ = xs := Reading.symbols_reads h
  have hfinish := Reading.symbols_finish rfl (Reading.finish_progress e)
  rwa [← hfinish, hread]

/-- The symbols of a text that parses are all read. -/
theorem Phrase.exists_reads_of_parse {text : String} {xs : List Symbol} {e : Phrase}
    (h : Phrase.parse text = .ok e) (hxs : Lexemes.Spell text xs) :
    Reading.single.reads xs = some ⟨.single, e.progress⟩ := by
  have he := (Phrase.parse_eq_ok_iff text e).1 h
  have heq : xs = e.symbols := hxs.2.symm.trans he.2
  rw [heq]
  exact e.reads_symbols .single

/-- No expression starts with these symbols. -/
def Refused (xs : List Symbol) : Prop :=
  ∀ text ys, Lexemes.Spell text (xs ++ ys) → ∀ tokens, Postfix.parse text ≠ .ok tokens

/-- What is read in postfix order is the postfix order of a phrase. -/
theorem Postfix.exists_phrase_of_parse {text : String} {tokens : Postfix}
    (h : Postfix.parse text = .ok tokens) :
    ∃ e : Phrase, Phrase.parse text = .ok e ∧ e.toPostfix = tokens :=
  Except.map_eq_ok_iff.1 h

namespace Reading

/-- Behind symbols that can be read, one that cannot is the start of no expression. -/
theorem refused_of_step {xs : List Symbol} {s : Reading} {x : Symbol} {f : Fault}
    (hs : Reading.single.reads xs = some s) (h : s.step x = .error f) : Refused (xs ++ [x]) := by
  intro text ys hspell tokens hparse
  obtain ⟨e, he, -⟩ := Postfix.exists_phrase_of_parse hparse
  have hreads := Phrase.exists_reads_of_parse he hspell
  rw [List.append_assoc, reads_append, hs, Option.bind_some, List.singleton_append, reads, h]
    at hreads
  cases hreads

/-- Where reading cannot end, no expression ends. -/
theorem ne_ok_of_finish {xs : List Symbol} {s : Reading} {f : Fault}
    (hs : Reading.single.reads xs = some s) (h : s.finish = .error f) {text : String}
    (hspell : Lexemes.Spell text xs) (tokens : Postfix) : Postfix.parse text ≠ .ok tokens := by
  intro hparse
  obtain ⟨e, he, -⟩ := Postfix.exists_phrase_of_parse hparse
  have hreads := Phrase.exists_reads_of_parse he hspell
  rw [hs] at hreads
  rw [Option.some.inj hreads, finish_progress] at h
  cases h

/-! ## Where reading stops -/

/-- An error in reading lexemes is that of the first one that cannot be read. -/
theorem exists_of_run_eq_error {s : Reading} {items : List Lexeme} {e : Error}
    (h : s.run items = .error e) :
    ∃ pre x post s', items = pre ++ x :: post ∧ s.reads (pre.map (·.symbol)) = some s' ∧
      s'.step x.symbol = .error e.fault ∧ x.offset = e.offset := by
  induction items generalizing s with
  | nil => cases h
  | cons y items ih =>
    rw [run] at h
    cases hy : s.step y.symbol with
    | error f =>
      rw [hy] at h
      cases h
      exact ⟨[], y, items, s, rfl, rfl, hy, rfl⟩
    | ok t =>
      rw [hy] at h
      obtain ⟨pre, x, post, s', rfl, hpre, hx, hoffset⟩ := ih h
      refine ⟨y :: pre, x, post, s', rfl, ?_, hx, hoffset⟩
      rw [List.map_cons, reads_cons hy]
      exact hpre

end Reading

namespace Lexemes

open Expr.Symbol Text

/-- The text that completes what has been read is cut into the symbols that do. -/
theorem scan_missing (s : Reading) (previous : Option Symbol) (base : Nat) :
    property? previous s.missing = none ∧
    ∃ items offset, scan previous base s.missing = ⟨items, .finish offset⟩ ∧
      items.map (·.symbol) = s.missingSymbols := by
  obtain ⟨nesting, progress⟩ := s
  -- the operand is read as a path wherever it stands, since a parenthesis or the end is behind it
  have hoperand : ∀ k, property? previous ('a' :: List.replicate k ')') = none ∧
      ∃ items offset,
        scan previous base ('a' :: List.replicate k ')') = ⟨items, .finish offset⟩ ∧
          items.map (·.symbol) = .path "a" :: List.replicate k .closing := by
    intro k
    have hproperty : property? previous ('a' :: List.replicate k ')') = none := by
      unfold property?
      split <;> rfl
    have hread : read? (expectsOperand previous) 'a' [] = .ok (.path "a", ['a'], []) := by
      cases expectsOperand previous <;> rfl
    obtain ⟨more, hmore, -, hread⟩ := read?_replaced hread (.delimited [] (delimited_closings k))
    cases hmore
    obtain ⟨items, offset, hscan, hitems⟩ :=
      scan_closings (some (.path "a")) (base + size ['a']) k
    have hfirst := scan_cons previous hproperty (by decide) hread base
    rw [hscan] at hfirst
    exact ⟨hproperty, _, offset, hfirst, congrArg (Symbol.path "a" :: ·) hitems⟩
  cases progress with
  | operand lead => exact hoperand nesting.depth
  | primary lead n => exact hoperand nesting.depth
  | complete lead n p =>
    exact ⟨property?_closings previous nesting.depth,
      scan_closings previous base nesting.depth⟩

end Lexemes

/-! ## The offence -/

/-- The text, with its lexemes, is the start of an expression. -/
def Begins (before : List Char) (pre : List Lexeme) : Prop :=
  ∃ further more ending tokens,
    Lexemes.ofChars (before ++ further) = ⟨pre ++ more, ending⟩ ∧
      Postfix.parse (String.ofList (before ++ further)) = .ok tokens

/-- No expression is spelled with just these symbols. -/
def Unfinished (xs : List Symbol) : Prop :=
  ∀ text, Lexemes.Spell text xs → ∀ tokens, Postfix.parse text ≠ .ok tokens

/-- What stands where an error is placed, behind the lexemes in front of it. -/
inductive Offence (text : List Char) (pre : List Lexeme) (e : Error) : List Char → Prop
  /-- A lexeme with which no expression goes on. -/
  | lexeme {x : Lexeme} {post : List Lexeme} (rest : List Char) :
      (Lexemes.ofChars text).items = pre ++ x :: post → x.offset = e.offset →
      Refused (pre.map (·.symbol) ++ [x.symbol]) → Offence text pre e (x.spelling ++ rest)
  /-- Something that is no lexeme. -/
  | character {c : Char} {body : List Char} :
      Lexemes.ofChars text = ⟨pre, .fault e⟩ →
      Symbol.read? (Symbol.expectsOperand (Lexemes.last none pre)) c body = .error e.fault →
      Offence text pre e (c :: body)
  /-- The end of a text that is no expression yet. -/
  | finish :
      Lexemes.ofChars text = ⟨pre, .finish e.offset⟩ → Unfinished (pre.map (·.symbol)) →
      Offence text pre e []

namespace Lexemes

open Expr.Symbol Text

/-- Lexemes that can be read are the start of an expression, and so are blanks behind them. -/
theorem begins_of_reads {taken blanks : List Char} {pre : List Lexeme} {s : Reading}
    (hreads : Reading.single.reads (pre.map (·.symbol)) = some s)
    (hcut : ∀ tail, Delimited tail →
      scan none 0 (taken ++ tail) = prepend pre (scan (last none pre) (0 + size taken) tail))
    (hblanks : ∀ b ∈ blanks, isBlank b = true) :
    ofChars (taken ++ blanks) = ⟨pre, .finish (size (taken ++ blanks))⟩ ∧
      Begins (taken ++ blanks) pre := by
  constructor
  · have hscan := hcut (blanks ++ []) (delimited_blanks hblanks delimited_nil)
    rw [List.append_nil] at hscan
    rw [ofChars, hscan, scan_of_blank _ hblanks, prepend, List.append_nil, Nat.zero_add,
      size_append]
  · -- a blank ends what has been read, in front of what completes it
    have hspace : isBlank ' ' = true := rfl
    have hall : ∀ b ∈ blanks ++ [' '], isBlank b = true := by
      intro b hb
      rcases List.mem_append.1 hb with hb | hb
      · exact hblanks b hb
      · rw [List.mem_singleton.1 hb, hspace]
    obtain ⟨hproperty, items, offset, hmissing, hitems⟩ :=
      scan_missing s (last none pre) (0 + size taken + size (blanks ++ [' ']))
    have hscan := hcut (blanks ++ ' ' :: s.missing)
      (delimited_blanks hblanks (.cons (delimits_of_isBlank hspace) s.missing))
    rw [List.append_cons, scan_blanks hall hproperty, hmissing, ← List.append_cons] at hscan
    have hchars : ofChars (taken ++ blanks ++ ' ' :: s.missing) =
        ⟨pre ++ items, .finish offset⟩ := by
      rw [ofChars, List.append_assoc, hscan]
      rfl
    have hspell : Spell (String.ofList (taken ++ blanks ++ ' ' :: s.missing))
        (pre.map (·.symbol) ++ s.missingSymbols) := by
      rw [Spell, String.toList_ofList, hchars]
      refine ⟨⟨offset, rfl⟩, ?_⟩
      rw [List.map_append, hitems]
    obtain ⟨e, he⟩ := s.exists_reads_missing (Reading.isSingle_reads hreads)
    have hparse : Phrase.parse (String.ofList (taken ++ blanks ++ ' ' :: s.missing)) = .ok e := by
      refine Phrase.parse_of_reads hspell ?_
      rw [Reading.reads_append, hreads]
      exact he
    exact ⟨_, items, _, e.toPostfix, hchars, Except.map_eq_ok_iff.2 ⟨e, hparse, rfl⟩⟩

end Lexemes

namespace Reading

/-- Why reading goes no further: at a lexeme, where no lexeme starts, or at the end. -/
inductive StopsAt (s : Reading) (ending : Ending) (e : Error) : List Lexeme → Prop
  | step (x : Lexeme) (more : List Lexeme) : s.step x.symbol = .error e.fault →
      x.offset = e.offset → StopsAt s ending e (x :: more)
  | fault : ending = .fault e → StopsAt s ending e []
  | finish : ending = .finish e.offset → s.finish = .error e.fault → StopsAt s ending e []

/-- What is no expression has lexemes that can be read, behind which reading goes no further. -/
theorem exists_of_runAll_eq_error {s : Reading} {xs : Lexemes} {e : Error}
    (h : s.runAll xs = .error e) :
    ∃ pre post s', xs.items = pre ++ post ∧ s.reads (pre.map (·.symbol)) = some s' ∧
      s'.StopsAt xs.ending e post := by
  rcases Except.bind_eq_error_iff.1 h with h | ⟨s', hrun, h⟩
  · obtain ⟨pre, x, post, s', hitems, hpre, hx, hoffset⟩ := exists_of_run_eq_error h
    exact ⟨pre, x :: post, s', hitems, hpre, .step x post hx hoffset⟩
  · have hreads := (run_eq_ok_iff s s' xs.items).1 hrun
    refine ⟨xs.items, [], s', (List.append_nil _).symm, hreads, ?_⟩
    split at h
    · next offset hending =>
      obtain ⟨f, hf, rfl⟩ := Except.mapError_eq_error_iff.1 h
      exact .finish hending hf
    · next hending =>
      cases h
      exact .fault hending

end Reading

/-- Behind the lexemes that can be read stands the offence, and nothing but blanks before it. -/
theorem Reading.exists_offence {text rest : List Char} {base : Nat} {pre post : List Lexeme}
    {s : Reading} {e : Error} (hitems : (Lexemes.ofChars text).items = pre ++ post)
    (hreads : Reading.single.reads (pre.map (·.symbol)) = some s)
    (hrest : Lexemes.scan (Lexemes.last none pre) base rest =
      ⟨post, (Lexemes.ofChars text).ending⟩)
    (hstop : s.StopsAt (Lexemes.ofChars text).ending e post) :
    ∃ blanks after, rest = blanks ++ after ∧ (∀ b ∈ blanks, Text.isBlank b = true) ∧
      base + Text.size blanks = e.offset ∧ Offence text pre e after := by
  cases hstop with
  | step x more hstep hoffset =>
    have hfirst := congrArg Lexemes.items hrest
    obtain ⟨rest', hstarts⟩ := Lexemes.exists_starts hfirst
    obtain ⟨blanks, hblanks, happend, hsize⟩ := hstarts.eq_append
    have hrefused := Reading.refused_of_step hreads hstep
    exact ⟨blanks, x.spelling ++ rest', happend, hblanks, hsize.symm.trans hoffset,
      .lexeme rest' hitems hoffset hrefused⟩
  -- the symbols are in order so far, and no symbol can be read on
  | fault hending =>
    have htext : Lexemes.ofChars text = ⟨pre, .fault e⟩ := by
      rw [← hending, ← List.append_nil pre, ← hitems]
    rw [hending] at hrest
    rcases Lexemes.of_scan_eq_nil hrest with ⟨-, hfinish⟩ | ⟨blanks, c, body, f, happend, hblanks,
      hread, hfault⟩
    · cases hfinish
    · cases hfault
      exact ⟨blanks, c :: body, happend, hblanks, rfl, .character htext hread⟩
  | finish hending hfinish =>
    have htext : Lexemes.ofChars text = ⟨pre, .finish e.offset⟩ := by
      rw [← hending, ← List.append_nil pre, ← hitems]
    have hunfinished : Unfinished (pre.map (·.symbol)) :=
      fun text hspell tokens => Reading.ne_ok_of_finish hreads hfinish hspell tokens
    rw [hending] at hrest
    obtain ⟨hblank, hoffset⟩ := Lexemes.isBlank_of_scan_eq_finish hrest
    exact ⟨rest, [], (List.append_nil rest).symm, hblank, hoffset.symm, .finish htext hunfinished⟩

/-- **An error stands at the first offending lexeme.** It splits the text between two characters.
The lexemes in front of it are the start of an expression, while none goes on with what stands
behind it. -/
theorem Postfix.error_at_first_offence {text : String} {e : Error}
    (h : Postfix.parse text = .error e) :
    ∃ before after pre, text.toList = before ++ after ∧ Text.size before = e.offset ∧
      Lexemes.ofChars before = ⟨pre, .finish e.offset⟩ ∧ Begins before pre ∧
        Offence text.toList pre e after := by
  have hrun := Except.map_eq_error_iff.1 (Except.map_eq_error_iff.1 h)
  obtain ⟨pre, post, s, hitems, hreads, hstop⟩ := Reading.exists_of_runAll_eq_error hrun
  obtain ⟨taken, rest, htext, hrest, hcut⟩ := Lexemes.scan_cut hitems
  obtain ⟨blanks, after, rfl, hblanks, hsize, hoffence⟩ :=
    Reading.exists_offence hitems hreads hrest hstop
  obtain ⟨hlexemes, hbegins⟩ :=
    Lexemes.begins_of_reads hreads (fun tail ht => (hcut tail ht).2) hblanks
  have hoffset : Text.size (taken ++ blanks) = e.offset := by
    rw [Text.size_append, ← hsize, Nat.zero_add]
  rw [hoffset] at hlexemes
  refine ⟨taken ++ blanks, after, pre, ?_, hoffset, hlexemes, hbegins, hoffence⟩
  rw [htext, List.append_assoc]

/-- A path goes on, but not with a parenthesis that closes none. -/
theorem Postfix.error_at_first_offence_strayClosing :
    Postfix.parse "a)" = .error ⟨.stray .closing, 1⟩ ∧
      ∃ before after pre, "a)".toList = before ++ after ∧ Text.size before = 1 ∧
        Lexemes.ofChars before = ⟨pre, .finish 1⟩ ∧ Begins before pre ∧
          Offence "a)".toList pre ⟨.stray .closing, 1⟩ after := by
  have hread : Symbol.read? true 'a' [')'] = .ok (.path "a", ['a'], [')']) := rfl
  have hfirst : Lexemes.scan none 0 ['a', ')'] = _ := Lexemes.scan_cons none rfl rfl hread 0
  have hsecond : Lexemes.scan (some (.path "a")) (0 + Text.size ['a']) [')'] = _ :=
    Lexemes.scan_cons (some (.path "a")) rfl rfl rfl _
  rw [hsecond, Lexemes.scan_nil rfl] at hfirst
  have hchars : Lexemes.ofChars "a)".toList = _ := hfirst
  have h : Postfix.parse "a)" = .error ⟨.stray .closing, 1⟩ := by
    rw [Postfix.parse, Phrase.parse, hchars]
    rfl
  exact ⟨h, Postfix.error_at_first_offence h⟩

end Stencil.Expr
