import Stencil.Expr.Parser
import Stencil.Proofs.Except
import Stencil.Proofs.Expr.Grammar
import Stencil.Proofs.Expr.Tree

/-!
# Stencil.Proofs.Expr.Parse — the texts that parse, and what they parse to

A state of reading remembers every symbol that led to it (`Reading.symbols_step`), and from a
place where an operand is expected the symbols of a phrase lead behind the phrase
(`Phrase.reads_symbols`). So the lexemes of a text parse exactly when they spell a phrase
(`Phrase.parse_eq_ok_iff`), no two phrases are spelled alike (`Phrase.symbols_injective`), and
parsing gives the postorder of the one tree that the priorities allow
(`Postfix.parse_is_postorder`).
-/

namespace Stencil.Expr

namespace Reading

/-! ## Reading symbols -/

/-- Reads symbols in order; `none` if one of them cannot follow. -/
def reads : Reading → List Symbol → Option Reading
  | s, [] => some s
  | s, x :: xs =>
    match s.step x with
    | .ok s => s.reads xs
    | .error _ => none

/-- A symbol that can be read on is. -/
theorem reads_cons {s t : Reading} {x : Symbol} (h : s.step x = .ok t) (xs : List Symbol) :
    s.reads (x :: xs) = t.reads xs := by
  rw [reads, h]

/-- Lexemes are read as their symbols are. -/
theorem run_eq_ok_iff (s s' : Reading) (items : List Lexeme) :
    s.run items = .ok s' ↔ s.reads (items.map (·.symbol)) = some s' := by
  induction items generalizing s with
  | nil => simp [run, reads]
  | cons x xs ih =>
    rw [run, List.map_cons, reads]
    cases s.step x.symbol with
    | ok t => exact ih t
    | error f => simp

/-- Lexemes are read to their ending if they end with the text, in a state that may end there. -/
theorem runAll_eq_ok_iff {s : Reading} {xs : Lexemes} {result : List Phrase × Phrase} :
    s.runAll xs = .ok result ↔
      ∃ s' offset, s.reads (xs.items.map (·.symbol)) = some s' ∧
        xs.ending = .finish offset ∧ s'.finish = .ok result := by
  unfold runAll
  rw [Except.bind_eq_ok_iff]
  constructor
  · rintro ⟨s', hrun, h⟩
    split at h
    · next offset hend =>
      exact ⟨s', offset, (run_eq_ok_iff s s' _).1 hrun, hend, Except.mapError_eq_ok_iff.1 h⟩
    · cases h
  · rintro ⟨s', offset, hreads, hend, hfinish⟩
    refine ⟨s', (run_eq_ok_iff s s' _).2 hreads, ?_⟩
    rw [hend]
    exact Except.mapError_eq_ok_iff.2 hfinish

/-- Two rows of symbols are read one after the other. -/
theorem reads_append (s : Reading) (xs ys : List Symbol) :
    s.reads (xs ++ ys) = (s.reads xs).bind (·.reads ys) := by
  induction xs generalizing s with
  | nil => rfl
  | cons x xs ih =>
    rw [List.cons_append, reads, reads]
    cases s.step x with
    | ok t => exact ih t
    | error f => rfl

/-! ## The symbols behind a state -/

/-- The symbols of phrases that are complete in a list. -/
def doneSymbols : List Phrase → List Symbol
  | [] => []
  | e :: es => e.symbols ++ .separator :: doneSymbols es

/-- The symbols of what precedes an operand in its chain. -/
def leadSymbols : Lead → List Symbol
  | none => []
  | some (before, op) => before.symbols ++ [.operator op]

/-- The symbols up to the innermost open parenthesis or the last separator in it. -/
def nestingSymbols : Nesting → List Symbol
  | .single => []
  | .list done => doneSymbols done
  | .group lead n outer =>
    nestingSymbols outer ++ leadSymbols lead ++ negationSymbols n ++ [.opening]
  | .call lead n p done outer =>
    nestingSymbols outer ++ leadSymbols lead ++ negationSymbols n ++
      .path p :: .opening :: doneSymbols done

/-- The symbols of what has been read since. -/
def progressSymbols : Progress → List Symbol
  | .operand lead => leadSymbols lead
  | .primary lead n => leadSymbols lead ++ [.negate n]
  | .complete lead n p => leadSymbols lead ++ negationSymbols n ++ p.symbols

/-- All symbols that led to the state. -/
def symbols (s : Reading) : List Symbol := nestingSymbols s.nesting ++ progressSymbols s.progress

/-- An operand that is complete comes behind what led up to it. -/
theorem symbols_close (lead : Lead) (n : Option Negation) (p : Primary) :
    (lead.close n p).symbols = leadSymbols lead ++ negationSymbols n ++ p.symbols := by
  cases lead with
  | none => simp [Lead.close, leadSymbols, Phrase.symbols]
  | some l => simp [Lead.close, leadSymbols, Phrase.symbols]

/-- An argument that is complete has a comma behind it. -/
theorem doneSymbols_append_singleton (done : List Phrase) (e : Phrase) :
    doneSymbols (done ++ [e]) = doneSymbols done ++ e.symbols ++ [.separator] := by
  induction done with
  | nil => simp [doneSymbols]
  | cons d ds ih => simp [doneSymbols, ih]

/-- The last argument has none. -/
theorem argumentSymbols_append_singleton (done : List Phrase) (e : Phrase) :
    argumentSymbols (done ++ [e]) = doneSymbols done ++ e.symbols := by
  induction done with
  | nil => simp [doneSymbols, argumentSymbols]
  | cons d ds ih =>
    rw [List.cons_append, argumentSymbols, ih, doneSymbols]
    · simp
    · simp

/-- An operand that begins adds its first symbol to what has been read. -/
theorem symbols_start {nesting : Nesting} {lead : Lead} {n : Option Negation} {x : Symbol}
    {s : Reading} (h : start nesting lead n x = .ok s) :
    s.symbols = nestingSymbols nesting ++ leadSymbols lead ++ negationSymbols n ++ [x] := by
  unfold start at h
  split at h
  · cases h
    simp [symbols, progressSymbols, Primary.symbols]
  · cases h
    simp [symbols, progressSymbols, Primary.symbols]
  · cases h
    simp [symbols, nestingSymbols, progressSymbols, leadSymbols]
  · cases h

/-- A parenthesis closes what is in it. -/
theorem symbols_of_close {e : Phrase} {nesting : Nesting} {s : Reading}
    (h : close e nesting = .ok s) :
    s.symbols = nestingSymbols nesting ++ e.symbols ++ [.closing] := by
  cases nesting with
  | single => cases h
  | list done => cases h
  | group lead n outer =>
    cases h
    simp [symbols, nestingSymbols, progressSymbols, Primary.symbols]
  | call lead n p done outer =>
    cases h
    simp [symbols, nestingSymbols, progressSymbols, Primary.symbols,
      argumentSymbols_append_singleton, propertySymbols]

/-- A comma ends an argument. -/
theorem symbols_separate {e : Phrase} {nesting : Nesting} {s : Reading}
    (h : separate e nesting = .ok s) :
    s.symbols = nestingSymbols nesting ++ e.symbols ++ [.separator] := by
  cases nesting with
  | single => cases h
  | group lead n outer => cases h
  | list done =>
    cases h
    simp [symbols, nestingSymbols, progressSymbols, leadSymbols, doneSymbols_append_singleton]
  | call lead n p done outer =>
    cases h
    simp [symbols, nestingSymbols, progressSymbols, leadSymbols, doneSymbols_append_singleton]

/-- Behind an operand, a symbol is added to what has been read, whichever may stand there. -/
theorem symbols_follow {nesting : Nesting} {lead : Lead} {n : Option Negation} {p : Primary}
    {x : Symbol} {s : Reading} (h : follow nesting lead n p x = .ok s) :
    s.symbols = nestingSymbols nesting ++ (lead.close n p).symbols ++ [x] := by
  cases x with
  | operator op =>
    cases h
    simp [symbols, progressSymbols, leadSymbols]
  | closing => exact symbols_of_close h
  | separator => exact symbols_separate h
  -- a parenthesis makes a call of a path
  | opening =>
    cases p with
    | path f =>
      cases h
      simp [symbols, nestingSymbols, progressSymbols, leadSymbols, symbols_close,
        Primary.symbols, doneSymbols]
    | literal | call | group => cases h
  -- a property belongs to a call that has none yet
  | property q =>
    cases p with
    | call f args property =>
      cases property with
      | none =>
        cases h
        simp [symbols, progressSymbols, symbols_close, Primary.symbols, propertySymbols]
      | some q' => cases h
    | literal | path | group => cases h
  | literal | path | negate => cases h

/-- Behind an operand, only what may follow it is read. -/
theorem step_complete (nesting : Nesting) (lead : Lead) (n : Option Negation) (p : Primary)
    (x : Symbol) :
    step ⟨nesting, .complete lead n p⟩ x = follow nesting lead n p x := by
  simp [step]

/-- A negation is read where an operand may begin. -/
theorem step_negate (nesting : Nesting) (lead : Lead) (n : Negation) :
    step ⟨nesting, .operand lead⟩ (.negate n) = .ok ⟨nesting, .primary lead n⟩ := by
  simp [step]

/-- Each symbol that is read is remembered. -/
theorem symbols_step {s s' : Reading} {x : Symbol} (h : s.step x = .ok s') :
    s'.symbols = s.symbols ++ [x] := by
  unfold step at h
  split at h
  · -- the parenthesis of a call without arguments
    cases h
    simp [symbols, nestingSymbols, progressSymbols, leadSymbols, doneSymbols, Primary.symbols,
      argumentSymbols, propertySymbols]
  · cases h
    simp [symbols, progressSymbols]
  · have hs := symbols_start (Except.mapError_eq_ok_iff.1 h)
    rw [hs]
    simp [symbols, progressSymbols, negationSymbols]
  · have hs := symbols_start (Except.mapError_eq_ok_iff.1 h)
    rw [hs]
    simp [symbols, progressSymbols, negationSymbols]
  · have hs := symbols_follow h
    rw [hs]
    simp [symbols, progressSymbols, symbols_close]

/-- What has been read is all that was there to read. -/
theorem symbols_reads {s s' : Reading} {xs : List Symbol} (h : s.reads xs = some s') :
    s'.symbols = s.symbols ++ xs := by
  induction xs generalizing s with
  | nil =>
    cases h
    simp
  | cons x xs ih =>
    rw [reads] at h
    cases hx : s.step x with
    | ok t =>
      rw [hx] at h
      rw [ih h, symbols_step hx]
      simp
    | error f =>
      rw [hx] at h
      cases h

/-! ## Reading a phrase -/

/-- Whether the state reads the start of an operand with the lead and the negation. -/
def Awaits (s : Reading) (nesting : Nesting) (lead : Lead) (n : Option Negation) : Prop :=
  ∀ x t, start nesting lead n x = .ok t → s.step x = .ok t

/-- Where an operand is expected, one may begin, negated or not. -/
theorem awaits_operand (nesting : Nesting) (lead : Lead) :
    Awaits ⟨nesting, .operand lead⟩ nesting lead none := by
  intro x t h
  cases x with
  | literal | path | opening =>
    simp only [step]
    exact Except.mapError_eq_ok_iff.2 h
  | property | operator | negate | closing | separator => cases h

/-- Behind a negation one begins that is not negated again. -/
theorem awaits_primary (nesting : Nesting) (lead : Lead) (n : Negation) :
    Awaits ⟨nesting, .primary lead n⟩ nesting lead (some n) := by
  intro x t h
  rw [step, h]
  rfl

/-- Behind the negation of an operand, if it has one, the operand itself is expected. -/
theorem exists_awaits (nesting : Nesting) (lead : Lead) (n : Option Negation) :
    ∃ s, Awaits s nesting lead n ∧
      ∀ xs, reads ⟨nesting, .operand lead⟩ (negationSymbols n ++ xs) = s.reads xs := by
  cases n with
  | none => exact ⟨_, awaits_operand nesting lead, fun _ => rfl⟩
  | some m =>
    refine ⟨_, awaits_primary nesting lead m, fun xs => ?_⟩
    exact reads_cons (step_negate nesting lead m) xs

end Reading

/-- What has been read when a phrase is complete. -/
def Phrase.progress : Phrase → Progress
  | .operand n p => .complete none n p
  | .join before op n p => .complete (some (before, op)) n p

/-- A complete phrase ends where its last operand does. -/
theorem Phrase.progress_eq (e : Phrase) :
    ∃ lead n p, e.progress = .complete lead n p ∧ Lead.close lead n p = e := by
  cases e with
  | operand n p => exact ⟨none, n, p, rfl, rfl⟩
  | join before op n p => exact ⟨some (before, op), n, p, rfl, rfl⟩

open Reading in
mutual

/-- The symbols of a primary complete the operand that it is read for. -/
theorem Primary.reads_symbols : ∀ (p : Primary) {s : Reading} {nesting : Nesting} {lead : Lead}
    {n : Option Negation}, s.Awaits nesting lead n →
      s.reads p.symbols = some ⟨nesting, .complete lead n p⟩
  | .literal l, _, _, _, _, hs => by
    rw [Primary.symbols, reads_cons (hs (.literal l) _ rfl)]
    rfl
  | .path f, _, _, _, _, hs => by
    rw [Primary.symbols, reads_cons (hs (.path f) _ rfl)]
    rfl
  | .call f args property, _, nesting, lead, n, hs => by
    -- the arguments are read in a nesting of their own, from which the parenthesis leads back
    have hargs := reads_argumentSymbols args nesting lead n f [] (fun _ => rfl)
    rw [Primary.symbols, reads_cons (hs (.path f) _ rfl), reads_cons (step_complete ..),
      List.append_cons, reads_append, hargs]
    cases property with
    | none => rfl
    | some q => exact reads_cons (step_complete ..) []
  | .group body, _, nesting, lead, n, hs => by
    obtain ⟨lead', n', p', hp, hc⟩ := body.progress_eq
    rw [Primary.symbols, reads_cons (hs .opening _ rfl), reads_append, body.reads_symbols, hp,
      Option.bind_some, reads_cons (step_complete ..), hc]
    rfl

/-- The symbols of a phrase lead from where an operand is expected to where the phrase is
complete. -/
theorem Phrase.reads_symbols : ∀ (e : Phrase) (nesting : Nesting),
    reads ⟨nesting, .operand none⟩ e.symbols = some ⟨nesting, e.progress⟩
  | .operand n p, nesting => by
    obtain ⟨s, hs, hr⟩ := exists_awaits nesting none n
    rw [Phrase.symbols, hr]
    exact p.reads_symbols hs
  | .join before op n p, nesting => by
    obtain ⟨lead', n', p', hp, hc⟩ := before.progress_eq
    obtain ⟨s, hs, hr⟩ := exists_awaits nesting (some (before, op)) n
    rw [Phrase.symbols, reads_append, before.reads_symbols, hp, Option.bind_some,
      reads_cons (step_complete ..), hc, hr]
    exact p.reads_symbols hs

/-- The symbols of arguments, behind those that are complete, lead from inside the call to
behind it. -/
theorem reads_argumentSymbols : ∀ (args : List Phrase) (nesting : Nesting) (lead : Lead)
    (n : Option Negation) (f : String) (done : List Phrase), (args = [] → done = []) →
      reads ⟨.call lead n f done nesting, .operand none⟩ (argumentSymbols args ++ [.closing]) =
        some ⟨nesting, .complete lead n (.call f (done ++ args) none)⟩
  | [], _, _, _, _, _, h => by
    rw [h rfl]
    rfl
  | [e], nesting, lead, n, f, done, _ => by
    obtain ⟨lead', n', p', hp, hc⟩ := e.progress_eq
    rw [argumentSymbols, reads_append, e.reads_symbols, hp, Option.bind_some,
      reads_cons (step_complete ..), hc]
    rfl
  | e :: e' :: es, nesting, lead, n, f, done, _ => by
    obtain ⟨lead', n', p', hp, hc⟩ := e.progress_eq
    have ih := reads_argumentSymbols (e' :: es) nesting lead n f (done ++ [e]) (by simp)
    rw [argumentSymbols, List.append_assoc, reads_append, e.reads_symbols, hp, Option.bind_some,
      List.cons_append, reads_cons (step_complete ..), hc, ih]
    · simp
    · simp

end

/-! ## The phrase that a text spells -/

/-- The text is cut into these symbols, up to its end. -/
def Lexemes.Spell (text : String) (xs : List Symbol) : Prop :=
  (∃ offset, (ofChars text.toList).ending = .finish offset) ∧
    (ofChars text.toList).items.map (·.symbol) = xs

/-- Whether one expression is read, and no list. -/
def Nesting.isSingle : Nesting → Bool
  | .single => true
  | .list _ => false
  | .group _ _ outer | .call _ _ _ _ outer => outer.isSingle

namespace Reading

/-- Beginning an operand does not change what is being read, a list or one expression. -/
theorem isSingle_start {nesting : Nesting} {lead : Lead} {n : Option Negation} {x : Symbol}
    {s : Reading} (h : start nesting lead n x = .ok s) :
    s.nesting.isSingle = nesting.isSingle := by
  unfold start at h
  split at h
  · cases h; rfl
  · cases h; rfl
  · cases h; rfl
  · cases h

/-- Nor does what follows it. -/
theorem isSingle_follow {nesting : Nesting} {lead : Lead} {n : Option Negation} {p : Primary}
    {x : Symbol} {s : Reading} (h : follow nesting lead n p x = .ok s) :
    s.nesting.isSingle = nesting.isSingle := by
  unfold follow at h
  split at h
  · cases h; rfl
  · cases nesting <;> cases h <;> rfl
  · cases nesting <;> cases h <;> rfl
  · split at h
    · cases h; rfl
    · cases h
  · split at h
    · cases h; rfl
    · cases h
  · cases h

/-- Reading never turns one expression into a list of them, or a list into one. -/
theorem isSingle_step {s s' : Reading} {x : Symbol} (h : s.step x = .ok s') :
    s'.nesting.isSingle = s.nesting.isSingle := by
  unfold step at h
  split at h
  · cases h; rfl
  · cases h; rfl
  · exact isSingle_start (Except.mapError_eq_ok_iff.1 h)
  · exact isSingle_start (Except.mapError_eq_ok_iff.1 h)
  · exact isSingle_follow h

/-- Nor do any symbols. -/
theorem isSingle_reads {s s' : Reading} {xs : List Symbol} (h : s.reads xs = some s') :
    s'.nesting.isSingle = s.nesting.isSingle := by
  induction xs generalizing s with
  | nil =>
    cases h
    rfl
  | cons x xs ih =>
    rw [reads] at h
    cases hx : s.step x with
    | ok t =>
      rw [hx] at h
      rw [ih h, isSingle_step hx]
    | error f =>
      rw [hx] at h
      cases h

/-- The reading of one expression finishes behind the symbols of the phrase it gives. -/
theorem symbols_finish {s : Reading} {done : List Phrase} {e : Phrase}
    (hs : s.nesting.isSingle = true) (h : s.finish = .ok (done, e)) :
    s.symbols = e.symbols := by
  obtain ⟨nesting, progress⟩ := s
  cases progress with
  | operand lead => cases h
  | primary lead n => cases h
  | complete lead n p =>
    cases nesting with
    | single =>
      cases h
      simp [symbols, nestingSymbols, progressSymbols, symbols_close]
    | list done => cases hs
    | group => cases h
    | call => cases h

theorem finish_progress (e : Phrase) : finish ⟨.single, e.progress⟩ = .ok ([], e) := by
  obtain ⟨lead, n, p, hp, hc⟩ := e.progress_eq
  rw [hp, finish, hc]

end Reading

/-- A text parses to the phrase that its lexemes spell. -/
theorem Phrase.parse_eq_ok_iff (text : String) (e : Phrase) :
    Phrase.parse text = .ok e ↔ Lexemes.Spell text e.symbols := by
  rw [Phrase.parse, Except.map_eq_ok_iff]
  constructor
  · rintro ⟨⟨done, e'⟩, h, rfl⟩
    obtain ⟨s, offset, hreads, hend, hfinish⟩ := Reading.runAll_eq_ok_iff.1 h
    -- what was read is remembered by the state, and finishing gives it away
    have hsymbols : s.symbols = _ := Reading.symbols_reads hreads
    have hsingle : s.nesting.isSingle = true := Reading.isSingle_reads hreads
    refine ⟨⟨offset, hend⟩, ?_⟩
    rw [← Reading.symbols_finish hsingle hfinish, hsymbols]
    rfl
  · rintro ⟨⟨offset, hend⟩, hsymbols⟩
    refine ⟨([], e), ?_, rfl⟩
    rw [Reading.runAll_eq_ok_iff, hsymbols]
    exact ⟨⟨.single, e.progress⟩, offset, e.reads_symbols .single, hend,
      Reading.finish_progress e⟩

/-- No two phrases are spelled alike. -/
theorem Phrase.symbols_injective {e e' : Phrase} (h : e.symbols = e'.symbols) : e = e' := by
  have hr : Reading.reads .single e.symbols = some ⟨.single, e.progress⟩ := e.reads_symbols .single
  have hr' : Reading.reads .single e'.symbols = some ⟨.single, e'.progress⟩ :=
    e'.reads_symbols .single
  rw [h, hr'] at hr
  have hp : e'.progress = e.progress := congrArg Reading.progress (Option.some.inj hr)
  have hf := Reading.finish_progress e
  rw [← hp, Reading.finish_progress] at hf
  cases hf
  rfl

theorem Tree.eq_of_symbols_eq {t t' : Tree} (ht : Tree.Ordered t) (ht' : Tree.Ordered t')
    (h : Tree.symbols t = Tree.symbols t') : t = t' := by
  rw [← Tree.symbols_phrase t ht, ← Tree.symbols_phrase t' ht'] at h
  rw [← tree_phrase t ht, ← tree_phrase t' ht', Phrase.symbols_injective h]

/-! ## Signs and properties -/

/-- A sign before a digit belongs to the number where an operand is expected, and is an operator
elsewhere. -/
theorem Symbol.read?_sign (operand : Bool) {c d : Char} (hc : c = '+' ∨ c = '-')
    (hd : d.isDigit = true) (cs : List Char) :
    ∃ x spelling rest, Symbol.read? operand c (d :: cs) = .ok (x, spelling, rest) ∧
      x = if operand then .literal (.number (takeNumeral (c == '-') (d :: cs)).1)
        else .operator (if c = '+' then .add else .sub) := by
  have hs : signs operand c (d :: cs) = operand := by
    rcases hc with rfl | rfl <;> simp [signs, hd]
  cases operand with
  | true =>
    have hparen : c ≠ '(' ∧ c ≠ ')' ∧ c ≠ ',' := by
      rcases hc with rfl | rfl <;> decide
    rw [read?, if_neg hparen.1, if_neg hparen.2.1, if_neg hparen.2.2, if_pos hs]
    exact ⟨_, _, _, rfl, rfl⟩
  | false =>
    rcases hc with rfl | rfl
    · exact ⟨.operator .add, _, _, rfl, rfl⟩
    · exact ⟨.operator .sub, _, _, rfl, rfl⟩

/-- In front of a digit, a sign is part of the number where an operand is expected and an
operator elsewhere. -/
theorem Lexemes.scan_sign (previous : Option Symbol) (offset : Nat) {c d : Char}
    (hc : c = '+' ∨ c = '-') (hd : d.isDigit = true) (cs : List Char) :
    ∃ x xs, (scan previous offset (c :: d :: cs)).items = x :: xs ∧
      x.symbol = if Symbol.expectsOperand previous
        then .literal (.number (Symbol.takeNumeral (c == '-') (d :: cs)).1)
        else .operator (if c = '+' then .add else .sub) := by
  have hp : Symbol.property? previous (c :: d :: cs) = none := by
    unfold Symbol.property?
    split
    · rcases hc with rfl | rfl <;> rfl
    · rfl
  have ht : Text.trimStart (c :: d :: cs) = c :: d :: cs := by
    rcases hc with rfl | rfl <;> rfl
  obtain ⟨x, spelling, rest, hr, hx⟩ :=
    Symbol.read?_sign (Symbol.expectsOperand previous) hc hd cs
  -- no property and no blanks: the scan reads a symbol here
  unfold scan
  split
  · next h =>
    rw [hp] at h
    cases h
  split
  · next h =>
    rw [ht] at h
    cases h
  · next c' body h =>
    rw [ht] at h
    cases h
    split
    · next h =>
      rw [hr] at h
      cases h
    · next h =>
      rw [hr] at h
      cases h
      exact ⟨_, _, rfl, hx⟩

/-- Among the symbols read behind blanks there is no property. -/
theorem Symbol.read?_ne_property {operand : Bool} {c : Char} {cs spelling rest : List Char}
    {p : String} : Symbol.read? operand c cs ≠ .ok (.property p, spelling, rest) := by
  intro h
  unfold read? at h
  split at h
  · cases h
  split at h
  · cases h
  split at h
  · cases h
  split at h
  · cases h
  split at h
  · cases h
  split at h
  · cases h
  split at h
  · cases h
  split at h
  · split at h
    · cases h
    · cases h
  split at h
  · next hw =>
    cases h
    obtain ⟨⟨taken, rest⟩, -, h⟩ := Option.map_eq_some_iff.1 hw
    -- a word is reserved or a path
    dsimp only at h
    split at h
    · cases h
    · cases h
  · cases h

/-- A property stands immediately behind a closing parenthesis. -/
theorem Lexemes.scan_property {previous : Option Symbol} {offset : Nat} {cs : List Char}
    {x : Lexeme} {xs : List Lexeme} {p : String}
    (h : (scan previous offset cs).items = x :: xs) (hx : x.symbol = .property p) :
    previous = some .closing ∧ ∃ rest, cs = '.' :: (p.toList ++ rest) := by
  unfold scan at h
  -- a property comes of the first branch only, since no other symbol is one
  split at h
  · next taken rest hp =>
    cases h
    cases hx
    refine ⟨?_, rest, ?_⟩
    · unfold Symbol.property? at hp
      split at hp
      · rfl
      · cases hp
    · rw [String.toList_ofList]
      exact (Symbol.property?_append hp).symm
  · split at h
    · cases h
    · split at h
      · cases h
      · next hr =>
        cases h
        cases hx
        exact absurd hr Symbol.read?_ne_property

/-! ## Parsing -/

/-- A text parses exactly when it is cut into a sentence of the grammar. What it parses to is
the postorder of the only ordered tree that is spelled so, without parentheses or separators at
any depth. In cutting the text, a sign goes with the digit behind it only where an operand is
expected, and a property stands immediately behind a parenthesis. -/
theorem Postfix.parse_is_postorder (text : String) :
    ((∃ tokens, Postfix.parse text = .ok tokens) ↔
      ∃ xs, Lexemes.Spell text xs ∧ IsExpression xs) ∧
    (∀ tokens, Postfix.parse text = .ok tokens →
      ∃ xs t, Lexemes.Spell text xs ∧ Tree.Ordered t ∧ Tree.symbols t = xs ∧
        (∀ t', Tree.Ordered t' → Tree.symbols t' = xs → t' = t) ∧
        tokens = Tree.postorder t ∧ TokensPlain tokens) ∧
    (∀ previous offset c d cs, c = '+' ∨ c = '-' → d.isDigit = true →
      ∃ x xs, (Lexemes.scan previous offset (c :: d :: cs)).items = x :: xs ∧
        x.symbol = if Symbol.expectsOperand previous
          then .literal (.number (Symbol.takeNumeral (c == '-') (d :: cs)).1)
          else .operator (if c = '+' then .add else .sub)) ∧
    (∀ previous offset cs x xs p, (Lexemes.scan previous offset cs).items = x :: xs →
      x.symbol = .property p →
        previous = some .closing ∧ ∃ rest, cs = '.' :: (p.toList ++ rest)) := by
  have hparse : ∀ tokens, Postfix.parse text = .ok tokens ↔
      ∃ e : Phrase, Lexemes.Spell text e.symbols ∧ Tree.postorder e.tree = tokens := by
    intro tokens
    unfold Postfix.parse
    rw [Except.map_eq_ok_iff]
    constructor
    · rintro ⟨e, he, rfl⟩
      exact ⟨e, (Phrase.parse_eq_ok_iff text e).1 he, e.postorder_tree⟩
    · rintro ⟨e, he, rfl⟩
      exact ⟨e, (Phrase.parse_eq_ok_iff text e).2 he, e.postorder_tree.symm⟩
  refine ⟨?_, ?_, ?_, ?_⟩
  · constructor
    · rintro ⟨tokens, h⟩
      obtain ⟨e, he, -⟩ := (hparse tokens).1 h
      exact ⟨e.symbols, he, e.isExpression_symbols⟩
    · -- what the grammar derives is spelled by a phrase, which is what the parser finds
      rintro ⟨xs, hxs, h⟩
      obtain ⟨e, rfl⟩ := h.exists_phrase
      exact ⟨_, (hparse _).2 ⟨e, hxs, rfl⟩⟩
  · intro tokens h
    obtain ⟨e, he, rfl⟩ := (hparse tokens).1 h
    refine ⟨e.symbols, e.tree, he, e.ordered_tree, e.symbols_tree, ?_, rfl, e.tree.plain_postorder⟩
    intro t ht hs
    exact Tree.eq_of_symbols_eq ht e.ordered_tree (hs.trans e.symbols_tree.symm)
  · intro previous offset c d cs hc hd
    exact Lexemes.scan_sign previous offset hc hd cs
  · intro previous offset cs x xs p h hx
    exact Lexemes.scan_property h hx

end Stencil.Expr
