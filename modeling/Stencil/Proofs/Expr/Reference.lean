import Stencil.Proofs.Expr.Arguments

/-!
# Stencil.Proofs.Expr.Reference — the names in an expression

Every reference that is read is a path and no reserved word, and every property is a dotted name
with no mark in front (`Lexemes.named_scan`). Grouping and postfix order keep the names that are
written, so those in an expression that parses are of these forms at any depth of its calls
(`Postfix.named_of_parse`). Such a path alone is the expression that refers to it
(`Postfix.parse_eq_path_iff`).
-/

namespace Stencil.Expr

/-- The text is a path, and no reserved word. -/
def IsReference (p : String) : Prop := Path.isValid p = true ∧ p ∉ Reserved.all.map Reserved.word

/-- The text is a path with no mark in front. -/
structure IsProperty (p : String) : Prop where
  isValid : Path.isValid p = true
  no_tilde : '~' ∉ p.toList
  no_dot : p.toList.head? ≠ some '.'

/-- The name in a symbol is one that may stand there. -/
def Symbol.Named : Symbol → Prop
  | path p => IsReference p
  | property p => IsProperty p
  | _ => True

/-! ## What is read -/

/-- A word is reserved if it is one of those listed. -/
theorem Reserved.ofWord?_eq_none_iff (s : String) :
    ofWord? s = none ↔ s ∉ all.map word := by
  unfold ofWord?
  rw [List.find?_eq_none, List.mem_map]
  simp only [decide_eq_true_eq, not_exists, not_and]

namespace Name

/-- A dotted name is made of characters of names, and dots. -/
theorem isBody_or_dot_of_mem_takeDotted (cs : List Char) :
    ∀ c ∈ (takeDotted cs).1, isBody c = true ∨ c = '.' := by
  induction cs with
  | nil =>
    intro c hc
    cases hc
  | cons d cs ih =>
    rw [takeDotted]
    split
    · next hd =>
      rw [Bool.or_eq_true, Bool.and_eq_true, beq_iff_eq] at hd
      exact List.forall_mem_cons.2 ⟨hd.imp_right And.left, ih⟩
    · intro c hc
      cases hc

/-- A dotted name is the name of a property. -/
theorem isProperty_takeDotted {cs : List Char} (h : startsIdent cs = true) :
    IsProperty (String.ofList (takeDotted cs).1) := by
  constructor
  · rw [Path.isValid_iff_matches, String.toList_ofList]
    exact Language.mem_mul.2 ⟨[], .inl rfl, _, takeDotted_mem h, rfl⟩
  · rw [String.toList_ofList]
    intro hmem
    rcases isBody_or_dot_of_mem_takeDotted cs _ hmem with hbody | hdot
    · cases hbody
    · cases hdot
  · rw [String.toList_ofList]
    intro hhead
    have hstarts := Symbol.startsIdent_takeDotted h
    cases htaken : (takeDotted cs).1 with
    | nil =>
      rw [htaken] at hhead
      cases hhead
    | cons c taken =>
      rw [htaken] at hhead hstarts
      cases hhead
      cases hstarts

end Name

namespace Symbol

/-- A path that is read is named like one, and is no reserved word. -/
theorem named_of_word? {cs spelling rest : List Char} {x : Symbol}
    (h : word? cs = some (x, spelling, rest)) : x.Named := by
  obtain ⟨hpath, rfl⟩ := word?_eq_some_iff.1 h
  unfold ofWord
  split
  · trivial
  · next hnone =>
    refine ⟨?_, (Reserved.ofWord?_eq_none_iff _).1 hnone⟩
    rw [Path.isValid_iff_matches, String.toList_ofList]
    exact Name.takePath?_mem hpath

/-- Every symbol that is read is named as it should be. -/
theorem named_of_read? {operand : Bool} {c : Char} {cs spelling rest : List Char} {x : Symbol}
    (h : read? operand c cs = .ok (x, spelling, rest)) : x.Named := by
  cases x with
  | path p => exact named_of_word? ((of_read? h).2 rfl)
  | property p => exact absurd h read?_ne_property
  | literal | operator | negate | opening | closing | separator => trivial

theorem named_of_property? {previous : Option Symbol} {cs taken rest : List Char}
    (h : property? previous cs = some (taken, rest)) : IsProperty (String.ofList taken) := by
  obtain ⟨body, -, hstarts, hdotted⟩ := exists_of_takeProperty? (of_property? h).2
  have hname := Name.isProperty_takeDotted hstarts
  rwa [hdotted] at hname

end Symbol

/-- The names in the lexemes of a text may stand where they do. -/
theorem Lexemes.named_scan (previous : Option Symbol) (offset : Nat) (cs : List Char) :
    ∀ x ∈ (scan previous offset cs).items, x.symbol.Named := by
  fun_induction scan previous offset cs with
  | case1 previous offset cs taken rest hproperty x after ih =>
    exact List.forall_mem_cons.2 ⟨Symbol.named_of_property? hproperty, ih⟩
  | case2 =>
    intro x hx
    cases hx
  | case3 =>
    intro x hx
    cases hx
  | case4 previous offset cs _ start c body _ x spelling rest hread after ih =>
    exact List.forall_mem_cons.2 ⟨Symbol.named_of_read? hread, ih⟩

/-! ## What is parsed -/

mutual

/-- Whether the names in a token, at any depth of its arguments, may stand there. -/
def Token.Named : Token → Prop
  | .path p => IsReference p
  | .call p args property =>
    IsReference p ∧ ArgumentsNamed args ∧ ∀ q, property = some q → IsProperty q
  | .literal _ | .operator _ | .negate _ | .opening | .closing | .separator => True

/-- Whether the names in a sequence may stand there. -/
def TokensNamed : List Token → Prop
  | [] => True
  | t :: ts => t.Named ∧ TokensNamed ts

/-- Whether the names in each sequence of a list may stand there. -/
def ArgumentsNamed : List (List Token) → Prop
  | [] => True
  | e :: es => TokensNamed e ∧ ArgumentsNamed es

end

/-- Tokens in a row are named if each of them is. -/
theorem tokensNamed_append {e f : Postfix} (he : TokensNamed e) (hf : TokensNamed f) :
    TokensNamed (e ++ f) := by
  induction e with
  | nil => exact hf
  | cons t ts ih => exact ⟨he.1, ih he.2⟩

/-- Whether all symbols of a list have names that may stand there. -/
def SymbolsNamed (xs : List Symbol) : Prop := ∀ x ∈ xs, x.Named

theorem symbolsNamed_append_iff {xs ys : List Symbol} :
    SymbolsNamed (xs ++ ys) ↔ SymbolsNamed xs ∧ SymbolsNamed ys :=
  List.forall_mem_append

theorem symbolsNamed_cons_iff {x : Symbol} {xs : List Symbol} :
    SymbolsNamed (x :: xs) ↔ x.Named ∧ SymbolsNamed xs :=
  List.forall_mem_cons

mutual

/-- Tokens are named like the symbols they come from. -/
theorem Term.named_postorder : ∀ a : Term, SymbolsNamed a.symbols → TokensNamed a.postorder
  | .literal _, _ => ⟨trivial, trivial⟩
  | .path p, h => ⟨h (.path p) List.mem_cons_self, trivial⟩
  | .call p args property, h => by
    -- the symbols of a call are its path, a parenthesis, the arguments, another one, and the
    -- property
    rw [Term.symbols, symbolsNamed_cons_iff, symbolsNamed_cons_iff, symbolsNamed_append_iff,
      symbolsNamed_cons_iff] at h
    obtain ⟨hp, -, hargs, -, hproperty⟩ := h
    refine ⟨⟨hp, named_listPostorder args hargs, ?_⟩, trivial⟩
    rintro q rfl
    exact hproperty (.property q) List.mem_cons_self
  | .group body, h => by
    rw [Term.symbols, symbolsNamed_cons_iff, symbolsNamed_append_iff] at h
    exact Tree.named_postorder body h.2.1

/-- So are those of operands, since a negation has no name. -/
theorem named_operandPostorder : ∀ a : Option Negation × Term, SymbolsNamed (operandSymbols a) →
    TokensNamed (operandPostorder a)
  | (none, a), h => a.named_postorder h
  | (some n, a), h => by
    rw [operandSymbols, symbolsNamed_append_iff] at h
    have ha := a.named_postorder h.2
    rw [operandPostorder]
    split
    · exact ⟨trivial, trivial⟩
    · exact tokensNamed_append ha ⟨trivial, trivial⟩

/-- The names in a postorder are those that the symbols of the tree have. -/
theorem Tree.named_postorder : ∀ t : Tree, SymbolsNamed (Tree.symbols t) →
    TokensNamed (Tree.postorder t)
  | .operand a, h => named_operandPostorder a h
  | .node op l r, h => by
    rw [Tree.symbols, symbolsNamed_append_iff, symbolsNamed_cons_iff] at h
    have hl := Tree.named_postorder l h.1
    have hr := Tree.named_postorder r h.2.2
    rw [Tree.postorder]
    exact tokensNamed_append (tokensNamed_append hl hr) ⟨trivial, trivial⟩

theorem named_listPostorder : ∀ ts : List Tree, SymbolsNamed (listSymbols ts) →
    ArgumentsNamed (listPostorder ts)
  | [], _ => trivial
  | [t], h => ⟨Tree.named_postorder t h, trivial⟩
  | t :: t' :: ts, h => by
    rw [listSymbols, symbolsNamed_append_iff, symbolsNamed_cons_iff] at h
    · exact ⟨Tree.named_postorder t h.1, named_listPostorder (t' :: ts) h.2.2⟩
    · simp

end

/-- The symbols of a text are named. -/
theorem Lexemes.Spell.named {text : String} {xs : List Symbol} (h : Spell text xs) :
    SymbolsNamed xs := by
  obtain ⟨-, rfl⟩ := h
  intro x hx
  obtain ⟨y, hy, rfl⟩ := List.mem_map.1 hx
  exact named_scan none 0 text.toList y hy

/-- The names in an expression that parses may stand where they do. -/
theorem Postfix.named_of_parse {text : String} {e : Postfix} (h : Postfix.parse text = .ok e) :
    TokensNamed e := by
  obtain ⟨p, hp, rfl⟩ := Except.map_eq_ok_iff.1 h
  have hnamed := ((Phrase.parse_eq_ok_iff text p).1 hp).named
  rw [← p.symbols_tree] at hnamed
  rw [← p.postorder_tree]
  exact Tree.named_postorder p.tree hnamed

theorem Postfix.named_of_parseList {text : String} {es : List Postfix}
    (h : Postfix.parseList text = .ok es) : ArgumentsNamed es := by
  obtain ⟨ps, hps, rfl⟩ := Except.map_eq_ok_iff.1 h
  have hnamed := ((Phrase.parseList_eq_ok_iff text ps).1 hps).named
  rw [← symbols_argumentTrees] at hnamed
  rw [← argumentPostfix_eq_map, ← postorder_argumentTrees]
  exact named_listPostorder (argumentTrees ps) hnamed

/-! ## A path alone -/

/-- Only some characters can begin a path. -/
theorem Name.mem_wordChars_of_takePath? {c : Char} {cs : List Char} {cut : List Char × List Char}
    (h : takePath? (c :: cs) = some cut) : c ∈ Symbol.wordChars := by
  unfold Symbol.wordChars
  rw [List.mem_cons, List.mem_cons, ← isHead_iff_mem]
  by_cases htilde : c = '~'
  · exact .inl htilde
  by_cases hdot : c = '.'
  · exact .inr (.inl hdot)
  have hdot : (c == '.') = false := beq_eq_false_iff_ne.2 hdot
  have hanchor : takeAnchor (c :: cs) = ([], c :: cs) := by
    unfold takeAnchor
    split
    · next heq => exact absurd (List.cons.inj heq).1 htilde
    · rw [List.takeWhile_cons, List.dropWhile_cons, hdot]
      rfl
  simp only [takePath?, hanchor] at h
  split at h
  · next hstarts => exact .inr (.inr hstarts)
  · cases h

/-- A path that is no reserved word is the only lexeme of its text. -/
theorem Lexemes.spell_of_isReference {p : String} (h : IsReference p) : Spell p [.path p] := by
  obtain ⟨hvalid, hreserved⟩ := h
  have hpath : Name.takePath? p.toList = some (p.toList, []) :=
    Name.takePath?_of_mem ((Path.isValid_iff_matches p).1 hvalid)
  have hword : Symbol.word? p.toList = some (.path p, p.toList, []) := by
    refine Symbol.word?_eq_some_iff.2 ⟨hpath, ?_⟩
    rw [Symbol.ofWord, String.ofList_toList, (Reserved.ofWord?_eq_none_iff p).2 hreserved]
  unfold Spell ofChars
  -- a reference is not empty, and its first character is one that a word may begin with
  cases hchars : p.toList with
  | nil =>
    rw [hchars] at hpath
    cases hpath
  | cons c cs =>
    rw [hchars] at hpath hword
    have hc : c ∈ Symbol.wordChars := Name.mem_wordChars_of_takePath? hpath
    have hblank : ∀ d ∈ Symbol.wordChars, (!Text.isBlank d) = true :=
      List.all_eq_true.1 (by decide)
    have hc' : Text.isBlank c = false := by simpa using hblank c hc
    have hread := (Symbol.read?_eq_ok_iff_of_mem_wordChars true hc cs _).2 hword
    have hscan := scan_cons none rfl hc' hread 0
    rw [scan_nil rfl] at hscan
    rw [hscan]
    exact ⟨⟨_, rfl⟩, rfl⟩

/-- The texts that parse to the reference to themselves are the paths but for reserved words. -/
theorem Postfix.parse_eq_path_iff (p : String) :
    Postfix.parse p = .ok [.path p] ↔ IsReference p := by
  constructor
  · intro h
    exact (Postfix.named_of_parse h).1
  · intro h
    have hparse : Phrase.parse p = .ok (.operand none (.path p)) :=
      (Phrase.parse_eq_ok_iff p _).2 (Lexemes.spell_of_isReference h)
    rw [Postfix.parse, hparse]
    rfl

end Stencil.Expr
