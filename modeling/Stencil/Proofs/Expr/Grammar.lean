import Stencil.Expr.Phrase

/-!
# Stencil.Proofs.Expr.Grammar — the sentences of the expression grammar

The grammar over symbols, one predicate a rule:

* expression = operand | expression operator operand
* operand = primary | negation primary
* primary = literal | path | path `(` arguments `)` property? | `(` expression `)`
* arguments = nothing | a list of expressions with separators between them

A list of symbols is a sentence just when a phrase is spelled so
(`isExpression_iff_exists_phrase`).
-/

namespace Stencil.Expr

mutual

/-- The symbols are an expression. -/
inductive IsExpression : List Symbol → Prop
  | operand {xs} : IsOperand xs → IsExpression xs
  | join {xs ys} (op : Operator) : IsExpression xs → IsOperand ys →
      IsExpression (xs ++ .operator op :: ys)

/-- The symbols are a primary, with a negation or without. -/
inductive IsOperand : List Symbol → Prop
  | primary {xs} : IsPrimary xs → IsOperand xs
  | negation {xs} (n : Negation) : IsPrimary xs → IsOperand (.negate n :: xs)

/-- The symbols are a primary. -/
inductive IsPrimary : List Symbol → Prop
  | literal (l : Literal) : IsPrimary [.literal l]
  | path (p : String) : IsPrimary [.path p]
  | call {xs} (p : String) : IsArguments xs →
      IsPrimary (.path p :: .opening :: (xs ++ [.closing]))
  | property {xs} (p q : String) : IsArguments xs →
      IsPrimary (.path p :: .opening :: (xs ++ [.closing, .property q]))
  | group {xs} : IsExpression xs → IsPrimary (.opening :: (xs ++ [.closing]))

/-- The symbols are what may stand between the parentheses of a call. -/
inductive IsArguments : List Symbol → Prop
  | none : IsArguments []
  | some {xs} : IsSeparated xs → IsArguments xs

/-- The symbols are one expression, or several with separators between them. -/
inductive IsSeparated : List Symbol → Prop
  | last {xs} : IsExpression xs → IsSeparated xs
  | more {xs ys} : IsExpression xs → IsSeparated ys → IsSeparated (xs ++ .separator :: ys)

end

/-! ## Phrases spell sentences -/

theorem IsArguments.of_separated {es : List Phrase}
    (h : es ≠ [] → IsSeparated (argumentSymbols es)) : IsArguments (argumentSymbols es) := by
  cases es with
  | nil => exact .none
  | cons e es => exact .some (h (List.cons_ne_nil e es))

mutual

/-- The symbols of an operand are one by the grammar. -/
theorem Primary.isPrimary_symbols : ∀ p : Primary, IsPrimary p.symbols
  | .literal l => .literal l
  | .path p => .path p
  | .call p args none => .call p (.of_separated (isSeparated_argumentSymbols args))
  | .call p args (some q) => .property p q (.of_separated (isSeparated_argumentSymbols args))
  | .group body => .group body.isExpression_symbols

/-- What a phrase spells is an expression. -/
theorem Phrase.isExpression_symbols : ∀ e : Phrase, IsExpression e.symbols
  | .operand none p => .operand (.primary p.isPrimary_symbols)
  | .operand (some n) p => .operand (.negation n p.isPrimary_symbols)
  | .join before op none p =>
    .join op before.isExpression_symbols (.primary p.isPrimary_symbols)
  | .join before op (some n) p =>
    .join op before.isExpression_symbols (.negation n p.isPrimary_symbols)

/-- So are those of arguments, of which there is at least one. -/
theorem isSeparated_argumentSymbols : ∀ es : List Phrase,
    es ≠ [] → IsSeparated (argumentSymbols es)
  | [], h => absurd rfl h
  | [e], _ => .last e.isExpression_symbols
  | e :: e' :: es, _ =>
    .more e.isExpression_symbols (isSeparated_argumentSymbols (e' :: es) (List.cons_ne_nil e' es))

end

/-! ## Sentences are spelled by phrases -/

mutual

/-- What is an expression by the grammar is spelled by some phrase. -/
theorem IsExpression.exists_phrase {xs : List Symbol} :
    IsExpression xs → ∃ e : Phrase, e.symbols = xs
  | .operand h => by
    obtain ⟨n, p, rfl⟩ := h.exists_operand
    exact ⟨.operand n p, rfl⟩
  | .join op h₁ h₂ => by
    obtain ⟨before, rfl⟩ := h₁.exists_phrase
    obtain ⟨n, p, rfl⟩ := h₂.exists_operand
    exact ⟨.join before op n p, rfl⟩

/-- An operand is spelled by a negation, or none, and a primary. -/
theorem IsOperand.exists_operand {xs : List Symbol} :
    IsOperand xs → ∃ (n : Option Negation) (p : Primary), negationSymbols n ++ p.symbols = xs
  | .primary h => by
    obtain ⟨p, rfl⟩ := h.exists_primary
    exact ⟨none, p, rfl⟩
  | .negation n h => by
    obtain ⟨p, rfl⟩ := h.exists_primary
    exact ⟨some n, p, rfl⟩

/-- What is a primary by the grammar is spelled by one. -/
theorem IsPrimary.exists_primary {xs : List Symbol} :
    IsPrimary xs → ∃ p : Primary, p.symbols = xs
  | .literal l => ⟨.literal l, rfl⟩
  | .path p => ⟨.path p, rfl⟩
  | .call p h => by
    obtain ⟨args, rfl⟩ := h.exists_arguments
    exact ⟨.call p args none, rfl⟩
  | .property p q h => by
    obtain ⟨args, rfl⟩ := h.exists_arguments
    exact ⟨.call p args (some q), rfl⟩
  | .group h => by
    obtain ⟨body, rfl⟩ := h.exists_phrase
    exact ⟨.group body, rfl⟩

/-- What is in the parentheses of a call is spelled by a list of phrases. -/
theorem IsArguments.exists_arguments {xs : List Symbol} :
    IsArguments xs → ∃ es : List Phrase, argumentSymbols es = xs
  | .none => ⟨[], rfl⟩
  | .some h => by
    obtain ⟨e, es, rfl⟩ := h.exists_arguments
    exact ⟨e :: es, rfl⟩

/-- Expressions with commas between them are spelled by a list that is not empty. -/
theorem IsSeparated.exists_arguments {xs : List Symbol} :
    IsSeparated xs → ∃ (e : Phrase) (es : List Phrase), argumentSymbols (e :: es) = xs
  | .last h => by
    obtain ⟨e, rfl⟩ := h.exists_phrase
    exact ⟨e, [], rfl⟩
  | .more h₁ h₂ => by
    obtain ⟨e, rfl⟩ := h₁.exists_phrase
    obtain ⟨e', es, rfl⟩ := h₂.exists_arguments
    exact ⟨e, e' :: es, rfl⟩

end

/-- The phrases spell just what the grammar derives. -/
theorem isExpression_iff_exists_phrase (xs : List Symbol) :
    IsExpression xs ↔ ∃ e : Phrase, e.symbols = xs := by
  constructor
  · exact fun h => h.exists_phrase
  · rintro ⟨e, rfl⟩
    exact e.isExpression_symbols

end Stencil.Expr
