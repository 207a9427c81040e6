import Stencil.Proofs.Expr.Reference
import Stencil.Proofs.Segment.Parsed

/-!
# Stencil.Proofs.Segment.Reference — one grammar of paths

Paths are read by the lexer of expressions, checked in front of a colon, and told by a regular
expression. All of them mean the same texts (`Path.grammars_agree`), so what a template refers to
is a path wherever it stands.
-/

namespace Stencil

/-- Whether the names in the parts of a segment may stand there. -/
structure Segment.Named (s : Segment) : Prop where
  context : ∀ p, s.context = some p → Path.isValid p = true
  expression : ∀ e, s.expression = some e → Expr.TokensNamed e
  modifiers : ∀ m ∈ s.modifiers, Expr.ArgumentsNamed m.args

/-- The names in parts that are read from texts may stand there. -/
theorem Segment.Read.named {s : Segment} (h : s.Read) : s.Named := by
  refine ⟨h.context, fun e he => ?_, fun m hm => ?_⟩
  · obtain ⟨text, hparse⟩ := h.expression e he
    exact Expr.Postfix.named_of_parse hparse
  · obtain ⟨text, hparse⟩ := h.modifiers m hm
    exact Expr.Postfix.named_of_parseList hparse

/-- **All readers of paths mean the same.** The texts that are expressions referring to themselves
are the valid paths that are no reserved words, and a path is valid just when it matches the
regular expression. All references, at any depth of the calls in an expression, and all contexts
are valid paths, and so are properties, which have no mark in front. -/
theorem Path.grammars_agree :
    (∀ p, Expr.Postfix.parse p = .ok [.path p] ↔
      Path.isValid p = true ∧
        p ∉ ["true", "false", "null", "undefined", "NaN", "Infinity"]) ∧
    (∀ p, Path.isValid p = true ↔ p.toList ∈ Path.pattern.matches') ∧
    (∀ text e, Expr.Postfix.parse text = .ok e → Expr.TokensNamed e) ∧
    (∀ text es, Expr.Postfix.parseList text = .ok es → Expr.ArgumentsNamed es) ∧
    (∀ source segments, Segment.parse source = .ok segments → ∀ s ∈ segments, s.Named) := by
  refine ⟨?_, ?_, ?_, ?_, ?_⟩
  · intro p
    exact Expr.Postfix.parse_eq_path_iff p
  · intro p
    exact Path.isValid_iff_matches p
  · intro text e h
    exact Expr.Postfix.named_of_parse h
  · intro text es h
    exact Expr.Postfix.named_of_parseList h
  · intro source segments h s hs
    exact (Segment.read_of_parse h s hs).named

end Stencil
