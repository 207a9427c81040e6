import Stencil.Expr.Phrase

/-!
# Stencil.Proofs.Expr.Tree — the tree that a phrase stands for

A tree groups terms under operators; `Tree.Ordered` says that it does so as the levels of the
operators (`Operator.levels`) and left association demand, inside parentheses and arguments
too. A negation belongs to one term. `Tree.postorder` writes a tree in postfix order, where the
negation of a term that is a single literal is the truth value it has.

Phrases and ordered trees are the same thing (`tree_phrase`, `ordered_tree`): each phrase has
a tree with the symbols of the phrase (`symbols_tree`), whose postorder is the postfix form
of the phrase (`postorder_tree`), and each ordered tree is the tree of the phrase that spells
it.
-/

namespace Stencil.Expr

/-- What a negation may stand in front of. -/
inductive Term where
  | literal (l : Literal)
  | path (p : String)
  | call (p : String) (args : List (Grouping (Option Negation × Term))) (property : Option String)
  | group (body : Grouping (Option Negation × Term))

/-- Terms, each with its negation if it has one, grouped under operators. -/
abbrev Tree := Grouping (Option Negation × Term)

/-! ## Trees -/

mutual

/-- The symbols that spell a term. -/
def Term.symbols : Term → List Symbol
  | .literal l => [.literal l]
  | .path p => [.path p]
  | .call p args property =>
    .path p :: .opening :: (listSymbols args ++ .closing :: propertySymbols property)
  | .group body => .opening :: (Tree.symbols body ++ [.closing])
termination_by structural t => t

/-- The symbols that spell a term with its negation. -/
def operandSymbols : Option Negation × Term → List Symbol
  | (n, a) => negationSymbols n ++ a.symbols
termination_by structural t => t

/-- The symbols that spell a tree. -/
def Tree.symbols : Tree → List Symbol
  | .operand a => operandSymbols a
  | .node op l r => Tree.symbols l ++ .operator op :: Tree.symbols r
termination_by structural t => t

/-- The symbols that spell a list of trees, with separators between them. -/
def listSymbols : List Tree → List Symbol
  | [] => []
  | [t] => Tree.symbols t
  | t :: ts => Tree.symbols t ++ .separator :: listSymbols ts
termination_by structural t => t

end

/-! ## Levels -/

/-- The operators by how tightly they bind, the tightest first; those of one level associate to the
left. -/
def Operator.levels : List (List Operator) :=
  [[.pow, .mul, .div, .rem], [.add, .sub], [.eq, .ne, .lt, .le, .gt, .ge], [.and, .or]]

/-- The number of the level at which the operator stands, that of the tightest being zero. -/
def Operator.level (op : Operator) : Nat := levels.findIdx fun level => level.contains op

/-- Priorities count the levels from the loosest on. -/
theorem Operator.priority_add_level (op : Operator) : op.priority + op.level = levels.length := by
  cases op <;> rfl

/-- Binding more strongly and standing on a lower level are the same. -/
theorem Operator.priority_lt_iff {op op' : Operator} :
    op.priority < op'.priority ↔ op'.level < op.level := by
  have h := op.priority_add_level
  have h' := op'.priority_add_level
  omega

/-- Whether all operators of a tree, outside parentheses, stand at levels below `n`, if those of an
ordered tree do at its root: they bind tighter than what stands at level `n`. -/
def Grouping.Below {α : Type} (n : Nat) : Grouping α → Prop
  | operand _ => True
  | node op _ _ => op.level < n

/-- A tree stays below a level when an operator from below it is added. -/
theorem Grouping.Below.insert {α : Type} {n : Nat} {t : Grouping α} {op : Operator} {a : α}
    (ht : t.Below n) (hop : op.level < n) : (t.insert op a).Below n := by
  cases t with
  | operand b => exact hop
  | node top l r =>
    unfold Grouping.insert
    split
    · exact ht
    · exact hop

mutual

/-- Whether all trees in a term are ordered. -/
def Term.Ordered : Term → Prop
  | .literal _ | .path _ => True
  | .call _ args _ => ListOrdered args
  | .group body => Tree.Ordered body
termination_by structural t => t

/-- Whether all trees in an operand are ordered. -/
def OperandOrdered : Option Negation × Term → Prop
  | (_, a) => a.Ordered
termination_by structural t => t

/-- Whether the tree is the one that levels and left association demand: outside parentheses
nothing to the left of an operator binds looser than it, and everything to the right binds
tighter. -/
def Tree.Ordered : Tree → Prop
  | .operand a => OperandOrdered a
  | .node op l r =>
    l.Below (op.level + 1) ∧ r.Below op.level ∧ Tree.Ordered l ∧ Tree.Ordered r
termination_by structural t => t

/-- Whether each tree of a list is ordered. -/
def ListOrdered : List Tree → Prop
  | [] => True
  | t :: ts => Tree.Ordered t ∧ ListOrdered ts
termination_by structural t => t

end

/-- The truth value that the negation of a literal has: `!` denies that the literal is true, and
`!!` says whether it is. -/
def Negation.fold : Negation → Literal → Literal
  | not, l => .reserved (if l.truthy then .false else .true)
  | double, l => .reserved (if l.truthy then .true else .false)

/-- The truth value is the one that is put in the place of the literal. -/
theorem Negation.fold_eq (n : Negation) (l : Literal) :
    n.fold l = .reserved (.ofBool (n.apply l.truthy)) := by
  cases n <;> cases h : l.truthy <;> simp [fold, apply, Reserved.ofBool, h]

mutual

/-- The literal that a term is, when it is a single one but for parentheses. -/
def Term.literal? : Term → Option Literal
  | .literal l => some l
  | .group body => Tree.literal? body
  | .path _ | .call .. => none
termination_by structural t => t

/-- The literal that an operand is, a negated one being its truth value. -/
def operandLiteral? : Option Negation × Term → Option Literal
  | (none, a) => a.literal?
  | (some n, a) => a.literal?.map n.fold
termination_by structural t => t

/-- The literal that a tree is. -/
def Tree.literal? : Tree → Option Literal
  | .operand a => operandLiteral? a
  | .node .. => none
termination_by structural t => t

end

mutual

/-- A term in postfix order; parentheses leave no trace. -/
def Term.postorder : Term → Postfix
  | .literal l => [.literal l]
  | .path p => [.path p]
  | .call p args property => [.call p (listPostorder args) property]
  | .group body => Tree.postorder body
termination_by structural t => t

/-- An operand in postfix order. A negated literal is its truth value; any other negation stands
behind its term. -/
def operandPostorder : Option Negation × Term → Postfix
  | (none, a) => a.postorder
  | (some n, a) =>
    match a.literal? with
    | some l => [.literal (n.fold l)]
    | none => a.postorder ++ [.negate n]
termination_by structural t => t

/-- A tree in postfix order: both operands, then their operator. -/
def Tree.postorder : Tree → Postfix
  | .operand a => operandPostorder a
  | .node op l r => Tree.postorder l ++ Tree.postorder r ++ [.operator op]
termination_by structural t => t

/-- The postfix form of each argument. -/
def listPostorder : List Tree → List Postfix
  | [] => []
  | t :: ts => Tree.postorder t :: listPostorder ts
termination_by structural t => t

end

/-! ## Literals in postfix order -/

mutual

/-- A term is a single literal just when its postorder is. -/
theorem Term.postorder_eq_literal_iff (l : Literal) :
    ∀ a : Term, a.postorder = [.literal l] ↔ a.literal? = some l
  | .literal m => by simp [Term.postorder, Term.literal?]
  | .path p => by simp [Term.postorder, Term.literal?]
  | .call p args property => by simp [Term.postorder, Term.literal?]
  | .group body => by
    rw [Term.postorder, Term.literal?]
    exact Tree.postorder_eq_literal_iff l body

/-- An operand is a literal in postfix order if it is one, the negated literals included. -/
theorem operandPostorder_eq_literal_iff (l : Literal) :
    ∀ a : Option Negation × Term, operandPostorder a = [.literal l] ↔ operandLiteral? a = some l
  | (none, a) => by
    rw [operandPostorder, operandLiteral?]
    exact Term.postorder_eq_literal_iff l a
  | (some n, a) => by
    rw [operandPostorder, operandLiteral?]
    cases h : a.literal? with
    | some m => simp
    | none =>
      -- a negation stands last, so this is no single literal
      simp [List.append_eq_singleton_iff]

theorem Tree.postorder_eq_literal_iff (l : Literal) :
    ∀ t : Tree, Tree.postorder t = [.literal l] ↔ Tree.literal? t = some l
  | .operand a => by
    rw [Tree.postorder, Tree.literal?]
    exact operandPostorder_eq_literal_iff l a
  | .node op t u => by
    simp [Tree.postorder, Tree.literal?, List.append_eq_singleton_iff]

end

/-- Putting a negation onto a postfix form looks for a single literal as the tree does. -/
theorem operandPostorder_eq_negated (n : Option Negation) (a : Term) :
    operandPostorder (n, a) = negated n a.postorder := by
  cases n with
  | none => rw [operandPostorder, negated]
  | some n =>
    rw [operandPostorder, negated]
    cases h : a.literal? with
    | some l =>
      rw [(Term.postorder_eq_literal_iff l a).2 h, Negation.onto, ← n.fold_eq]
    | none =>
      symm
      unfold Negation.onto
      split
      · next l hl =>
        rw [(Term.postorder_eq_literal_iff l a).1 hl] at h
        cases h
      · rfl

/-! ## The tree of a phrase -/

mutual

/-- The term that a primary stands for. -/
def Primary.term : Primary → Term
  | .literal l => .literal l
  | .path p => .path p
  | .call p args property => .call p (argumentTrees args) property
  | .group body => .group body.tree

/-- The tree that a phrase stands for. -/
def Phrase.tree : Phrase → Tree
  | .operand n p => .operand (n, p.term)
  | .join before op n p => before.tree.insert op (n, p.term)

/-- The tree of each argument. -/
def argumentTrees : List Phrase → List Tree
  | [] => []
  | e :: es => e.tree :: argumentTrees es

end

/-- An operand that is inserted is spelled behind all that was there. -/
theorem symbols_insert (t : Tree) (op : Operator) (a : Option Negation × Term) :
    Tree.symbols (t.insert op a) = Tree.symbols t ++ .operator op :: operandSymbols a := by
  induction t with
  | operand b => simp [Grouping.insert, Tree.symbols]
  | node top l r _ ihr =>
    unfold Grouping.insert
    split
    · simp [Tree.symbols, ihr]
    · simp [Tree.symbols]

mutual

/-- An operand is spelled as its tree is. -/
theorem Primary.symbols_term : ∀ p : Primary, p.term.symbols = p.symbols
  | .literal l => by simp [Primary.term, Term.symbols, Primary.symbols]
  | .path p => by simp [Primary.term, Term.symbols, Primary.symbols]
  | .call p args property => by
    simp [Primary.term, Term.symbols, Primary.symbols, symbols_argumentTrees args]
  | .group body => by simp [Primary.term, Term.symbols, Primary.symbols, body.symbols_tree]

/-- The tree of a phrase is spelled as the phrase is. -/
theorem Phrase.symbols_tree : ∀ e : Phrase, Tree.symbols e.tree = e.symbols
  | .operand n p => by
    simp [Phrase.tree, Tree.symbols, operandSymbols, Phrase.symbols, p.symbols_term]
  | .join before op n p => by
    simp [Phrase.tree, symbols_insert, operandSymbols, Phrase.symbols, p.symbols_term,
      before.symbols_tree]

/-- Arguments are spelled as their trees are. -/
theorem symbols_argumentTrees : ∀ es : List Phrase,
    listSymbols (argumentTrees es) = argumentSymbols es
  | [] => by simp [argumentTrees, listSymbols, argumentSymbols]
  | [e] => by simp [argumentTrees, listSymbols, argumentSymbols, e.symbols_tree]
  | e :: e' :: es => by
    have ih := symbols_argumentTrees (e' :: es)
    rw [argumentTrees] at ih
    rw [argumentTrees, argumentTrees, listSymbols, argumentSymbols, e.symbols_tree, ih]
    · simp
    · simp

end

/-- Inserting an operand keeps the order. -/
theorem ordered_insert {t : Tree} (ht : Tree.Ordered t) (op : Operator)
    {a : Option Negation × Term} (ha : OperandOrdered a) : Tree.Ordered (t.insert op a) := by
  induction t with
  | operand b => exact ⟨trivial, trivial, ht, ha⟩
  | node top l r _ ihr =>
    obtain ⟨hl, hr, ol, or⟩ := ht
    unfold Grouping.insert
    -- an operator that binds more strongly takes the last operand of the tree, and any other takes
    -- the tree
    split
    · next hlt => exact ⟨hl, hr.insert (Operator.priority_lt_iff.1 hlt), ol, ihr or⟩
    · next hge =>
      rw [Operator.priority_lt_iff, Nat.not_lt] at hge
      exact ⟨Nat.lt_succ_of_le hge, trivial, ⟨hl, hr, ol, or⟩, ha⟩

mutual

/-- The tree of an operand is in order. -/
theorem Primary.ordered_term : ∀ p : Primary, p.term.Ordered
  | .literal _ => trivial
  | .path _ => trivial
  | .call _ args _ => ordered_argumentTrees args
  | .group body => body.ordered_tree

theorem Phrase.ordered_tree : ∀ e : Phrase, Tree.Ordered e.tree
  | .operand _ p => p.ordered_term
  | .join before op _ p => ordered_insert before.ordered_tree op p.ordered_term

theorem ordered_argumentTrees : ∀ es : List Phrase, ListOrdered (argumentTrees es)
  | [] => trivial
  | e :: es => ⟨e.ordered_tree, ordered_argumentTrees es⟩

end

/-! ## The postfix form of a phrase -/

namespace Grouping

variable {α β : Type}

/-- Changes every operand. -/
def map (f : α → β) : Grouping α → Grouping β
  | operand a => operand (f a)
  | node op l r => node op (l.map f) (r.map f)

/-- Where an operand is inserted depends on the operators only. -/
theorem map_insert (f : α → β) (t : Grouping α) (op : Operator) (a : α) :
    (t.insert op a).map f = (t.map f).insert op (f a) := by
  induction t with
  | operand b => rfl
  | node top l r _ ihr =>
    by_cases h : top.priority < op.priority
    · simp [insert, map, h, ihr]
    · simp [insert, map, h]

end Grouping

/-- The postorder of a tree is the postfix form of its grouped operands. -/
theorem toPostfix_map_operandPostorder (t : Tree) :
    (t.map operandPostorder).toPostfix = Tree.postorder t := by
  induction t with
  | operand a => simp [Grouping.map, Tree.postorder]
  | node op l r ihl ihr => simp [Grouping.map, Tree.postorder, ihl, ihr]

mutual

/-- The postfix order of an operand is that of its tree. -/
theorem Primary.postorder_term : ∀ p : Primary, p.term.postorder = p.toPostfix
  | .literal l => by simp [Primary.term, Term.postorder, Primary.toPostfix]
  | .path p => by simp [Primary.term, Term.postorder, Primary.toPostfix]
  | .call p args property => by
    simp [Primary.term, Term.postorder, Primary.toPostfix, postorder_argumentTrees args]
  | .group body => by
    rw [Primary.term, Term.postorder, Primary.toPostfix, ← body.map_tree,
      toPostfix_map_operandPostorder]

/-- The tree has the operands of the grouping. -/
theorem Phrase.map_tree : ∀ e : Phrase, e.tree.map operandPostorder = e.grouping
  | .operand n p => by
    simp [Phrase.tree, Grouping.map, Phrase.grouping, operandPostorder_eq_negated,
      p.postorder_term]
  | .join before op n p => by
    simp [Phrase.tree, Grouping.map_insert, Phrase.grouping, operandPostorder_eq_negated,
      p.postorder_term, before.map_tree]

/-- The postfix order of arguments is that of their trees. -/
theorem postorder_argumentTrees : ∀ es : List Phrase,
    listPostorder (argumentTrees es) = argumentPostfix es
  | [] => by simp [argumentTrees, listPostorder, argumentPostfix]
  | e :: es => by
    rw [argumentTrees, listPostorder, argumentPostfix, postorder_argumentTrees es, ← e.map_tree,
      toPostfix_map_operandPostorder]

end

/-- The postfix form of a phrase is the postorder of its tree. -/
theorem Phrase.postorder_tree (e : Phrase) : Tree.postorder e.tree = e.toPostfix := by
  rw [Phrase.toPostfix, ← e.map_tree, toPostfix_map_operandPostorder]

/-! ## The phrase of a tree -/

/-- A phrase, an operator, and the phrase behind it as one chain. -/
def Phrase.append (before : Phrase) (op : Operator) : Phrase → Phrase
  | .operand n p => .join before op n p
  | .join e op' n p => .join (before.append op e) op' n p

mutual

/-- The primary that spells a term. -/
def Term.primary : Term → Primary
  | .literal l => .literal l
  | .path p => .path p
  | .call p args property => .call p (argumentPhrases args) property
  | .group body => .group (Tree.phrase body)
termination_by structural t => t

/-- The phrase that spells an operand. -/
def operandPhrase : Option Negation × Term → Phrase
  | (n, a) => .operand n a.primary
termination_by structural t => t

/-- The phrase that spells a tree. -/
def Tree.phrase : Tree → Phrase
  | .operand a => operandPhrase a
  | .node op l r => (Tree.phrase l).append op (Tree.phrase r)
termination_by structural t => t

/-- The phrase of each tree. -/
def argumentPhrases : List Tree → List Phrase
  | [] => []
  | t :: ts => Tree.phrase t :: argumentPhrases ts
termination_by structural t => t

end

namespace Grouping

variable {α : Type}

/-- An operator that was added to a tree binds as tightly as the whole tree does. -/
theorem Below.lt_of_insert {n : Nat} {t : Grouping α} {op : Operator} {a : α}
    (h : (t.insert op a).Below n) : op.level < n := by
  cases t with
  | operand b => exact h
  | node top l r =>
    unfold Grouping.insert at h
    split at h
    · next hlt => exact Nat.lt_trans (Operator.priority_lt_iff.1 hlt) h
    · exact h

/-- What is below a level after an operator was added was so before. -/
theorem Below.of_insert {n : Nat} {t : Grouping α} {op : Operator} {a : α}
    (h : (t.insert op a).Below n) : t.Below n := by
  have hn : op.level < n := h.lt_of_insert
  cases t with
  | operand b => trivial
  | node top l r =>
    unfold Grouping.insert at h
    split at h
    · exact h
    · -- the operator became the root, and the old root binds at least as tightly
      next hge =>
        rw [Operator.priority_lt_iff, Nat.not_lt] at hge
        exact Nat.lt_of_le_of_lt hge hn

/-- An operator added to a tree that binds as tightly as it takes the whole tree. -/
theorem insert_of_below {t : Grouping α} {op : Operator} (h : t.Below (op.level + 1)) (a : α) :
    t.insert op a = .node op t (.operand a) := by
  cases t with
  | operand b => rfl
  | node top l r =>
    refine if_neg ?_
    rw [Operator.priority_lt_iff, Nat.not_lt]
    exact Nat.le_of_lt_succ h

end Grouping

/-- A chain behind an operator that binds looser than all of it stays together. -/
theorem tree_append {before : Phrase} {op : Operator} (hb : before.tree.Below (op.level + 1)) :
    ∀ e : Phrase, e.tree.Below op.level →
      (before.append op e).tree = .node op before.tree e.tree
  | .operand n p, _ => by
    rw [Phrase.append, Phrase.tree, Phrase.tree, Grouping.insert_of_below hb]
  | .join e op' n p, he => by
    rw [Phrase.tree] at he
    have hlt : op'.level < op.level := he.lt_of_insert
    have ih := tree_append hb e he.of_insert
    rw [Phrase.append, Phrase.tree, ih, Phrase.tree]
    exact if_pos (Operator.priority_lt_iff.2 hlt)

mutual

/-- An ordered operand is that of the primary it is spelled by. -/
theorem Term.term_primary : ∀ a : Term, a.Ordered → a.primary.term = a
  | .literal _, _ => rfl
  | .path _, _ => rfl
  | .call p args property, h => by
    rw [Term.primary, Primary.term, argumentTrees_argumentPhrases args h]
  | .group body, h => by
    rw [Term.primary, Primary.term, tree_phrase body h]

theorem tree_operandPhrase : ∀ a : Option Negation × Term, OperandOrdered a →
    (operandPhrase a).tree = .operand a
  | (n, a), h => by
    rw [operandPhrase, Phrase.tree, a.term_primary h]

/-- An ordered tree is the tree of the phrase that spells it. -/
theorem tree_phrase : ∀ t : Tree, Tree.Ordered t → (Tree.phrase t).tree = t
  | .operand a, h => by
    rw [Tree.phrase, tree_operandPhrase a h]
  | .node op l r, h => by
    obtain ⟨hl, hr, ol, or⟩ := h
    have ihl := tree_phrase l ol
    have ihr := tree_phrase r or
    rw [← ihl] at hl
    rw [← ihr] at hr
    rw [Tree.phrase, tree_append hl _ hr, ihl, ihr]

theorem argumentTrees_argumentPhrases : ∀ ts : List Tree, ListOrdered ts →
    argumentTrees (argumentPhrases ts) = ts
  | [], _ => rfl
  | t :: ts, h => by
    rw [argumentPhrases, argumentTrees, tree_phrase t h.1, argumentTrees_argumentPhrases ts h.2]

end

/-- An ordered tree is spelled as its phrase is. -/
theorem Tree.symbols_phrase (t : Tree) (h : Tree.Ordered t) :
    (Tree.phrase t).symbols = Tree.symbols t := by
  rw [← Phrase.symbols_tree, tree_phrase t h]

/-! ## Sequences without punctuation -/

mutual

/-- Whether a token is no parenthesis and no separator, and none stands in the arguments of a
call at any depth. -/
def Token.Plain : Token → Prop
  | .literal _ | .operator _ | .negate _ | .path _ => True
  | .call _ args _ => ArgumentsPlain args
  | .opening | .closing | .separator => False

/-- Whether every token of a sequence is plain. -/
def TokensPlain : List Token → Prop
  | [] => True
  | t :: ts => t.Plain ∧ TokensPlain ts

/-- Whether every sequence of a list is plain. -/
def ArgumentsPlain : List (List Token) → Prop
  | [] => True
  | e :: es => TokensPlain e ∧ ArgumentsPlain es

end

/-- Tokens in a row are plain if each of them is. -/
theorem tokensPlain_append {e f : Postfix} (he : TokensPlain e) (hf : TokensPlain f) :
    TokensPlain (e ++ f) := by
  induction e with
  | nil => exact hf
  | cons t ts ih => exact ⟨he.1, ih he.2⟩

mutual

/-- The tokens of an operand are plain. -/
theorem Term.plain_postorder : ∀ a : Term, TokensPlain a.postorder
  | .literal _ => ⟨trivial, trivial⟩
  | .path _ => ⟨trivial, trivial⟩
  | .call _ args _ => ⟨plain_listPostorder args, trivial⟩
  | .group body => Tree.plain_postorder body

/-- So are those of one with a negation. -/
theorem plain_operandPostorder : ∀ a : Option Negation × Term, TokensPlain (operandPostorder a)
  | (none, a) => a.plain_postorder
  | (some n, a) => by
    have ha := a.plain_postorder
    rw [operandPostorder]
    split
    · exact ⟨trivial, trivial⟩
    · exact tokensPlain_append ha ⟨trivial, trivial⟩

/-- No parenthesis and no separator stands in a postorder. -/
theorem Tree.plain_postorder : ∀ t : Tree, TokensPlain (Tree.postorder t)
  | .operand a => plain_operandPostorder a
  | .node op l r => by
    have hl := Tree.plain_postorder l
    have hr := Tree.plain_postorder r
    rw [Tree.postorder]
    exact tokensPlain_append (tokensPlain_append hl hr) ⟨trivial, trivial⟩

theorem plain_listPostorder : ∀ ts : List Tree, ArgumentsPlain (listPostorder ts)
  | [] => trivial
  | t :: ts => ⟨Tree.plain_postorder t, plain_listPostorder ts⟩

end

end Stencil.Expr
