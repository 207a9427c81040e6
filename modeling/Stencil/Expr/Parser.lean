import Stencil.Expr.Phrase

/-!
# Stencil.Expr.Parser — reading expressions

The parser reads one symbol at a time. Its state is the phrase read so far with a hole
at the right end: the parentheses that are still open (`Nesting`) and what has been read
since the innermost of them (`Progress`). Each symbol either extends the state or is a
fault at its own offset, so the first offending lexeme is the one reported.

* `Phrase.parse` reads one expression;
* `Phrase.parseList` reads a list of expressions separated by commas.
-/

namespace Stencil.Expr

/-- What precedes an operand in its chain: nothing, or a phrase and an operator. -/
abbrev Lead := Option (Phrase × Operator)

/-- The phrase that an operand completes. -/
def Lead.close : Lead → Option Negation → Primary → Phrase
  | none, n, p => .operand n p
  | some (before, op), n, p => .join before op n p

/-- The parentheses that are open around the place of reading. Each remembers what the
operand it starts will be joined to. -/
inductive Nesting where
  /-- None: one expression is read. -/
  | single
  /-- None: a list of expressions is read, of which `done` are complete. -/
  | list (done : List Phrase)
  /-- A group. -/
  | group (lead : Lead) (n : Option Negation) (outer : Nesting)
  /-- The arguments of a call, of which `done` are complete. -/
  | call (lead : Lead) (n : Option Negation) (p : String) (done : List Phrase) (outer : Nesting)

/-- What has been read since the last parenthesis or separator. -/
inductive Progress where
  /-- An operand is expected, with or without a negation. -/
  | operand (lead : Lead)
  /-- An operand is expected behind a negation. -/
  | primary (lead : Lead) (n : Negation)
  /-- An operand is complete. -/
  | complete (lead : Lead) (n : Option Negation) (p : Primary)

/-- The state of reading. -/
structure Reading where
  nesting : Nesting
  progress : Progress

/-- What a complete primary ends with. -/
def Primary.role : Primary → Role
  | literal _ => .literal
  | path _ => .reference
  | call .. | group _ => .closing

/-- What has been read last. -/
def Progress.role : Progress → Role
  | operand none => .start
  | operand (some _) => .operator
  | primary .. => .negation
  | complete _ _ p => p.role

namespace Reading

/-- Before the first symbol of an expression. -/
def single : Reading := ⟨.single, .operand none⟩

/-- Before the first symbol of a list of expressions. -/
def list : Reading := ⟨.list [], .operand none⟩

/-- The fault of a symbol that cannot follow. -/
def refuse (progress : Progress) (x : Symbol) : Except Fault Reading :=
  .error (.unexpected x.role progress.role)

/-- Reads a symbol that starts an operand, whose lead and negation are known. -/
def start (nesting : Nesting) (lead : Lead) (n : Option Negation) :
    Symbol → Except Role Reading
  | .literal l => .ok ⟨nesting, .complete lead n (.literal l)⟩
  | .path p => .ok ⟨nesting, .complete lead n (.path p)⟩
  | .opening => .ok ⟨.group lead n nesting, .operand none⟩
  | x => .error x.role

/-- Reads `)` behind a complete phrase. -/
def close (e : Phrase) : Nesting → Except Fault Reading
  | .single | .list _ => .error (.stray .closing)
  | .group lead n outer => .ok ⟨outer, .complete lead n (.group e)⟩
  | .call lead n p done outer => .ok ⟨outer, .complete lead n (.call p (done ++ [e]) none)⟩

/-- Reads `,` behind a complete phrase. -/
def separate (e : Phrase) : Nesting → Except Fault Reading
  | .single | .group .. => .error (.stray .separator)
  | .list done => .ok ⟨.list (done ++ [e]), .operand none⟩
  | .call lead n p done outer => .ok ⟨.call lead n p (done ++ [e]) outer, .operand none⟩

/-- Reads a symbol behind a complete operand. -/
def follow (nesting : Nesting) (lead : Lead) (n : Option Negation) (p : Primary) :
    Symbol → Except Fault Reading
  | .operator op => .ok ⟨nesting, .operand (some (lead.close n p, op))⟩
  | .closing => close (lead.close n p) nesting
  | .separator => separate (lead.close n p) nesting
  | .opening =>
    match p with
    | .path f => .ok ⟨.call lead n f [] nesting, .operand none⟩
    | _ => refuse (.complete lead n p) .opening
  | .property q =>
    match p with
    | .call f args none => .ok ⟨nesting, .complete lead n (.call f args (some q))⟩
    | _ => refuse (.complete lead n p) (.property q)
  | x => refuse (.complete lead n p) x

/-- Reads one symbol. -/
def step : Reading → Symbol → Except Fault Reading
  | ⟨.call lead n f [] outer, .operand none⟩, .closing =>
    .ok ⟨outer, .complete lead n (.call f [] none)⟩
  | ⟨nesting, .operand lead⟩, .negate n => .ok ⟨nesting, .primary lead n⟩
  | ⟨nesting, .operand lead⟩, x =>
    (start nesting lead none x).mapError (.unexpected · (Progress.operand lead).role)
  | ⟨nesting, .primary lead n⟩, x =>
    (start nesting lead (some n) x).mapError (.unexpected · .negation)
  | ⟨nesting, .complete lead n p⟩, x => follow nesting lead n p x

/-- Ends the reading: the finished items of a list, and the last phrase. -/
def finish : Reading → Except Fault (List Phrase × Phrase)
  | ⟨nesting, .complete lead n p⟩ =>
    match nesting with
    | .single => .ok ([], lead.close n p)
    | .list done => .ok (done, lead.close n p)
    | .group .. => .error .openGroup
    | .call .. => .error .openArguments
  | ⟨_, progress⟩ => .error (.unexpected .finish progress.role)

/-- Reads the lexemes in order; a fault is placed at its lexeme. -/
def run : Reading → List Lexeme → Except Error Reading
  | s, [] => .ok s
  | s, x :: xs =>
    match s.step x.symbol with
    | .ok s => s.run xs
    | .error f => .error ⟨f, x.offset⟩

/-- Reads lexemes to their ending. -/
def runAll (s : Reading) (xs : Lexemes) : Except Error (List Phrase × Phrase) := do
  let s ← s.run xs.items
  match xs.ending with
  | .finish offset => s.finish.mapError (⟨·, offset⟩)
  | .fault e => .error e

end Reading

/-- Reads one expression. -/
def Phrase.parse (text : String) : Except Error Phrase :=
  (Reading.single.runAll (.ofChars text.toList)).map (·.2)

/-- Reads expressions separated by commas; a blank text is the empty list. -/
def Phrase.parseList (text : String) : Except Error (List Phrase) :=
  if text.toList.all Text.isBlank then .ok []
  else (Reading.list.runAll (.ofChars text.toList)).map fun (done, last) => done ++ [last]

/-- The postfix form of the expression that `text` spells. -/
def Postfix.parse (text : String) : Except Error Postfix :=
  (Phrase.parse text).map Phrase.toPostfix

/-- The postfix forms of the expressions that `text` lists. -/
def Postfix.parseList (text : String) : Except Error (List Postfix) :=
  (Phrase.parseList text).map (·.map Phrase.toPostfix)

end Stencil.Expr
