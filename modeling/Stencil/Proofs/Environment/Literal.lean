import Stencil.Environment.Basic
import Stencil.Proofs.Expr.Literal
import Stencil.Proofs.Segment.Grammar
import Stencil.Proofs.Segment.Parsed
import Stencil.Proofs.Walk.Render

/-!
# Stencil.Proofs.Environment.Literal — literals from the template to the sink

A text literal is delimited twice: by the reader of directives, and by the lexer of expressions.
The two agree on where a literal ends, in any text (`ReadsTexts.eq_bind_takeText`), so what stands
in a literal never ends a directive, is no mark and no context. `Spells.survives` follows a
literal all the way: a template that outputs it writes the text it spells.
-/

namespace Stencil

open Stencil.Expr (Spells)

namespace Segment

/-! ## Where a literal ends -/

/-- What a reader of directives does inside of a literal, whose quote is given to it. -/
structure ReadsTexts (take : Option Char → List Char → Option (List Char × List Char)) :
    Prop where
  nil : ∀ q, take (some q) [] = none
  lone : ∀ q, take (some q) ['\\'] = none
  escape : ∀ q c cs, take (some q) ('\\' :: c :: cs) =
    (take (some q) cs).map fun (t, rest) => ('\\' :: c :: t, rest)
  char : ∀ q {c}, c ≠ '\\' → ∀ cs, take (some q) (c :: cs) =
    (take (if c = q then none else some q) cs).map fun (t, rest) => (c :: t, rest)

/-- The reader of contents is one of those that skip literals. -/
theorem readsTexts_takeContent : ReadsTexts takeContent where
  nil _ := rfl
  lone _ := rfl
  escape _ _ _ := rfl
  char q c hc cs := by cases cs <;> simp [takeContent, hc]

/-- So is the reader of arguments, at any depth. -/
theorem readsTexts_takeArguments (depth : Nat) : ReadsTexts (takeArguments depth) where
  nil _ := rfl
  lone _ := rfl
  escape _ _ _ := rfl
  char q c hc cs := by cases cs <;> simp [takeArguments, hc]

/-- Behind the opening quote, the reader is out of the literal again where the lexer ends it. -/
theorem ReadsTexts.eq_bind_takeText
    {take : Option Char → List Char → Option (List Char × List Char)} (ht : ReadsTexts take)
    (q : Char) (cs : List Char) :
    take (some q) cs = (Expr.Symbol.takeText q cs).bind fun (_, spelling, rest) =>
      (take none rest).map fun (t, rest) => (spelling ++ t, rest) := by
  fun_induction Expr.Symbol.takeText q cs with
  | case1 => exact ht.nil q
  | case2 c cs ih =>
    rw [ht.escape, ih, Option.map_bind, Option.bind_map]
    refine Option.bind_congr fun x _ => ?_
    rw [Function.comp_apply, Option.map_map]
    rfl
  | case3 cs hpair =>
    -- a backslash at the end escapes nothing
    cases cs with
    | nil => exact ht.lone q
    | cons d cs => exact absurd rfl (hpair d cs rfl)
  | case4 cs _ hc =>
    rw [ht.char q hc, if_pos rfl]
    rfl
  | case5 c cs _ hc hne ih =>
    rw [ht.char q hc, if_neg hne, ih, Option.map_bind, Option.bind_map]
    refine Option.bind_congr fun x _ => ?_
    rw [Function.comp_apply, Option.map_map]
    rfl

/-- Behind the quote that opens a literal, a reader of directives ends it where it is spelled to
end. -/
theorem ReadsTexts.spelled {take : Option Char → List Char → Option (List Char × List Char)}
    (ht : ReadsTexts take) {q : Char} {text body : List Char} (h : Spells q text body)
    (hq : q = '"' ∨ q = '\'') (rest : List Char) :
    take (some q) (body ++ q :: rest) =
      (take none rest).map fun (t, rest) => (body ++ [q] ++ t, rest) := by
  rw [ht.eq_bind_takeText, h.takeText hq]
  rfl

/-- Bytes of characters that are not ASCII stand for themselves in a literal. -/
theorem Grammar.IsLiteral.high_append {q : Char} (hq : Text.IsAscii q) {bs tail : List UInt8}
    (h : Grammar.IsLiteral q.toUInt8 bs) (htail : ∀ b ∈ tail, 128 ≤ b.toNat) :
    Grammar.IsLiteral q.toUInt8 (tail ++ bs) := by
  induction tail with
  | nil => exact h
  | cons b tail ih =>
    have hb := htail b List.mem_cons_self
    exact (ih fun x hx => htail x (List.mem_cons_of_mem _ hx)).byte
      (Grammar.ne_of_le hb (by decide)) (Grammar.ne_of_le hb hq)

/-- The bytes of a literal, from behind its opening quote, are a literal of the brace grammar. -/
theorem isLiteral_of_spells {q : Char} {text body : List Char} (h : Spells q text body)
    (hq : q = '"' ∨ q = '\'') :
    Grammar.IsLiteral q.toUInt8 (Text.Utf8.encode (body ++ [q])) := by
  have hascii : Text.IsAscii q := by rcases hq with rfl | rfl <;> decide
  have hescape : ∀ {c : Char} {bs : List UInt8}, Text.IsAscii c →
      Grammar.IsLiteral q.toUInt8 bs →
      Grammar.IsLiteral q.toUInt8 ('\\'.toUInt8 :: (Text.Utf8.encodeChar c ++ bs)) := by
    intro c bs hc hbs
    rw [Text.Utf8.encodeChar_of_isAscii hc]
    exact hbs.escape c.toUInt8
  -- bytes of characters beyond ASCII are neither quotes nor backslashes
  induction h with
  | nil =>
    rw [List.nil_append, Text.Utf8.encode_cons, Text.Utf8.encodeChar_of_isAscii hascii]
    exact .close
  | @plain c text body hc hcq _ ih =>
    rw [List.cons_append, Text.Utf8.encode_cons]
    by_cases hca : Text.IsAscii c
    · rw [Text.Utf8.encodeChar_of_isAscii hca]
      exact ih.byte (fun h => hc ((Text.Utf8.toUInt8_inj hca (by decide)).1 h))
        (fun h => hcq ((Text.Utf8.toUInt8_inj hca hascii).1 h))
    · exact ih.high_append hascii fun b hb => Text.Utf8.le_of_mem_encodeChar hca hb
  | @escaped c text body hc _ ih =>
    have hca : Text.IsAscii c := by
      rcases hc with rfl | rfl
      · decide
      · exact hascii
    exact hescape hca ih
  | @named c d text body hc _ ih =>
    have hda : Text.IsAscii d := by
      simp only [List.mem_cons, Prod.mk.injEq, List.not_mem_nil, or_false] at hc
      rcases hc with ⟨-, rfl⟩ | ⟨-, rfl⟩ | ⟨-, rfl⟩ <;> decide
    exact hescape hda ih

/-! ## A directive that is a literal -/

section Directive

variable {q : Char} {text body : List Char} (h : Spells q text body) (hq : q = '"' ∨ q = '\'')

include h hq

/-- The content of a directive goes on behind a literal, whatever braces stand in it. -/
theorem takeContent_spelled (rest : List Char) :
    takeContent none (q :: (body ++ q :: rest)) =
      (takeContent none rest).map fun (t, rest) => (q :: (body ++ [q] ++ t), rest) := by
  have hquote : isQuote q = true := by rcases hq with rfl | rfl <;> rfl
  have hbrace : q ≠ '\x7d' ∧ q ≠ '\x7b' := by rcases hq with rfl | rfl <;> decide
  rw [takeContent, if_neg hbrace.1, if_neg hbrace.2, if_pos hquote,
    readsTexts_takeContent.spelled h hq, Option.map_map]
  rfl

/-- The source of a template that outputs the literal. -/
theorem split_spelled :
    split ('\x7b' :: '\x7b' :: q :: (body ++ [q, '\x7d', '\x7d'])) =
      [.directive ⟨.start, .output, ⟨Position.start.past ['\x7b', '\x7b'], q :: (body ++ [q])⟩, [],
        '\x7b' :: '\x7b' :: q :: (body ++ [q, '\x7d', '\x7d'])⟩] := by
  have hcontent : takeContent none (q :: (body ++ [q, '\x7d', '\x7d'])) =
      some (q :: (body ++ [q] ++ []), ['\x7d']) := takeContent_spelled h hq ['\x7d', '\x7d']
  rw [List.append_nil] at hcontent
  have hmarker : Kind.ofMarker? '\x7b' = none := by decide
  refine split_of_takeDirective? ?_
  simp only [takeDirective?, hmarker, hcontent, takeModifiers?_end, Option.map_some]
  simp

/-- Nothing in a literal is a mark of the directive. -/
theorem takeMark_spelled : takeMark (q :: (body ++ [q])) = (q :: (body ++ [q]), none) := by
  have hblank : ¬ Text.isBlank q = true := by rcases hq with rfl | rfl <;> decide
  have hlast : (q :: (body ++ [q])).reverse.dropWhile Text.isBlank = q :: (body.reverse ++ [q]) := by
    rw [List.reverse_cons, List.reverse_append, List.reverse_singleton, List.singleton_append,
      List.cons_append, List.dropWhile_cons_of_neg hblank]
  rw [takeMark, hlast]
  rcases hq with rfl | rfl <;> rfl

theorem takeContext?_spelled : takeContext? (q :: (body ++ [q])) = none := by
  have hblank : ¬ Text.isBlank q = true := by rcases hq with rfl | rfl <;> decide
  have hpath : ¬ isContextChar q = true := by rcases hq with rfl | rfl <;> decide
  rw [takeContext?, List.dropWhile_cons_of_neg hblank, List.takeWhile_cons_of_neg hpath]

/-- A template that outputs a literal is one segment, with the text as its expression. -/
theorem parse_spelled :
    parse (String.ofList ('\x7b' :: '\x7b' :: q :: (body ++ [q, '\x7d', '\x7d']))) =
      .ok [⟨.output, .start, none, none, some [.literal (.text (String.ofList text))], [], false,
        false⟩] := by
  have hblank : (q :: (body ++ [q])).all Text.isBlank = false := by
    rw [List.all_cons, Expr.isBlank_of_quote hq, Bool.false_and]
  have hcontext : ∀ p, readContext ⟨p, q :: (body ++ [q])⟩ =
      .ok (none, ⟨p, q :: (body ++ [q])⟩) := by
    intro p
    rw [readContext, takeContext?_spelled h hq]
  have hexpression : ∀ p, readExpression ⟨p, q :: (body ++ [q])⟩ =
      .ok (some [.literal (.text (String.ofList text))]) := by
    intro p
    rw [readExpression, hblank, if_neg Bool.false_ne_true, h.parse hq]
    rfl
  rw [parse, String.toList_ofList, split_spelled h hq, List.mapM_cons, readPiece, readDirective,
    takeMark_spelled h hq]
  dsimp only
  rw [hcontext]
  show (readExpression _ >>= _) >>= _ = _
  rw [hexpression]
  rfl

end Directive

end Segment

/-! ## A template that outputs a literal -/

/-- The template that consists of an output directive with this content. -/
def outputSource (content : List Char) : String :=
  String.ofList ('\x7b' :: '\x7b' :: (content ++ ['\x7d', '\x7d']))

/-- What such a template compiles to if its content is a literal. -/
def Scope.textOutput (debug : Bool) (text : String) : Scope :=
  .mk [.output ⟨none, [], [], if debug then some .start else none⟩ [.value (.text text)]]

/-- Gives a text to the sink, unless there is nothing to give. -/
def Host.emit (H : Host) (text : String) (state : H.State) : Except RenderError Unit × H.State :=
  if text = "" then (.ok (), state) else H.write text state

/-- It is compiled to one step, which outputs the text. -/
theorem compileText_spelled {q : Char} {text body : List Char} (h : Spells q text body)
    (hq : q = '"' ∨ q = '\'') (debug : Bool) :
    Scope.compileText debug (outputSource (q :: (body ++ [q]))) =
      .ok (.textOutput debug (String.ofList text)) := by
  have hsource : outputSource (q :: (body ++ [q])) =
      String.ofList ('\x7b' :: '\x7b' :: q :: (body ++ [q, '\x7d', '\x7d'])) := by
    simp [outputSource]
  rw [hsource, Scope.compileText, Segment.parse_spelled h hq]
  have hscan : ∀ s : Segment, s.kind = .output → Node.scan debug [s] = .ok [.output s] := by
    intro s hs
    rw [Node.scan, if_neg (by rw [hs]; decide), if_pos hs, Node.scan]
    rfl
  have hnodes : Scope.buildNodes debug [] = .ok [] := by rw [Scope.buildNodes]
  have hbuild : ∀ (s : Segment) (step : Step), Scope.outputStep debug s = .ok step →
      Scope.buildNodes debug [.output s] = .ok (Scope.consStep step []) := by
    intro s step hstep
    rw [Scope.buildNodes, Scope.buildNode]
    exact Except.bind_eq_ok_iff.2 ⟨step, hstep, Except.bind_eq_ok_iff.2 ⟨[], hnodes, rfl⟩⟩
  have hformula : ∀ position, Formula.ofPostfix none position
      [.literal (.text (String.ofList text))] [] = ([.value (.text (String.ofList text))], []) := by
    intro position
    rw [Formula.ofPostfix, Formula.ofPostfix]
    rfl
  refine Except.bind_eq_ok_iff.2 ⟨_, rfl, Except.mapError_eq_ok_iff.2 ?_⟩
  refine Except.bind_eq_ok_iff.2 ⟨_, hscan _ rfl, Except.bind_eq_ok_iff.2 ⟨_, hbuild _ _ rfl, ?_⟩⟩
  simp only [hformula]
  rfl

/-- This step writes the text and gives an error its place. -/
theorem runSteps_textOutput (debug : Bool) (text : String) (frame : Frame) (site : Site) :
    runSteps [] frame site 0 (Scope.textOutput debug text).steps =
      Program.ask (.write text) fun r =>
        Program.done (r.mapError (·.locate (if debug then some .start else none))) := by
  simp only [Scope.textOutput, Scope.steps, runSteps, Step.run]
  refine congrArg (Program.ask (.write text)) (funext fun r => ?_)
  cases r <;> rfl

/-- A text that is output is written at once, so that no deadline matters. -/
theorem renderScope_textOutput {H : Host} (e : Environment) (text : String) (fuel : Nat)
    (deadline : Option Deadline) (catalog : Catalog) (data : Value) (host : H.State) :
    e.renderScope (fuel + 2) deadline catalog (.textOutput e.options.debug text) (.ofData data)
        host =
      some (match H.emit text host with
        | (.ok (), host) => ⟨(H.flush host).1.mapError .render, (H.flush host).2, catalog⟩
        | (.error err, host) =>
          ⟨.error (.render (err.locate (if e.options.debug then some .start else none))), host,
            catalog⟩) := by
  have hnow : (Scope.textOutput e.options.debug text).now =
      (Scope.textOutput e.options.debug text).steps := rfl
  -- the step is run when the scope is started, so that nothing is left for a poll
  rw [Environment.renderScope, World.render, Task.start_eq, hnow, runSteps_textOutput]
  simp only [World.runNow, World.answer?]
  have hw : (e.world catalog host).write text =
      ((H.emit text host).1, { e.world catalog host with host := (H.emit text host).2 }) := by
    have hhalted : (e.world catalog host).halted = false := rfl
    rw [World.write, hhalted, if_neg Bool.false_ne_true, Host.emit]
    split <;> rfl
  rw [hw]
  rcases H.emit text host with ⟨r, host'⟩
  cases r with
  | ok _ => rfl
  | error err => rfl

/-- **A text literal survives the pipeline.** However a text is spelled, the expression parser
reads it back; the readers of directives are out of the literal, character for character and byte
for byte, where the lexer ends it; and a template that outputs it gives the sink this very text,
and nothing else. -/
theorem Expr.Spells.survives {q : Char} {text body : List Char} (h : Spells q text body)
    (hq : q = '"' ∨ q = '\'') :
    Expr.Postfix.parse (String.ofList (q :: (body ++ [q]))) =
      .ok [.literal (.text (String.ofList text))] ∧
    (∀ rest,
      Expr.Symbol.takeText q (body ++ q :: rest) = some (text, body ++ [q], rest) ∧
      Segment.takeContent (some q) (body ++ q :: rest) =
        (Segment.takeContent none rest).map (fun (t, rest) => (body ++ [q] ++ t, rest)) ∧
      ∀ depth, Segment.takeArguments depth (some q) (body ++ q :: rest) =
        (Segment.takeArguments depth none rest).map fun (t, rest) => (body ++ [q] ++ t, rest)) ∧
    Segment.Grammar.IsLiteral q.toUInt8 (Text.Utf8.encode (body ++ [q])) ∧
    ∀ (H : Host) (e : Environment) fuel catalog data (host : H.State) (polls : Option Nat),
      e.renderText (fuel + 2) catalog (outputSource (q :: (body ++ [q]))) data host polls =
        some (match H.emit (String.ofList text) host with
          | (.ok (), host) => ⟨(H.flush host).1.mapError .render, (H.flush host).2, catalog⟩
          | (.error err, host) =>
            ⟨.error (.render (err.locate (if e.options.debug then some .start else none))), host,
              catalog⟩) := by
  refine ⟨h.parse hq, fun rest => ⟨h.takeText hq rest, ?_, fun depth => ?_⟩,
    Segment.isLiteral_of_spells h hq, ?_⟩
  · exact Segment.readsTexts_takeContent.spelled h hq rest
  · exact (Segment.readsTexts_takeArguments depth).spelled h hq rest
  · intro H e fuel catalog data host polls
    rw [Environment.renderText, Environment.compile, compileText_spelled h hq]
    exact renderScope_textOutput e (String.ofList text) fuel _ catalog data host

/-- Braces, a bar, a quote, a backslash, a line feed, an accented letter and a mark. -/
def mixedText : List Char := ['\x7d', '\x7d', '|', '"', '\\', '\n', 'é', '~']

/-- How the text may be spelled. -/
def mixedBody : List Char := ['\x7d', '\x7d', '|', '\\', '"', '\\', '\\', '\\', 'n', 'é', '~']

/-- A literal with braces, a bar, quotes, a backslash, a line feed and letters beyond ASCII. -/
theorem Expr.Spells.survives_mixed :
    Spells '"' mixedText mixedBody ∧
    Expr.Postfix.parse (String.ofList ('"' :: (mixedBody ++ ['"']))) =
      .ok [.literal (.text (String.ofList mixedText))] ∧
    ∀ (e : Environment) fuel catalog data,
      e.renderText (H := .recorder) (fuel + 2) catalog (outputSource ('"' :: (mixedBody ++ ['"'])))
        data [] = some ⟨.ok (), [String.ofList mixedText], catalog⟩ := by
  have hspells : Spells '"' mixedText mixedBody := by
    unfold mixedText mixedBody
    refine .plain (by decide) (by decide) (.plain (by decide) (by decide)
      (.plain (by decide) (by decide) (.escaped (.inr rfl) (.escaped (.inl rfl)
        (.named (by decide) (.plain (by decide) (by decide) (.plain (by decide) (by decide) .nil)))))))
  obtain ⟨hparse, -, -, hrender⟩ := survives hspells (.inl rfl)
  exact ⟨hspells, hparse, fun e fuel catalog data => hrender .recorder e fuel catalog data [] none⟩

end Stencil
