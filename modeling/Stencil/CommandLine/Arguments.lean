import Stencil.Options

/-!
# Stencil.CommandLine.Arguments — what the program is asked to do

Arguments are options, which start with a dash, and operands. A long option takes its
value behind an equals sign or as the next argument; a short one also without anything
between. Behind a bare `--` everything is an operand. The first operand names the
command, and what follows belongs to it; the options about details and the deadline may
stand on either side, and the later side wins.

An option that is not known, is repeated without being a list, or lacks its value makes
the arguments unusable. So does a value that the option does not admit; one that is an
argument of its own is looked at when the next word comes, and one right in front of the
command only when all else has been read. An option that asks for information ends the
reading where it stands, whatever is behind it.
-/

namespace Stencil.CommandLine

/-! ## Options -/

/-- The options there are. -/
inductive Flag where
  | debug | timeout | data | json | inclusion | help | version
deriving DecidableEq

namespace Flag

/-- Whether the option has a value. -/
def takesValue : Flag → Bool
  | timeout | data | json | inclusion => true
  | debug | help | version => false

/-- Whether the option may be given several times. -/
def isList : Flag → Bool
  | inclusion => true
  | _ => false

/-- The option with this long name. -/
def ofLong? (name : String) : Option Flag :=
  [("debug", debug), ("timeout-ms", timeout), ("data", data), ("json", json),
    ("partial", inclusion), ("help", help), ("version", version)].lookup name

/-- The option with this letter. -/
def ofShort? (c : Char) : Option Flag :=
  [('d', data), ('p', inclusion), ('h', help), ('V', version)].lookup c

end Flag

/-- The commands there are. -/
inductive Verb where
  | render | check | segments | help
deriving DecidableEq

namespace Verb

/-- The command of this name. -/
def ofName? (name : String) : Option Verb :=
  [("render", render), ("check", check), ("segments", segments), ("help", help)].lookup name

/-- Whether the command knows the option. -/
def knows : Verb → Flag → Bool
  | _, .debug | _, .timeout | _, .help => true
  | render, .data | render, .json | render, .inclusion => true
  | _, _ => false

/-- How many operands the command takes, if there is a limit. -/
def limit? : Verb → Option Nat
  | render | segments => some 1
  | check | help => none

end Verb

/-- Whether an option stands before the command. -/
def isGlobal : Flag → Bool
  | .debug | .timeout | .help | .version => true
  | .data | .json | .inclusion => false

/-! ## Words -/

/-- An argument that has been recognised. -/
inductive Word where
  | flag (f : Flag) (value : String)
  | operand (text : String)

/-- What is wrong with the arguments, or that only information is wanted. -/
inductive Stop where
  | unusable
  | help
  | version
deriving DecidableEq

/-- The values given to an option. -/
def valuesOf (f : Flag) (words : List Word) : List String :=
  words.filterMap fun
    | .flag g value => if g = f then some value else none
    | .operand _ => none

/-- The operands. -/
def operandsOf (words : List Word) : List String :=
  words.filterMap fun
    | .operand text => some text
    | .flag .. => none

/-- Whether an option may have the value. Paths are not empty. -/
def Flag.admits (f : Flag) (value : String) : Bool :=
  match f with
  | timeout => (Options.milliseconds? value.toList).isSome
  | data | inclusion => value ≠ ""
  | debug | json | help | version => true

/-- Whether a word may follow others. -/
def Word.fits (words : List Word) : Word → Bool
  | .flag f value => f.admits value && (f.isList || (valuesOf f words).isEmpty)
  | .operand text => text ≠ ""

/-! ## One side of the command -/

/-- What the last argument leaves to be done. -/
inductive Pending where
  | nothing
  /-- The value of the option comes next. -/
  | value (f : Flag)
  /-- The word has not been looked at. -/
  | word (w : Word)

/-- What has been read on one side of the command. -/
structure Side where
  words : List Word
  pending : Pending

namespace Side

/-- Nothing. -/
def empty : Side := ⟨[], .nothing⟩

/-- The words, when nothing is left to be done. -/
def settle (s : Side) : Except Stop (List Word) :=
  match s.pending with
  | .nothing => .ok s.words
  | .value _ => .error .unusable
  | .word w => if w.fits s.words then .ok (s.words ++ [w]) else .error .unusable

/-- One more word, which is looked at at once. -/
def take (s : Side) (w : Word) : Except Stop Side := do
  return ⟨← settle ⟨← s.settle, .word w⟩, .nothing⟩

/-- An option without a value. One that asks for information ends the reading, unless
something was wrong before it. -/
def takeFlag (s : Side) (f : Flag) : Except Stop Side := do
  let words ← s.settle
  match f with
  | .help => throw .help
  | .version => throw .version
  | f => take ⟨words, .nothing⟩ (.flag f "")

/-- An option whose value comes next. -/
def await (s : Side) (f : Flag) : Except Stop Side := do return ⟨← s.settle, .value f⟩

/-- The value of the option that waits for one. It is looked at when the next word comes. -/
def give (s : Side) (f : Flag) (value : String) : Side := ⟨s.words, .word (.flag f value)⟩

/-- The letters of a short option: options without value one after the other, or one with its
value. -/
def takeLetters (known : Flag → Bool) (s : Side) : List Char → Except Stop Side
  | [] => .ok s
  | c :: cs =>
    match (Flag.ofShort? c).filter known with
    | none => .error .unusable
    | some f =>
      if f.takesValue then
        match cs with
        | [] => s.await f
        | '=' :: value => s.take (.flag f (String.ofList value))
        | value => s.take (.flag f (String.ofList value))
      else do takeLetters known (← s.takeFlag f) cs

/-- A long option, without its dashes. -/
def takeLong (known : Flag → Bool) (s : Side) (text : List Char) : Except Stop Side :=
  let name := String.ofList (text.takeWhile (· ≠ '='))
  match (Flag.ofLong? name).filter known, text.dropWhile (· ≠ '=') with
  | none, _ => .error .unusable
  | some f, [] => if f.takesValue then s.await f else s.takeFlag f
  | some f, _ :: value =>
    if f.takesValue then s.take (.flag f (String.ofList value)) else .error .unusable

/-- An option. -/
def takeOption (known : Flag → Bool) (s : Side) (arg : String) : Except Stop Side :=
  match arg.toList with
  | '-' :: '-' :: text => s.takeLong known text
  | _ :: letters => s.takeLetters known letters
  | [] => .error .unusable

/-- An operand, which is looked at when the next word comes. -/
def takeOperand (verb : Verb) (s : Side) (text : String) : Except Stop Side := do
  let words ← s.settle
  if verb.limit?.any (· ≤ (operandsOf words).length) then throw .unusable
  return ⟨words, .word (.operand text)⟩

end Side

/-- Whether an argument is an option. A dash alone is none. -/
def isOption (arg : String) : Bool := arg ≠ "-" && "-".toList.isPrefixOf arg.toList

/-- Reads the arguments up to the command: what was said before it, the command, and what is
left. A value right in front of the command is left unlooked at. -/
def readFront (s : Side) : List String → Except Stop (Side × Verb × List String)
  | [] => .error .unusable
  | arg :: args =>
    if isOption arg then
      if arg = "--" then .error .unusable
      else do readFront (← s.takeOption isGlobal arg) args
    else
      match s.pending, Verb.ofName? arg with
      | .value f, _ => readFront (s.give f arg) args
      | _, some verb => .ok (s, verb, args)
      | _, none => .error .unusable

/-- Reads the arguments behind the command. -/
def readBack (verb : Verb) (s : Side) : List String → Except Stop (List Word)
  | [] => s.settle
  | arg :: args =>
    if isOption arg then
      if arg = "--" then do (← args.foldlM (Side.takeOperand verb) s).settle
      else do readBack verb (← s.takeOption verb.knows arg) args
    else
      match s.pending with
      | .value f => readBack verb (s.give f arg) args
      | _ => do readBack verb (← s.takeOperand verb arg) args

/-! ## The whole -/

/-- What the program is asked to do. -/
inductive Command where
  | render (template : String) (data json : Option String) (inclusions : List String)
  | check (templates : List String)
  | segments (template : String)
deriving DecidableEq, Repr

/-- A command with what was said about options. -/
structure Arguments where
  command : Command
  debug : Bool
  timeout : Option Nat
deriving DecidableEq, Repr

/-- The command that a verb and the words behind it make. -/
def Verb.command (verb : Verb) (words : List Word) : Except Stop Command :=
  match verb, operandsOf words with
  | .render, [template] =>
    match (valuesOf .data words).head?, (valuesOf .json words).head? with
    | some _, some _ => .error .unusable
    | data, json => .ok (.render template data json (valuesOf .inclusion words))
  | .check, template :: templates => .ok (.check (template :: templates))
  | .segments, [template] => .ok (.segments template)
  | _, _ => .error .unusable

/-- Whether the arguments of `help` name a command, or nothing. -/
def helpTopic : List String → Bool
  | [] => true
  | [name] => (Verb.ofName? name).isSome
  | _ => false

/-- What arguments ask for. -/
def Arguments.read (args : List String) : Except Stop Arguments := do
  let (before, verb, rest) ← readFront .empty args
  if verb = .help then throw (if helpTopic rest then .help else .unusable)
  let after ← readBack verb .empty rest
  let command ← verb.command after
  let before ← before.settle
  let timeout := (valuesOf .timeout (after ++ before)).head?
  return {
    command
    debug := !(valuesOf .debug (after ++ before)).isEmpty
    timeout := timeout.bind fun text => Options.milliseconds? text.toList }

/-- The options: what the arguments say counts more than the variables. -/
def Arguments.options (a : Arguments) (setting : String → Option String) : Options :=
  let options := Options.ofVariables setting
  ⟨a.debug || options.debug, a.timeout <|> options.timeout⟩

end Stencil.CommandLine
