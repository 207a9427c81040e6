import Stencil.CommandLine.Arguments
import Stencil.Buffer
import Stencil.Environment.Basic
import Stencil.Json.Reader
import Stencil.Segment.Document
import Stencil.Segment.Reader
import Stencil.Value.Document

/-!
# Stencil.CommandLine.Basic — running a command

What the program does for its arguments, as a report: an exit code and what goes to the
two outputs. Files and the input are reached through `Surroundings`, so the same commands run on
a real system and on a made-up one.
-/

namespace Stencil.CommandLine

/-! ## Surroundings and reports -/

/-- What a command can reach. Reading gives a text, or says why it cannot. -/
structure Surroundings (m : Type → Type) where
  readFile : String → m (Except String String)
  readInput : m (Except String String)
  /-- The value of an environment variable, if it is set. -/
  setting : String → Option String

/-- What a command leaves behind. -/
structure Report where
  code : Nat
  out : String
  err : String
deriving DecidableEq, Repr

/-- Why a command fails, from the outermost reason to the innermost. -/
abbrev Reasons := List String

/-- A command that failed, after having written something. -/
def Report.failed (out : String) (reasons : Reasons) : Report :=
  ⟨1, out, "error: " ++ ": ".intercalate reasons ++ "\n"⟩

/-- The error and those it was caused by. The wording of an error with a cause already ends in
that of the cause. -/
def reasonsOf : RenderError → Reasons
  | .located p source => (RenderError.located p source).message :: reasonsOf source
  | .invalidTemplate name source =>
    [(RenderError.invalidTemplate name source).message, source.message]
  | e => [e.message]

/-- The reasons of any error. -/
def reasons : Error → Reasons
  | .template e => [e.message]
  | .render e => reasonsOf e

/-! ## A place to render to -/

/-- A host without functions that writes to a buffer. -/
def plainHost : Host where
  State := Buffer
  Pending := Empty
  Helper := Empty
  write text b := (.ok (), b.write text)
  flush b := (.ok (), b)
  call _ _ _ b := (.ready (.ok .undefined), b)
  poll d := nomatch d
  help _ _ _ b := (none, b)
  turn h := nomatch h

/-- More steps than any render takes that comes to an end in practice. -/
def maxSteps : Nat := Nat.pow 2 60

/-! ## Names of files -/

/-- The parts of a path, without those that lead nowhere. -/
def partsOf (path : String) : List String :=
  (path.splitOn "/").filter fun part => part ≠ "" && part ≠ "."

/-- The name of the file at the end of a path. -/
def fileName? (path : String) : Option String :=
  (partsOf path).getLast?.filter (· ≠ "..")

/-- The name under which a file is a template. -/
def templateName (path : String) : Except Reasons String :=
  match fileName? path with
  | some name => .ok name
  | none => .error [path ++ " has no usable file name"]

/-! ## Commands -/

section Commands

variable {m : Type → Type} [Monad m]

/-- The text of a file. -/
def read (s : Surroundings m) (path : String) : ExceptT Reasons m String := do
  match ← s.readFile path with
  | .ok text => return text
  | .error e => throw ["failed to read " ++ path, e]

/-- The data to render with: from the command line, from a file or from the input, which is
asked for by a dash. -/
def loadData (s : Surroundings m) (data json : Option String) : ExceptT Reasons m Value := do
  let text ← match data, json with
    | _, some text => pure text
    | some path, none =>
      if path = "-" then
        match ← s.readInput with
        | .ok text => pure text
        | .error e => throw ["failed to read data from stdin", e]
      else read s path
    | none, none => return .null
  match Json.read? text with
  | some d => return (Value.ofJson 0 d).1
  | none => throw ["data is not valid JSON"]

/-- The catalog with the templates in files, each under the name of its file. -/
def loadTemplates (s : Surroundings m) : List String → Catalog → ExceptT Reasons m Catalog
  | [], catalog => return catalog
  | path :: paths, catalog => do
    let name ← ExceptT.mk (pure (templateName path))
    loadTemplates s paths (catalog.add name (← read s path))

/-- Renders a file. What was written before an error stays. -/
def render (s : Surroundings m) (options : Options) (template : String)
    (data json : Option String) (inclusions : List String) : m Report := do
  let loaded ← ExceptT.run (m := m) do
    let data ← loadData s data json
    let catalog ← loadTemplates s inclusions .empty
    let name ← ExceptT.mk (pure (templateName template))
    return (data, name, catalog.add name (← read s template))
  match loaded with
  | .error e => return .failed "" e
  | .ok (data, name, catalog) =>
    let e := Environment.ofOptions options
    let rendered : Option (Rendered plainHost) :=
      e.renderNamed maxSteps options.timeout catalog name data Buffer.empty
    match rendered with
    | some ⟨.ok (), written, _⟩ => return ⟨0, Buffer.contents written, ""⟩
    | some ⟨.error e, written, _⟩ =>
      return .failed (Buffer.contents written) (("failed to render " ++ template) :: reasons e)
    | none => return .failed "" ["failed to render " ++ template, "the render does not end"]

/-- Compiles files one after the other. -/
def check (s : Surroundings m) (options : Options) (total : Nat) :
    List String → String → Nat → m Report
  | [], out, 0 => return ⟨0, out, ""⟩
  | [], out, failed =>
    return ⟨1, out, toString failed ++ " of " ++ toString total ++ " template(s) failed\n"⟩
  | path :: paths, out, failed => do
    match ← ExceptT.run (read s path) with
    | .error e => return .failed out e
    | .ok source =>
      match (Environment.ofOptions options).compile source with
      | .ok _ => check s options total paths (out ++ "ok      " ++ path ++ "\n") failed
      | .error e =>
        let line := "invalid " ++ path ++ ": " ++ e.message ++ "\n"
        check s options total paths (out ++ line) (failed + 1)

/-- Shows the segments of a file. -/
def segments (s : Surroundings m) (path : String) : m Report := do
  match ← ExceptT.run (read s path) with
  | .error e => return .failed "" e
  | .ok source =>
    match Segment.parse source with
    | .error e => return .failed "" ["failed to parse " ++ path, e.message]
    | .ok segments =>
      let d := Json.list (segments.map fun segment => segment.toJson fun x => .number (.real x))
      return ⟨0, d.pretty ++ "\n", ""⟩

/-- Runs a command. -/
def Arguments.run (s : Surroundings m) (a : Arguments) : m Report :=
  let options := a.options s.setting
  match a.command with
  | .render template data json inclusions => render s options template data json inclusions
  | .check templates => check s options templates.length templates "" 0
  | .segments path => segments s path

/-- The name and version of the program. -/
def version : String := "weft 0.3.0\n"

/-- How the program is used. -/
def usage : String :=
  "Usage: weft [--debug] [--timeout-ms <MS>] <COMMAND>\n\n" ++
  "Commands:\n" ++
  "  render <TEMPLATE> [-d <FILE> | --json <TEXT>] [-p <FILE>]...\n" ++
  "  check <TEMPLATE>...\n" ++
  "  segments <TEMPLATE>\n"

/-- Does what the arguments ask for. -/
def run (s : Surroundings m) (args : List String) : m Report :=
  match Arguments.read args with
  | .ok a => a.run s
  | .error .version => return ⟨0, version, ""⟩
  | .error .help => return ⟨0, usage, ""⟩
  | .error .unusable => return ⟨2, "", usage⟩

end Commands

end Stencil.CommandLine
