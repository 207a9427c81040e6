import Stencil.CommandLine.Basic

/-!
# Stencil.Main — the program

Runs a command on the files, the input and the variables of the system.
-/

open Stencil

/-- A text from bytes, which must be those of a text. -/
def textOfBytes (bytes : ByteArray) : Except String String :=
  match String.fromUTF8? bytes with
  | some text => .ok text
  | none => .error "stream did not contain valid UTF-8"

/-- The wording of the errors that reading a file may end in. -/
def describeError : IO.Error → String
  | .noFileOrDirectory .. => "No such file or directory (os error 2)"
  | .permissionDenied .. => "Permission denied (os error 13)"
  | .inappropriateType .. => "Is a directory (os error 21)"
  | e => toString e

/-- The text of a file. -/
def readFile (path : String) : IO (Except String String) :=
  try
    return textOfBytes (← IO.FS.readBinFile path)
  catch e => return .error (describeError e)

/-- Reads to the end of a stream. -/
partial def readAll (stream : IO.FS.Stream) (found : ByteArray) : IO ByteArray := do
  let bytes ← stream.read 65536
  if bytes.isEmpty then return found else readAll stream (found ++ bytes)

/-- The text of the input. -/
def readInput : IO (Except String String) := do
  return textOfBytes (← readAll (← IO.getStdin) .empty)

def main (args : List String) : IO UInt32 := do
  let settings ← [Options.debugVariable, Options.timeoutVariable].filterMapM fun name => do
    return (← IO.getEnv name).map fun value => (name, value)
  let report ← CommandLine.run ⟨readFile, readInput, fun name => List.lookup name settings⟩ args
  IO.print report.out
  IO.eprint report.err
  return .ofNat report.code
