import Stencil.Text.Blank

/-!
# Stencil.Options — how templates are compiled and rendered

Options come from the program's environment variables (`Options.ofVariables`) and may be
changed afterwards. A variable that says nothing usable leaves its option as it is by
default.
-/

namespace Stencil

/-- Options of compilation and rendering. -/
structure Options where
  /-- Whether errors show details and places. -/
  debug : Bool
  /-- The deadline of every render, in milliseconds. -/
  timeout : Option Nat
deriving DecidableEq, Repr

namespace Options

/-- The options that hold when nothing is said. -/
def default : Options := ⟨false, none⟩

/-- The variable that asks for details. -/
def debugVariable : String := "WEFT_DEBUG"

/-- The variable that sets the deadline. -/
def timeoutVariable : String := "WEFT_TIMEOUT_MS"

/-- Whether a text says yes, in letters of either case. -/
def saysYes (text : String) : Bool :=
  let word := (Text.trim text.toList).map Char.toLower
  word = ['1'] || word = "true".toList

/-- A number of milliseconds: digits, perhaps with a plus sign, and below `2 ^ 64`. -/
def milliseconds? (cs : List Char) : Option Nat :=
  let digits := match cs with
    | '+' :: digits => digits
    | digits => digits
  if digits.isEmpty || !digits.all Char.isDigit then none
  else
    let n := digits.foldl (fun n c => n * 10 + (c.toNat - '0'.toNat)) 0
    if n < Nat.pow 2 64 then some n else none

/-- The options that variables ask for. -/
def ofVariables (setting : String → Option String) : Options where
  debug := ((setting debugVariable).map saysYes).getD false
  timeout := do milliseconds? (Text.trim (← setting timeoutVariable).toList)

end Options

end Stencil
