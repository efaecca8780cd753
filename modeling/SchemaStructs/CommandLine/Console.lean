import SchemaStructs.Run.Failure

/-! # Consoles

A command hands all that it shows to a console, which reads the markup. What a console makes of
markup is not for commands to know: a console that cannot read it ends the command. -/

namespace SchemaStructs.CommandLine

open Markup Run

/-- What a command shows. Text is marked up. -/
inductive Printed where
  | text (markup : String)
  | table (title : String) (headers : List String) (rows : List (List String))
  | panel (title content : String)
deriving DecidableEq, Repr

/-- How a command ends: with an exit status, and with the failure that it did not report, if any. -/
structure Outcome where
  status : Nat
  unreported : Option Failure := none
  printed : List Printed := []

/-- What a console is given: a line of progress, or what is printed. -/
inductive Shown where
  | progress (markup : String)
  | printed (line : Printed)
deriving DecidableEq, Repr

/-- A console tells what is wrong with markup that it cannot read. -/
structure Console where
  accept : Shown → Except MarkupError Unit

namespace Console

/-- The lines that are printed, up to the first that cannot be, and what is wrong with it. -/
def printLines (console : Console) : List Printed → List Printed × Option MarkupError
  | [] => ([], none)
  | line :: rest =>
    match console.accept (.printed line) with
    | .error e => ([], some e)
    | .ok () =>
      let (printed, e) := console.printLines rest
      (line :: printed, e)

/-- Prints what a command shows at its end. A line that cannot be printed is a failure of its
own. -/
def print (console : Console) (outcome : Outcome) : Outcome :=
  match console.printLines outcome.printed with
  | (_, none) => outcome
  | (printed, some e) => ⟨1, some (.markup e), printed⟩

/-- A console that reads the markup of all it is given. -/
def terminal : Console where
  accept
    | .progress markup | .printed (.text markup) => check markup
    | .printed (.table _ _ rows) => rows.forM fun row => row.forM check
    | .printed (.panel _ content) => check content

/-- A console that shows progress only, and takes what is printed as it is. -/
def recorder : Console where
  accept
    | .progress markup => check markup
    | .printed _ => .ok ()

end Console

end SchemaStructs.CommandLine
