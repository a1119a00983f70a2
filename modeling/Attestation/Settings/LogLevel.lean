import Attestation.Word

/-!
# Log levels

A log level is named by a word, in letters of either case, or by its number from one to five.
-/

namespace Attestation

/-- How much is logged. -/
inductive LogLevel where
  | error
  | warn
  | info
  | debug
  | trace
deriving DecidableEq

namespace LogLevel

/-- The levels in the order of their numbers. -/
def all : List LogLevel := [error, warn, info, debug, trace]

/-- The name of a level. -/
def name : LogLevel → String
  | error => "ERROR"
  | warn => "WARN"
  | info => "INFO"
  | debug => "DEBUG"
  | trace => "TRACE"

/-- The level that a text names; a text that names none means `info`. -/
def ofText (text : String) : LogLevel :=
  let level? := match Word.ofText? text with
    | some number => if number = 0 then none else all[number.toNat - 1]?
    | none => all.find? fun level => level.name.toList == text.toList.map Char.toUpper
  level?.getD info

end LogLevel

end Attestation
