import CapabilityGuard.Text.Digit

/-! How much a service says. A level is named, in any case of its letters, or numbered from 1,
the least, to 5. -/
namespace CapabilityGuard

inductive LogLevel
  | error
  | warn
  | info
  | debug
  | trace
deriving DecidableEq

namespace LogLevel

def name : LogLevel → String
  | error => "ERROR"
  | warn => "WARN"
  | info => "INFO"
  | debug => "DEBUG"
  | trace => "TRACE"

def all : List LogLevel := [error, warn, info, debug, trace]

/-- The number spelled by decimal digits, with one plus sign in front or without. -/
def numbered? (text : List Char) : Option Nat :=
  let digits := match text with
    | '+' :: rest => rest
    | text => text
  if digits ≠ [] ∧ digits.all Digit.isDecimal then some (Digit.numeral 10 digits) else none

def ofText? (text : String) : Option LogLevel :=
  match numbered? text.toList with
  | some 0 => none
  | some (n + 1) => all[n]?
  | none => all.find? fun level => level.name = String.ofList (text.toList.map Char.toUpper)

end LogLevel

end CapabilityGuard
