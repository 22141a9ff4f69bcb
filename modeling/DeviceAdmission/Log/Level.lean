/-!
# Log levels

Five levels, from errors to traces, by name or by number.
-/
namespace DeviceAdmission.Log

inductive Level where
  | error | warn | info | debug | trace
  deriving DecidableEq, Repr

namespace Level

def all : List Level := [.error, .warn, .info, .debug, .trace]

/-- The number of a level, from one; a level lets through the records of lower numbers. -/
def number : Level → Nat
  | .error => 1
  | .warn => 2
  | .info => 3
  | .debug => 4
  | .trace => 5

def name : Level → String
  | .error => "error"
  | .warn => "warn"
  | .info => "info"
  | .debug => "debug"
  | .trace => "trace"

/-- The name in records. -/
def heading (level : Level) : String := level.name.toUpper

/-- The greatest number that is read. -/
def maxNumber : Nat := 0xFFFF_FFFF_FFFF_FFFF

/-- Digits with at most one plus sign before them. -/
def number? (text : String) : Option Nat :=
  let cs := text.toList
  let digits := if cs.head? == some '+' then cs.drop 1 else cs
  if digits.isEmpty || !digits.all Char.isDigit then none
  else
    let n := Nat.ofDigitChars 10 digits 0
    if n ≤ maxNumber then some n else none

/-- A level by its number or by its name in any letter case. -/
def parse? (text : String) : Option Level :=
  match number? text with
  | some n => all.find? (·.number == n)
  | none => all.find? (·.name == text.toLower)

end Level

end DeviceAdmission.Log
