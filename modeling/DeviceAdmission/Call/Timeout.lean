/-!
# Timeouts of calls

A timeout is one to eight digits and a unit. Durations count nanoseconds.
-/
namespace DeviceAdmission.Call

/-- A span of time in nanoseconds. -/
abbrev Duration := Nat

namespace Duration

def ofMillis (n : Nat) : Duration := n * 1_000_000

def ofMicros (n : Nat) : Duration := n * 1_000

/-- Whole seconds. -/
def seconds (d : Duration) : Nat := d / 1_000_000_000

/-- Nanoseconds beyond the whole seconds. -/
def nanoseconds (d : Duration) : Nat := d % 1_000_000_000

/-- Milliseconds, rounded up. -/
def millisUp (d : Duration) : Nat := (d + 999_999) / 1_000_000

end Duration

namespace Timeout

/-- The nanoseconds in a unit. -/
def unit? : Char → Option Duration
  | 'H' => some 3_600_000_000_000
  | 'M' => some 60_000_000_000
  | 'S' => some 1_000_000_000
  | 'm' => some 1_000_000
  | 'u' => some 1_000
  | 'n' => some 1
  | _ => none

/-- Reads a timeout; anything but one to eight digits and a unit is refused. -/
def parse? (text : String) : Option Duration :=
  match text.toList.reverse with
  | [] => none
  | unit :: digits =>
    if digits.isEmpty || 8 < digits.length || !digits.all Char.isDigit then none
    else (unit? unit).map (Nat.ofDigitChars 10 digits.reverse 0 * ·)

end Timeout

end DeviceAdmission.Call
