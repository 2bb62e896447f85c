import Switchboard.Decimal
import Switchboard.Ordinal

/-!
Lengths of time in whole nanoseconds, with fewer than 2^64 whole seconds. A length is written as
its parts from years down to nanoseconds, each part as large as it can be, parts of zero left out.
A month is 30.44 days and a year 365.25 days.
-/
namespace Switchboard

def durationLimit : Nat := wordLimit * 1000000000

structure Duration where
  nanoseconds : Nat
  bounded : nanoseconds < durationLimit
  deriving DecidableEq, Repr

/-- A unit in which durations are written: its nanoseconds, and its name for one and for more. -/
structure Denomination where
  size : Nat
  name : String
  plural : String

namespace Duration

def ofSeconds (seconds : UInt64) : Duration :=
  ⟨seconds.toNat * 1000000000,
    Nat.mul_lt_mul_of_pos_right (UInt64.toNat_lt seconds) (by decide)⟩

def zero : Duration := ⟨0, by decide⟩

def denominations : List Denomination :=
  [⟨31557600000000000, "year", "years"⟩, ⟨2630016000000000, "month", "months"⟩,
    ⟨86400000000000, "day", "days"⟩, ⟨3600000000000, "h", "h"⟩, ⟨60000000000, "m", "m"⟩,
    ⟨1000000000, "s", "s"⟩, ⟨1000000, "ms", "ms"⟩, ⟨1000, "us", "us"⟩, ⟨1, "ns", "ns"⟩]

/-- How often each unit fits into what the larger ones leave over. -/
def parts : List Denomination → Nat → List (Nat × Denomination)
  | [], _ => []
  | unit :: smaller, n => (n / unit.size, unit) :: parts smaller (n % unit.size)

def partText (part : Nat × Denomination) : String :=
  Decimal.text part.1 ++ (if part.1 = 1 then part.2.name else part.2.plural)

def text (duration : Duration) : String :=
  match (parts denominations duration.nanoseconds).filter fun part => part.1 != 0 with
  | [] => "0s"
  | shown => " ".intercalate (shown.map partText)

end Duration
end Switchboard
