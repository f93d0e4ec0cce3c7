/-
# LdapClient.Duration -- lengths of time

Limits are counted in nanoseconds.  The description of a duration counts in the largest unit that it
holds a whole one of, and puts the rest behind a point: nothing is rounded, and no zeros stand at
the end.
-/
import LdapClient.Text.Decimal

namespace LdapClient

open Text

/-- A length of time. -/
structure Duration where
  nanos : Nat
deriving DecidableEq

namespace Duration

/-- So many seconds. -/
def ofSeconds (seconds : Nat) : Duration :=
  ⟨seconds * 1000000000⟩

/-- The digits behind the point of a rest in units of this size: at most so many, and none behind
the last that is not zero. -/
def decimals (size : Nat) : Nat → Nat → List Char
  | 0, _ => []
  | places + 1, rest =>
    if rest = 0 then []
    else Nat.digitChar (10 * rest / size) :: decimals size places (10 * rest % size)

/-- A duration in units of this size, which take this number of digits behind the point. -/
def describeIn (size places : Nat) (unit : String) (d : Duration) : String :=
  let rest := d.nanos % size
  Decimal.ofNat (d.nanos / size) ++
    (if rest = 0 then "" else "." ++ String.ofList (decimals size places rest)) ++ unit

/-- The description of a duration. -/
def describe (d : Duration) : String :=
  if 1000000000 ≤ d.nanos then d.describeIn 1000000000 9 "s"
  else if 1000000 ≤ d.nanos then d.describeIn 1000000 6 "ms"
  else if 1000 ≤ d.nanos then d.describeIn 1000 3 "µs"
  else d.describeIn 1 0 "ns"

end Duration

end LdapClient
