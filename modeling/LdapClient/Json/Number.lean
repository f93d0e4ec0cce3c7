/-
# LdapClient.Json.Number -- the value of a number in a document

A number is kept as it is written.  Its value is a whole number as long as it has neither fraction
nor exponent and fits in 64 bits, without a sign or with one; every other number, `-0` among them,
is a floating-point number.  That one is the leading digits that fit in 64 bits, rounded to a
double, times or divided by a power of ten, rounded again; a result beyond all doubles is refused.
-/
import LdapClient.Text.Shortest
import LdapClient.Json.Fault

namespace LdapClient.Json

/-- A number as written, in digits. -/
structure NumberText where
  negative : Bool
  whole : List Nat
  fraction : Option (List Nat)
  /-- A sign, negative if `true`, and digits. -/
  exponent : Option (Bool × List Nat)
deriving DecidableEq

/-- The value of a number. -/
inductive Number where
  | integer (value : Int)
  | float (value : Float)

namespace NumberText

/-- The first number that needs more than 64 bits. -/
def wordLimit : Nat :=
  Nat.pow 2 64

/-- The largest exponent that is read digit by digit. -/
def exponentLimit : Nat :=
  2147483647

/-- Appends digits as long as the number fits in 64 bits; the rest is what did not fit. -/
def gather (n : Nat) : List Nat → Nat × List Nat
  | [] => (n, [])
  | d :: rest => if Nat.blt (n * 10 + d) wordLimit then gather (n * 10 + d) rest else (n, d :: rest)

/-- Ten to a power as a double. -/
def tenTo (e : Nat) : Float :=
  Float.ofScientific 1 false e

/-- A whole number as a double. -/
def floatOf (n : Nat) : Float :=
  Float.ofScientific n false 0

/-- `digits * 10^e` as a double, if there is one. -/
def scaled (digits : Nat) (e : Int) : Option Float :=
  let f := floatOf digits
  match e with
  | .ofNat k =>
    if digits = 0 then some f
    else if Nat.ble k 308 then
      let g := f * tenTo k
      if g.isInf then none else some g
    else none
  | .negSucc k =>
    let down := k + 1
    if digits = 0 then some f
    else if Nat.ble down 308 then some (f / tenTo down)
    else if Nat.ble down 616 then some (f / tenTo 308 / tenTo (down - 308))
    else some (floatOf 0)

/-- The value of a list of digits. -/
def valueOf (digits : List Nat) : Nat :=
  digits.foldl (fun n d => n * 10 + d) 0

/-- The magnitude of a number with a fraction, an exponent or too many digits. -/
def magnitude (text : NumberText) : Option Float :=
  let (head, skipped) := gather 0 text.whole
  let fraction := text.fraction.getD []
  let (digits, left) := gather head fraction
  let e : Int := (skipped.length : Int) - ((fraction.length - left.length : Nat) : Int)
  match text.exponent with
  | none => scaled digits e
  | some (down, written) =>
    let size := valueOf written
    if Nat.ble size exponentLimit then scaled digits (if down then e - size else e + size)
    else if digits = 0 || down then some (floatOf 0)
    else none

/-- The value of a number, if there is one. -/
def value (text : NumberText) : Option Number :=
  let (n, skipped) := gather 0 text.whole
  if text.fraction.isNone && text.exponent.isNone && skipped.isEmpty then
    if !text.negative then some (.integer n)
    else if n = 0 || Nat.blt (Nat.pow 2 63) n then some (.float (-(floatOf n)))
    else some (.integer (-(n : Int)))
  else
    text.magnitude.map fun f => .float (if text.negative then -f else f)

end NumberText

/-- The description of a number that was not wanted. -/
def Number.found : Number → Found
  | .integer value => .integer value
  | .float value => .float (Text.Shortest.ofFloat value)

end LdapClient.Json
