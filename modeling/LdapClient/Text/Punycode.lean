/-
# LdapClient.Text.Punycode -- texts of any script in ASCII letters and digits

Punycode writes the ASCII characters of a text first, then a hyphen, then one number for each other
character.  The number says how far the insertion goes: it counts the places where a character
could be put in, first those for the code point reached so far, then those for the next one, and
so on.  Digits of a number are worth more from one to the next, and a digit below a threshold ends
the number; the thresholds follow the size of the numbers read before.
-/
namespace LdapClient.Text.Punycode

/-! ## Digits and thresholds -/

/-- The value of a digit: the letters stand for 0 to 25, the decimal digits for 26 to 35. -/
def digit? (c : Char) : Option Nat :=
  let n := c.toLower.toNat
  if Nat.ble 97 n && Nat.ble n 122 then some (n - 97)
  else if Nat.ble 48 n && Nat.ble n 57 then some (n - 48 + 26)
  else none

/-- The threshold of a digit at a position counted in steps of 36, between 1 and 26. -/
def threshold (position bias : Nat) : Nat :=
  min 26 (max 1 (position - bias))

/-- How often a number has to be divided by 35 until it is at most 455, and what is left. -/
def scaleDown (n : Nat) : Nat × Nat :=
  if 455 < n then
    let (times, left) := scaleDown (n / 35)
    (times + 1, left)
  else (0, n)
termination_by n
decreasing_by exact Nat.div_lt_self (by omega) (by omega)

/-- The bias after a number: the first number counts less, and every number counts less the more
characters there are. -/
def adapt (number count : Nat) (isFirst : Bool) : Nat :=
  let damped := if isFirst then number / 700 else number / 2
  let (times, left) := scaleDown (damped + damped / count)
  times * 36 + 36 * left / (left + 38)

/-! ## Reading -/

/-- A text on its way.  `place` counts the places passed in the text since the code point `point`
was reached, `start` is what it was before the number that is being read; `weight` is the worth of
the next digit, and `position` that of its threshold. -/
structure Progress where
  text : List Char
  point : Nat
  place : Nat
  start : Nat
  weight : Nat
  position : Nat
  bias : Nat

/-- The beginning: the ASCII characters of a text. -/
def Progress.initial (ascii : List Char) : Progress :=
  ⟨ascii, 128, 0, 0, 1, 36, 72⟩

/-- Numbers have to stay below this bound. -/
def bound : Nat := 4294967296

/-- Puts in the character that a finished number says. -/
def Progress.insert? (p : Progress) : Option Progress :=
  let count := p.text.length + 1
  let point := p.point + p.place / count
  if point.isValidChar then
    let spot := p.place % count
    some
      { text := p.text.insertIdx spot (Char.ofNat point)
        point := point
        place := spot + 1
        start := spot + 1
        weight := 1
        position := 36
        bias := adapt (p.place - p.start) count (Nat.beq p.start 0) }
  else none

/-- Reads one digit. -/
def Progress.read? (p : Progress) (c : Char) : Option Progress := do
  let digit ← digit? c
  let p := { p with place := p.place + digit * p.weight }
  let limit := threshold p.position p.bias
  if Nat.ble bound p.place then none
  else if Nat.blt digit limit then p.insert?
  else if Nat.ble bound (p.weight * (36 - limit)) then none
  else some { p with weight := p.weight * (36 - limit), position := p.position + 36 }

/-- The ASCII characters before the last hyphen, and the digits behind it.  A hyphen at the very
beginning is no mark. -/
def sections (text : List Char) : List Char × List Char :=
  let digits := (text.reverse.takeWhile (· ≠ '-')).reverse
  let front := text.take (text.length - digits.length - 1)
  if front.isEmpty then ([], text) else (front, digits)

/-- The text behind a Punycode text. -/
def decode? (text : List Char) : Option (List Char) := do
  let (ascii, digits) := sections text
  if ascii.all fun c => Nat.blt c.toNat 128 then
    let p ← digits.foldlM Progress.read? (Progress.initial ascii)
    if Nat.beq p.position 36 then some p.text else none
  else none

end LdapClient.Text.Punycode
