/-
# LdapClient.Address.Ipv6 -- numeric hosts between brackets

An IPv6 address is eight groups of sixteen bits.  Written, the groups are separated by colons, one
run of zero groups may be left out between two colons, and the last two groups may be four decimal
numbers with dots.  `display` writes the shortest form: small letters, no leading zeros, and the
first of the longest runs of at least two zero groups left out.
-/
import LdapClient.Text.Cut
import LdapClient.Text.Decimal
import LdapClient.Text.Hex
import LdapClient.Text.Quoted

namespace LdapClient.Ipv6

open Text

/-- One to four hexadecimal digits. -/
def group? (digits : List Char) : Option Nat :=
  if digits.isEmpty || Nat.blt 4 digits.length then none
  else (digits.mapM hexValue).map fun values => values.foldl (fun n d => n * 16 + d) 0

/-- A number up to 255 without leading zeros. -/
def dotted? (digits : List Char) : Option Nat :=
  match Decimal.unsigned? digits with
  | none => none
  | some n => if Nat.ble n 255 && Decimal.ofNat n == String.ofList digits then some n else none

/-- Two groups written as four decimal numbers. -/
def quad? (text : List Char) : Option (List Nat) :=
  match (cutAll '.' text).mapM dotted? with
  | some [a, b, c, d] => some [a * 256 + b, c * 256 + d]
  | _ => none

/-- Groups of which the last may be a dotted quadruple. -/
def groups? : List (List Char) → Option (List Nat)
  | [] => some []
  | [piece] =>
    match group? piece with
    | some n => some [n]
    | none => quad? piece
  | piece :: more => (group? piece).bind fun n => (groups? more).map (n :: ·)

/-- The text before and after the first two colons in a row. -/
def cutGap : List Char → Option (List Char × List Char)
  | [] => none
  | [_] => none
  | a :: b :: rest =>
    if a = ':' && b = ':' then some ([], rest)
    else (cutGap (b :: rest)).map fun parts => (a :: parts.1, parts.2)

/-- Reads the groups on one side of the gap, if there are any. -/
def side? (read : List (List Char) → Option (List Nat)) (text : List Char) : Option (List Nat) :=
  if text.isEmpty then some [] else read (cutAll ':' text)

/-- Reads the eight groups of an address. -/
def parse? (text : List Char) : Option (List Nat) :=
  match cutGap text with
  | none =>
    match groups? (cutAll ':' text) with
    | some groups => if groups.length = 8 then some groups else none
    | none => none
  | some (front, back) =>
    match side? (fun pieces => pieces.mapM group?) front, side? groups? back with
    | some left, some right =>
      if Nat.ble (left.length + right.length) 7 then
        some (left ++ List.replicate (8 - left.length - right.length) 0 ++ right)
      else none
    | _, _ => none

/-! ## Writing -/

/-- How many zero groups stand in front. -/
def zerosInFront (groups : List Nat) : Nat :=
  (groups.takeWhile fun n => Nat.beq n 0).length

/-- Start and length of the first longest run of zero groups, counted from `start` on. -/
def longestZeros (start : Nat) : List Nat → Nat × Nat
  | [] => (start, 0)
  | n :: rest =>
    let here := zerosInFront (n :: rest)
    let later := longestZeros (start + 1) rest
    if Nat.blt here later.2 then later else (start, here)

/-- Groups in hexadecimal digits, between colons. -/
def displayGroups (groups : List Nat) : String :=
  join ":" (groups.map fun n => String.ofList (hexDigits n))

/-- The shortest form of an address. -/
def display (groups : List Nat) : String :=
  let run := longestZeros 0 groups
  if Nat.blt run.2 2 then displayGroups groups
  else displayGroups (groups.take run.1) ++ "::" ++ displayGroups (groups.drop (run.1 + run.2))

end LdapClient.Ipv6
