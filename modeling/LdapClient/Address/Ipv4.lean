/-
# LdapClient.Address.Ipv4 -- IPv4 addresses among domains

A domain whose last label is a number is meant to be an IPv4 address.  Each label may be decimal,
octal or hexadecimal, and the last one fills all the octets that the others leave.
-/
import LdapClient.Text.Decimal
import LdapClient.Text.Hex

namespace LdapClient.Url.Ipv4

open Text

/-- A number of an address: decimal, octal after `0`, hexadecimal after `0x`.  `some none` is a
number too large for 32 bits. -/
def number? (label : List Char) : Option (Option Nat) :=
  let read (base : Nat) (digits : List Char) : Option (Option Nat) :=
    if digits.isEmpty then some (some 0)
    else
      match digits.mapM hexValue with
      | none => none
      | some values =>
        if values.all fun d => Nat.blt d base then
          let n := values.foldl (fun n d => n * base + d) 0
          some (if Nat.blt n 4294967296 then some n else none)
        else none
  match label with
  | [] => none
  | ['0'] => some (some 0)
  | '0' :: 'x' :: digits => read 16 digits
  | '0' :: 'X' :: digits => read 16 digits
  | '0' :: digits => read 8 digits
  | digits => read 10 digits

/-- The labels without an empty one at the end. -/
def withoutRoot (labels : List (List Char)) : List (List Char) :=
  if labels.getLast? = some [] then labels.dropLast else labels

/-- The last label is a number, or looks like a decimal one. -/
def isMeant (labels : List (List Char)) : Bool :=
  match (withoutRoot labels).getLast? with
  | none => false
  | some last => (!last.isEmpty && last.all Decimal.isDigit) || (number? last).isSome

/-- Up to four numbers, all but the last below 256, the last filling the rest of 32 bits. -/
def isAddress (labels : List (List Char)) : Bool :=
  match (withoutRoot labels).mapM number? with
  | none => false
  | some numbers =>
    match numbers.mapM id with
    | none => false
    | some values =>
      Nat.ble values.length 4 && values.dropLast.all (fun n => Nat.blt n 256) &&
        Nat.blt ((values.getLast?).getD 0) (Nat.pow 256 (5 - values.length))

end LdapClient.Url.Ipv4
