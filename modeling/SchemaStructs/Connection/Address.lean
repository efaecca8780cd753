import SchemaStructs.Numeric.Digits
import SchemaStructs.Text.Cut

/-! # Addresses of hosts -/

namespace SchemaStructs.Connection

open Numeric Text

/-- A number up to 255 without leading zeros. -/
def isOctet (s : List Char) : Bool :=
  !s.isEmpty && s.length ≤ 3 && s.all Char.isDigit && (s == ['0'] || s.head? != some '0') &&
    digitsValue s ≤ 255

def isIpv4 (s : List Char) : Bool :=
  let octets := splitAtEach '.' s
  octets.length == 4 && octets.all isOctet

/-- A group of one to four hexadecimal digits. -/
def isHextet (s : List Char) : Bool := !s.isEmpty && s.length ≤ 4 && s.all isHexDigit

/-- The groups of an address; an IPv4 address at the end stands for two. -/
def hextets? (s : List Char) : Option (List (List Char)) :=
  let parts := splitAtEach ':' s
  if parts.length < 3 then none
  else match parts.getLast? with
    | some last =>
      if last.contains '.' then
        if isIpv4 last then some (parts.dropLast ++ [['0'], ['0']]) else none
      else some parts
    | none => none

/-- The number of groups on one side of an omitted run; an end of the address there is written as
one empty group. -/
def sideLength? (side : List (List Char)) : Option Nat :=
  if side == [[]] then some 0 else if side.all isHextet then some side.length else none

/-- One run of zeros may be left out. -/
def hasOmittedRun (before after : List (List Char)) : Bool :=
  match sideLength? before, sideLength? after with
  | some m, some n => m + n ≤ 7
  | _, _ => false

def isIpv6Groups (groups : List (List Char)) : Bool :=
  if 9 < groups.length then false
  else
    let inner := groups.tail.dropLast
    match inner.idxOf? [] with
    | none => groups.length == 8 && groups.all isHextet
    | some i => hasOmittedRun (groups.take (i + 1)) (groups.drop (i + 2))

/-- An IPv6 address, with a zone after a percent sign or without. -/
def isIpv6 (s : List Char) : Bool :=
  let (address, zone) := cutFirst '%' s
  zone.all (fun z => !z.isEmpty && !z.contains '%') && !s.contains '/' &&
    (hextets? address).any isIpv6Groups

/-- An address of a later version: `v`, its number and a text of its own form. -/
def isFutureAddress (s : List Char) : Bool :=
  match s with
  | 'v' :: rest =>
    let (version, text) := cutFirst '.' rest
    !version.isEmpty && version.all isHexDigit && text.any (!·.isEmpty)
  | _ => false

end SchemaStructs.Connection
