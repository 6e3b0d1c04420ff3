import OrderedEcho.Address
import OrderedEcho.BigEndian

/-!
# The text of addresses

`IpAddress.render` and `SocketAddress.render` write the canonical text of an address, and
`IpAddress.parse?` and `SocketAddress.parse?` read one.  Readers work on lists of characters and
return what they leave unread; the two `parse?` functions accept only texts that are read to the
end.

An IPv4 address is four decimal octets without leading zeros.  An IPv6 address is eight hexadecimal
groups; `::` may stand once for one or more zero groups, and the last two groups may be written as
an IPv4 address.
-/

namespace OrderedEcho

open BigEndian

/-! ## Writing -/

namespace IpAddress

def renderQuad (bits : Nat) : String :=
  ".".intercalate ((digits 256 4 bits).map toString)

/-- Groups in hexadecimal, separated by colons. -/
def renderGroups (groups : List Nat) : String :=
  ":".intercalate (groups.map fun g => String.ofList (Nat.toDigits 16 g))

/-- The number of zero groups that `groups` starts with. -/
def zeroRun (groups : List Nat) : Nat :=
  (groups.takeWhile (· == 0)).length

/-- Start and length of the longest run of zero groups, the first one of several. -/
def longestZeroRun (groups : List Nat) : Nat × Nat :=
  (List.range groups.length).foldl
    (fun best i => if best.2 < zeroRun (groups.drop i) then (i, zeroRun (groups.drop i)) else best)
    (0, 0)

/-- The text of the eight groups of an IPv6 address.  The longest run of two or more zero groups is
written as `::`. -/
def renderCompressed (groups : List Nat) : String :=
  let (start, length) := longestZeroRun groups
  if 1 < length then
    renderGroups (groups.take start) ++ "::" ++ renderGroups (groups.drop (start + length))
  else renderGroups groups

/-- The canonical text of an address.  An IPv4 address mapped into the IPv6 range keeps its dotted
quad. -/
def render : IpAddress → String
  | v4 bits => renderQuad bits.toNat
  | v6 bits =>
    if bits.toNat / 0x100000000 = 0xffff then "::ffff:" ++ renderQuad (bits.toNat % 0x100000000)
    else renderCompressed (digits 0x10000 8 bits.toNat)

end IpAddress

/-- The canonical text of a socket address: an IPv6 address stands in brackets, together with its
zone if it has one. -/
def SocketAddress.render (a : SocketAddress) : String :=
  match a.ip with
  | .v4 _ => a.ip.render ++ ":" ++ toString a.port.toNat
  | .v6 _ =>
    let zone := if a.zone = 0 then "" else "%" ++ toString a.zone.toNat
    "[" ++ a.ip.render ++ zone ++ "]:" ++ toString a.port.toNat

/-! ## Reading -/

namespace Address

/-- The value of a digit in a base of at most sixteen. -/
def digit? (base : Nat) (c : Char) : Option Nat :=
  let d :=
    if '0' ≤ c ∧ c ≤ '9' then c.toNat - '0'.toNat
    else if 'a' ≤ c ∧ c ≤ 'f' then c.toNat - 'a'.toNat + 10
    else if 'A' ≤ c ∧ c ≤ 'F' then c.toNat - 'A'.toNat + 10
    else base
  if d < base then some d else none

/-- Splits off the digits that the text starts with. -/
def spanDigits (base : Nat) : List Char → List Nat × List Char
  | [] => ([], [])
  | c :: cs =>
    match digit? base c with
    | some d => let (ds, rest) := spanDigits base cs; (d :: ds, rest)
    | none => ([], c :: cs)

/-- Reads a number below `bound`, with at most `width` digits if a width is given. -/
def readNumber (base : Nat) (width : Option Nat) (bound : Nat) (cs : List Char) :
    Option (Nat × List Char) :=
  let (ds, rest) := spanDigits base cs
  if ds.isEmpty || width.any (· < ds.length) || bound ≤ value base ds then none
  else some (value base ds, rest)

def readChar (c : Char) : List Char → Option (List Char)
  | d :: cs => if d = c then some cs else none
  | [] => none

/-- Reads an octet in decimal digits, without leading zeros. -/
def readOctet (cs : List Char) : Option (Nat × List Char) :=
  match cs with
  | '0' :: rest => if (spanDigits 10 rest).1.isEmpty then some (0, rest) else none
  | _ => readNumber 10 (some 3) 256 cs

def readQuad (cs : List Char) : Option (Nat × List Char) := do
  let (a, cs) ← readOctet cs
  let (b, cs) ← readOctet (← readChar '.' cs)
  let (c, cs) ← readOctet (← readChar '.' cs)
  let (d, cs) ← readOctet (← readChar '.' cs)
  return (value 256 [a, b, c, d], cs)

/-- Groups read from the text of an IPv6 address. -/
structure Groups where
  groups : List Nat
  /-- The last two groups were written as a dotted quad. -/
  quad : Bool
  rest : List Char

/-- Reads up to `room` groups, each but the first after a colon.  A dotted quad takes the room of
two groups and ends them. -/
def readGroups : Nat → Bool → List Char → Groups
  | 0, _, cs => ⟨[], false, cs⟩
  | room + 1, isFirst, cs =>
    match if isFirst then some cs else readChar ':' cs with
    | none => ⟨[], false, cs⟩
    | some cs' =>
      match if room = 0 then none else readQuad cs' with
      | some (bits, rest) => ⟨digits 0x10000 2 bits, true, rest⟩
      | none =>
        match readNumber 16 (some 4) 0x10000 cs' with
        | some (g, rest) =>
          let more := readGroups room false rest
          { more with groups := g :: more.groups }
        | none => ⟨[], false, cs⟩

/-- Reads an IPv6 address.  A dotted quad must not stand before `::`, which must leave out at least
one group. -/
def readIpv6 (cs : List Char) : Option (Nat × List Char) :=
  let head := readGroups 8 true cs
  let n := head.groups.length
  if n = 8 then some (value 0x10000 head.groups, head.rest)
  else if head.quad then none
  else
    match head.rest with
    | ':' :: ':' :: rest =>
      let tail := readGroups (7 - n) true rest
      let zeros := List.replicate (8 - n - tail.groups.length) 0
      some (value 0x10000 (head.groups ++ zeros ++ tail.groups), tail.rest)
    | _ => none

/-- Reads the zone after an IPv6 address, which is zero if none is written. -/
def readZone (cs : List Char) : Nat × List Char :=
  match readChar '%' cs >>= readNumber 10 none 0x100000000 with
  | some (zone, rest) => (zone, rest)
  | none => (0, cs)

def readPort (cs : List Char) : Option (Nat × List Char) :=
  readChar ':' cs >>= readNumber 10 none 0x10000

/-- Reads a socket address, of IPv4 if possible. -/
def readSocketAddress (cs : List Char) : Option (SocketAddress × List Char) :=
  let viaIpv4 : Option (SocketAddress × List Char) := do
    let (ip, cs) ← readQuad cs
    let (port, cs) ← readPort cs
    return ({ ip := .v4 (BitVec.ofNat 32 ip), port := BitVec.ofNat 16 port }, cs)
  let viaIpv6 : Option (SocketAddress × List Char) := do
    let (ip, cs) ← readIpv6 (← readChar '[' cs)
    let (zone, cs) := readZone cs
    let (port, cs) ← readPort (← readChar ']' cs)
    return (⟨.v6 (BitVec.ofNat 128 ip), BitVec.ofNat 16 port, BitVec.ofNat 32 zone⟩, cs)
  viaIpv4 <|> viaIpv6

/-- The value that was read, provided that nothing is left. -/
def complete? {α : Type} : Option (α × List Char) → Option α
  | some (a, []) => some a
  | _ => none

end Address

/-- Reads an internet address, of IPv4 if possible. -/
def IpAddress.parse? (s : String) : Option IpAddress :=
  let ipv4 := (Address.readQuad s.toList).map fun (bits, rest) => (v4 (BitVec.ofNat 32 bits), rest)
  let ipv6 := (Address.readIpv6 s.toList).map fun (bits, rest) =>
    (v6 (BitVec.ofNat 128 bits), rest)
  Address.complete? (ipv4 <|> ipv6)

def SocketAddress.parse? (s : String) : Option SocketAddress :=
  Address.complete? (Address.readSocketAddress s.toList)

end OrderedEcho
