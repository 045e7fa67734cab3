import HopTrace.Address

/-!
# The text of an address

Writing follows the recommended text form of version 6 addresses: lower case, no leading
zeros, the first of the longest runs of at least two zero groups written as `::`, and
the last two groups in dotted form for mapped addresses only. Reading accepts every
standard spelling and nothing else: four decimal octets without leading zeros, or up to
eight groups of one to four digits with at most one `::`, the last two groups of which
may be dotted.
-/
namespace HopTrace

namespace Ipv4

def text (ip : Ipv4) : String :=
  ".".intercalate (ip.octets.map fun o => toString o.toNat)

end Ipv4

namespace Ipv6

def groupText (g : UInt16) : String := String.ofList (Nat.toDigits 16 g.toNat)

/-- The number of zero groups at the front. -/
def zeroRun : List UInt16 → Nat
  | [] => 0
  | g :: rest => if g == 0 then zeroRun rest + 1 else 0

/-- Start and length of the first longest run of zero groups, counting from `start`. -/
def longestZeroRun : Nat → List UInt16 → Nat × Nat
  | start, [] => (start, 0)
  | start, g :: rest =>
    let here := zeroRun (g :: rest)
    let later := longestZeroRun (start + 1) rest
    if here ≥ later.2 then (start, here) else later

def joinGroups (gs : List UInt16) : String := ":".intercalate (gs.map groupText)

def text (ip : Ipv6) : String :=
  match ip.toMapped? with
  | some inner => "::ffff:" ++ inner.text
  | none =>
    let gs := ip.groups.toList
    let (start, length) := longestZeroRun 0 gs
    if length < 2 then joinGroups gs
    else joinGroups (gs.take start) ++ "::" ++ joinGroups (gs.drop (start + length))

end Ipv6

namespace IpAddress

def text : IpAddress → String
  | .v4 ip => ip.text
  | .v6 ip => ip.text

/-- Up to `most` digits of the given base at the front, with the rest. -/
def digitsOf (isDigit : Char → Bool) : Nat → List Char → List Char × List Char
  | most + 1, c :: rest =>
    if isDigit c then
      let (ds, rest) := digitsOf isDigit most rest
      (c :: ds, rest)
    else ([], c :: rest)
  | _, rest => ([], rest)

def hexValue (c : Char) : Nat :=
  if c.isDigit then c.toNat - '0'.toNat
  else if 'a' ≤ c ∧ c ≤ 'f' then c.toNat - 'a'.toNat + 10
  else c.toNat - 'A'.toNat + 10

def isHexDigit (c : Char) : Bool :=
  c.isDigit || ('a' ≤ c && c ≤ 'f') || ('A' ≤ c && c ≤ 'F')

def valueOf (base : Nat) (ds : List Char) : Nat :=
  ds.foldl (fun n c => n * base + hexValue c) 0

/-- One decimal octet. A zero may not lead a longer number. -/
def readOctet (cs : List Char) : Option (UInt8 × List Char) :=
  match digitsOf Char.isDigit 3 cs with
  | ([], _) => none
  | (ds, rest) =>
    let n := valueOf 10 ds
    if n > 255 ∨ (ds.head? = some '0' ∧ ds.length > 1) ∨ rest.head?.any Char.isDigit then none
    else some (UInt8.ofNat n, rest)

/-- The given character at the front is dropped. -/
def skip (c : Char) : List Char → Option (List Char)
  | d :: rest => if c = d then some rest else none
  | [] => none

def readIpv4 (cs : List Char) : Option (Ipv4 × List Char) := do
  let (a, cs) ← readOctet cs
  let (b, cs) ← readOctet (← skip '.' cs)
  let (c, cs) ← readOctet (← skip '.' cs)
  let (d, cs) ← readOctet (← skip '.' cs)
  return (Ipv4.ofOctets a b c d, cs)

def readGroup (cs : List Char) : Option (UInt16 × List Char) :=
  match digitsOf isHexDigit 4 cs with
  | ([], _) => none
  | (ds, rest) =>
    if rest.head?.any isHexDigit then none else some (UInt16.ofNat (valueOf 16 ds), rest)

/-- At most `room` groups, each after a colon unless it is the first, with a dotted
address standing for two groups wherever two are left to fill. The flag says that the
dotted form was met, which ends the address. -/
def readGroups : Nat → Bool → List Char → List UInt16 × Bool × List Char
  | 0, _, cs => ([], false, cs)
  | room + 1, first, cs =>
    match (if first then some cs else skip ':' cs) with
    | none => ([], false, cs)
    | some inner =>
      match (if room = 0 then none else readIpv4 inner) with
      | some (ip, rest) => ([(ip.bits >>> 16).toUInt16, ip.bits.toUInt16], true, rest)
      | none =>
        match readGroup inner with
        | none => ([], false, cs)
        | some (g, rest) =>
          let (gs, dotted, rest) := readGroups room false rest
          (g :: gs, dotted, rest)

def ofGroups (gs : List UInt16) : Option Ipv6 :=
  if h : gs.length = 8 then some ⟨⟨gs.toArray, by simpa using h⟩⟩ else none

def readIpv6 (cs : List Char) : Option (Ipv6 × List Char) :=
  match readGroups 8 true cs with
  | (front, dotted, rest) =>
    if front.length = 8 then (ofGroups front).map fun ip => (ip, rest)
    else if dotted then none
    else do
      let rest ← skip ':' rest
      let rest ← skip ':' rest
      let (back, _, rest) := readGroups (7 - front.length) true rest
      let gap := List.replicate (8 - front.length - back.length) 0
      let ip ← ofGroups (front ++ gap ++ back)
      return (ip, rest)

/-- The address that the whole text spells. -/
def ofText? (s : String) : Option IpAddress :=
  match readIpv4 s.toList with
  | some (ip, []) => some (.v4 ip)
  | _ => match readIpv6 s.toList with
    | some (ip, []) => some (.v6 ip)
    | _ => none

end IpAddress

namespace Endpoint

/-- A version 6 address is bracketed before its port, together with its zone unless that is
zero. -/
def text (e : Endpoint) : String :=
  match e.address with
  | .v4 ip => ip.text ++ ":" ++ toString e.port.toNat
  | .v6 ip =>
    let zone := if e.zone = 0 then "" else "%" ++ toString e.zone.toNat
    "[" ++ ip.text ++ zone ++ "]:" ++ toString e.port.toNat

/-- A decimal number of at most `high`, whatever its leading zeros. -/
def readNumber (high : Nat) (cs : List Char) : Option (Nat × List Char) :=
  let ds := cs.takeWhile Char.isDigit
  let n := IpAddress.valueOf 10 ds
  if ds.isEmpty ∨ n > high then none else some (n, cs.drop ds.length)

/-- The zone that may stand behind an address. -/
def readZone (cs : List Char) : Option (UInt32 × List Char) :=
  match cs with
  | '%' :: rest => do
    let (zone, rest) ← readNumber 4294967295 rest
    return (UInt32.ofNat zone, rest)
  | _ => some (0, cs)

/-- The port behind a colon, which ends the text. -/
def readPort (cs : List Char) : Option UInt16 := do
  let (port, rest) ← readNumber 65535 (← IpAddress.skip ':' cs)
  if rest.isEmpty then some (UInt16.ofNat port) else none

/-- The endpoint that the whole text spells. -/
def ofText? (s : String) : Option Endpoint :=
  match s.toList with
  | '[' :: cs => do
    let (ip, cs) ← IpAddress.readIpv6 cs
    let (zone, cs) ← readZone cs
    let port ← readPort (← IpAddress.skip ']' cs)
    return { address := .v6 ip, port, zone }
  | cs => do
    let (ip, cs) ← IpAddress.readIpv4 cs
    let port ← readPort cs
    return { address := .v4 ip, port }

end Endpoint

end HopTrace
