import HopTrace.Address.Text

/-!
# Names of hosts

Some names spell an address, and a host does not look those up. Beside the standard texts
it takes one to four numbers with points between them, each decimal, octal after a leading
zero or hexadecimal after `0x`: all but the last are octets, and the last fills what is
left. A version 6 address may be followed by a zone, which is a number or, where an
address is only valid on one link, the name of an interface.

Any other name has to be looked up, if it can be the name of a host at all: labels of
letters, digits, dashes and underscores, none of them empty or longer than 63 characters,
no more than 253 characters together, and no dash in front. One point may stand at the end.
-/
namespace HopTrace.HostName

/-- The number that a text of digits spells in a base. -/
def numberIn (base : Nat) (isDigit : Char → Bool) (cs : List Char) : Option Nat :=
  if cs.isEmpty ∨ ¬ cs.all isDigit then none else some (IpAddress.valueOf base cs)

def isOctal (c : Char) : Bool := '0' ≤ c && c ≤ '7'

/-- A number whose base its first characters tell. -/
def number (s : String) : Option Nat :=
  match s.toList with
  | '0' :: 'x' :: ds | '0' :: 'X' :: ds => numberIn 16 IpAddress.isHexDigit ds
  | '0' :: ds => numberIn 8 isOctal ('0' :: ds)
  | ds => numberIn 10 Char.isDigit ds

/-- Octets in front of a number that fills the rest of 32 bits. -/
def packed : List Nat → Nat → Option UInt32
  | [], last => if last < 4294967296 then some (UInt32.ofNat last) else none
  | [a], last =>
    if a < 256 ∧ last < 16777216 then some (UInt32.ofNat (a * 16777216 + last)) else none
  | [a, b], last =>
    if a < 256 ∧ b < 256 ∧ last < 65536 then
      some (UInt32.ofNat (a * 16777216 + b * 65536 + last))
    else none
  | [a, b, c], last =>
    if a < 256 ∧ b < 256 ∧ c < 256 ∧ last < 256 then
      some (UInt32.ofNat (a * 16777216 + b * 65536 + c * 256 + last))
    else none
  | _, _ => none

/-- The version 4 address that up to four numbers spell. -/
def numericV4 (name : String) : Option Ipv4 := do
  let numbers ← (name.splitOn ".").mapM number
  return ⟨← packed numbers.dropLast (← numbers.getLast?)⟩

/-- Whether an address is valid on one link or interface only. -/
def isLinkLocal (ip : Ipv6) : Bool :=
  let first := ip.groups[0].toNat
  (0xfe80 ≤ first && first < 0xfec0) ||
    (0xff00 ≤ first && (first % 16 = 1 || first % 16 = 2))

/-- The interface that every host has. -/
def loopback : String := "lo"

def isZone (ip : Ipv6) (zone : String) : Bool :=
  (numberIn 10 Char.isDigit zone.toList).any (· < 4294967296) ||
    (isLinkLocal ip && zone = loopback)

/-- The address that a name spells, whose zone is not kept. -/
def address? (name : String) : Option IpAddress :=
  match numericV4 name with
  | some ip => some (.v4 ip)
  | none =>
    let cs := name.toList
    let zone := cs.dropWhile (· ≠ '%')
    match IpAddress.readIpv6 (cs.takeWhile (· ≠ '%')) with
    | some (ip, []) =>
      if zone.isEmpty || isZone ip (String.ofList (zone.drop 1)) then some (.v6 ip) else none
    | _ => none

def isNameChar (c : Char) : Bool := c.isAlphanum || c = '-' || c = '_'

/-- Whether a host can have the name. -/
def isPossible (name : String) : Bool :=
  if name = "." then true
  else
    let labels := name.splitOn "."
    let labels := if labels.getLast? = some "" then labels.dropLast else labels
    !labels.isEmpty && name.toList.head? ≠ some '-' &&
      (".".intercalate labels).length ≤ 253 &&
      labels.all fun l => !l.isEmpty && l.length ≤ 63 && l.toList.all isNameChar

end HopTrace.HostName
