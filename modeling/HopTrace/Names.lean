import HopTrace.Address.Text
import HopTrace.Journal

/-!
# Names of hosts

Names are looked up by the host. A forward lookup yields addresses in the order the host
gives them, of which a preference keeps one version or both; it neither reorders them nor
drops duplicates. A reverse lookup is made at most once for each address: what it yields
is kept, and so is the fact that it yielded nothing. A mapped address is not the version 4
address inside it.
-/
namespace HopTrace

/-- Which addresses of a host may be used. -/
inductive IpPreference where
  | ipv4Only
  | ipv6Only
  /-- Any address, in the order the host gives them. -/
  | system
  deriving DecidableEq, Repr

namespace IpPreference

def text : IpPreference → String
  | .ipv4Only => "Ipv4Only"
  | .ipv6Only => "Ipv6Only"
  | .system => "System"

def admits (p : IpPreference) (a : IpAddress) : Bool :=
  match p with
  | .ipv4Only => a.version = .v4
  | .ipv6Only => a.version = .v6
  | .system => true

def keep (p : IpPreference) (addresses : List IpAddress) : List IpAddress :=
  addresses.filter p.admits

@[simp] theorem keep_system (addresses : List IpAddress) : keep .system addresses = addresses := by
  simp [keep, admits]

theorem mem_keep {p : IpPreference} {a : IpAddress} {addresses : List IpAddress} :
    a ∈ p.keep addresses ↔ a ∈ addresses ∧ p.admits a := by
  simp [keep]

end IpPreference

inductive LookupFailure where
  /-- No host is asked about a name with a NUL character in it. -/
  | nulCharacter
  | refused (code : Int)
  deriving DecidableEq, Repr

namespace LookupFailure

def codeText (code : Int) : String :=
  match code with
  | -1 => "Bad value for ai_flags"
  | -2 => "Name or service not known"
  | -3 => "Temporary failure in name resolution"
  | -4 => "Non-recoverable failure in name resolution"
  | -5 => "No address associated with hostname"
  | -6 => "ai_family not supported"
  | -7 => "ai_socktype not supported"
  | -8 => "Servname not supported for ai_socktype"
  | -10 => "Memory allocation failure"
  | -11 => "System error"
  | _ => "Unknown error"

def message : LookupFailure → String
  | .nulCharacter => "DNS lookup failed: data provided contains a nul byte"
  | .refused code =>
    "DNS lookup failed: failed to lookup address information: " ++ codeText code

end LookupFailure

/-- How a host looks up names. -/
structure NameService (σ : Type) where
  /-- The addresses of a name, or the number of the failure. -/
  forward : String → EStateM Int σ (List IpAddress)
  reverse : IpAddress → σ → Option String × σ

variable {σ ι : Type}

/-- The usable addresses of a name. -/
def NameService.lookup (svc : NameService σ) (preference : IpPreference) (host : String) :
    EStateM LookupFailure σ (List IpAddress) := fun s =>
  if host.toList.contains (Char.ofNat 0) then .error .nulCharacter s
  else
    match svc.forward host s with
    | .ok addresses s => .ok (preference.keep addresses) s
    | .error code s => .error (.refused code) s

/-- What is known of the names of an address. -/
inductive ReverseEntry where
  | resolved (address : IpAddress) (names : List String)
  | notFound (address : IpAddress)
  deriving DecidableEq, Repr

namespace ReverseEntry

def address : ReverseEntry → IpAddress
  | .resolved a _ => a
  | .notFound a => a

def names : ReverseEntry → List String
  | .resolved _ names => names
  | .notFound _ => []

/-- The first of the names. -/
def name? (e : ReverseEntry) : Option String := e.names.head?

def ofAnswer (a : IpAddress) : Option String → ReverseEntry
  | some name => .resolved a [name]
  | none => .notFound a

end ReverseEntry

/-- The entries of all addresses looked up so far, latest first. -/
structure NameCache where
  entries : List (IpAddress × ReverseEntry)
  deriving DecidableEq, Repr

namespace NameCache

def empty : NameCache := ⟨[]⟩

def find? (c : NameCache) (a : IpAddress) : Option ReverseEntry := c.entries.lookup a

def insert (c : NameCache) (a : IpAddress) (e : ReverseEntry) : NameCache := ⟨(a, e) :: c.entries⟩

@[simp] theorem find?_empty (a : IpAddress) : empty.find? a = none := rfl

theorem find?_insert (c : NameCache) (a b : IpAddress) (e : ReverseEntry) :
    (c.insert a e).find? b = if b = a then some e else c.find? b := by
  by_cases h : b = a
  · subst h
    simp [find?, insert]
  · have hb : (b == a) = false := by simpa using h
    simp [find?, insert, List.lookup_cons, hb, h]

end NameCache

/-- The entry of an address, from the cache if it is there. -/
def NameService.reverseLookup (svc : NameService σ) (a : IpAddress) (c : NameCache) (s : σ) :
    ReverseEntry × NameCache × σ :=
  match c.find? a with
  | some entry => (entry, c, s)
  | none =>
    let (answer, s) := svc.reverse a s
    let entry := ReverseEntry.ofAnswer a answer
    (entry, c.insert a entry, s)

/-- A lookup that is really made. -/
inductive Lookup where
  | forward (host : String)
  | reverse (address : IpAddress)
  deriving DecidableEq, Repr

/-- A name service that writes down the lookups it makes. -/
def NameService.recorded (svc : NameService σ) (mark : Lookup → ι) :
    NameService (Journal ι σ) where
  forward host := Journal.perform (mark (.forward host)) (svc.forward host)
  reverse a j :=
    let (name, s) := svc.reverse a j.inner
    (name, { entries := j.entries.push (mark (.reverse a)), inner := s })

end HopTrace
