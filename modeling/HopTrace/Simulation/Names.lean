import HopTrace.Names

/-!
# Scripted names

A name service that answers from two tables. A name that is not listed has the address
it spells, if it spells one, and is unknown otherwise.
-/
namespace HopTrace.Simulation

structure NameTables where
  hosts : List (String × Except Int (List IpAddress))
  names : List (IpAddress × String)

/-- The failure of a name nobody knows. -/
def unknownName : Int := -2

def NameTables.forward (t : NameTables) (host : String) : Except Int (List IpAddress) :=
  match t.hosts.lookup host with
  | some answer => answer
  | none =>
    match IpAddress.ofText? host with
    | some address => .ok [address]
    | none => .error unknownName

/-- The tables answer the same in every state. -/
def NameTables.service (t : NameTables) {σ : Type} : NameService σ where
  forward host s :=
    match t.forward host with
    | .ok addresses => .ok addresses s
    | .error code => .error code s
  reverse a s := (t.names.lookup a, s)

end HopTrace.Simulation
