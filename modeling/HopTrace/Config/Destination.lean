import HopTrace.Text.Decimal

/-!
# Destinations

A destination is a host, optionally followed by a slash and a port. The first slash ends
the host, and everything after it must be the port.
-/
namespace HopTrace

structure Destination where
  host : String
  port : Option UInt16
  deriving DecidableEq, Repr

/-- The destination a text spells, unless it has a slash without a port after it. -/
def Destination.ofText? (text : String) : Option Destination :=
  let host := String.ofList (text.toList.takeWhile (· ≠ '/'))
  match text.toList.dropWhile (· ≠ '/') with
  | [] => some ⟨host, none⟩
  | _ :: port => (Decimal.readPort (String.ofList port)).map fun p => ⟨host, some p⟩

end HopTrace
