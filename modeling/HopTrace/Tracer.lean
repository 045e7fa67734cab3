import HopTrace.Kernel
import HopTrace.Trace

/-!
# Tracers

A tracer is a target and the session to trace it with. It is built from a request, which
is refused when the packet length cannot hold the headers or exceeds what the host
accepts; without a packet length the default of the family is taken. Running a tracer
connects a socket and traces the path over it.
-/
namespace HopTrace

/-- The largest packet length that may be asked for. -/
def maxPacketLength : UInt32 := 2147483647

/-- What is asked of a tracer. -/
structure TraceRequest where
  target : IpAddress := .v4 Ipv4.localhost
  packetLength : Option UInt32 := none
  basePort : UInt16 := SessionConfig.defaultBasePort
  maxTtl : UInt8 := SessionConfig.defaultMaxTtl
  mode : AddressMode := .host
  deriving DecidableEq, Repr

/-- A packet length without room for a probe, or too large for the host. -/
structure PacketLengthRefused where
  length : UInt32
  overhead : UInt32
  deriving DecidableEq, Repr

def PacketLengthRefused.message (r : PacketLengthRefused) : String :=
  "pktlen must be > " ++ toString r.overhead.toNat ++ " and <= " ++ toString maxPacketLength.toNat

structure Tracer where
  target : IpAddress
  config : SessionConfig
  deriving DecidableEq, Repr

namespace TraceRequest

/-- Port zero asks for the default port. -/
def withBasePort (r : TraceRequest) (port : UInt16) : TraceRequest :=
  { r with basePort := if port = 0 then SessionConfig.defaultBasePort else port }

/-- The size of the first probe. -/
def mtu (r : TraceRequest) : Except PacketLengthRefused UInt32 :=
  let family := Family.ofTarget r.target
  match r.packetLength with
  | none => .ok family.defaultMtu
  | some length =>
    if length ≤ family.overhead ∨ length > maxPacketLength then .error ⟨length, family.overhead⟩
    else .ok length

def build (r : TraceRequest) : Except PacketLengthRefused Tracer := do
  let mtu ← r.mtu
  return {
    target := r.target
    config :=
      { family := Family.ofTarget r.target
        basePort := r.basePort
        mtu
        maxTtl := r.maxTtl
        mode := r.mode } }

end TraceRequest

/-- Traces a path with a session that starts anew. -/
def World.traceWith {σ : Type} (w : World σ) (config : SessionConfig) :
    EStateM Failure σ Summary := fun s =>
  match w.trace ⟨Session.start config, s⟩ with
  | .ok summary t => .ok summary t.world
  | .error e t => .error e t.world

/-- Connects a socket to the target and traces the path over it. -/
def Tracer.runWith {σ : Type} (t : Tracer) (sock : Socket σ) (a : Audience σ sock.pending) :
    EStateM Failure σ Summary := do
  sock.connect t.target
  ((sock.network t.target).attendedBy a).traceWith t.config

/-- Traces without names and with nobody listening. -/
def Tracer.run {σ : Type} (t : Tracer) (sock : Socket σ) : EStateM Failure σ Summary :=
  t.runWith sock (Audience.silent sock.pending)

end HopTrace
