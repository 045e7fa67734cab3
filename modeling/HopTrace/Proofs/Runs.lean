import HopTrace.Proofs.Published
import HopTrace.Proofs.SystemTranscript
import HopTrace.Run

/-!
# What a run does

A run resolves its target, builds a tracer for the address, connects a socket and traces the
path. `RunExec` has one constructor for each of the places at which it may end, and keeps the
tracer and the events that were published. Every run has such a derivation.

The network of a run acts on the host alone: it leaves the names and the output as they are.
-/
namespace HopTrace

variable {σ ε α : Type}

/-- The world in which a run traces the path to a target. -/
def Host.world (h : Host σ) (mode : AddressMode) (target : IpAddress) : World (Running σ) :=
  ((Running.socket h.kernel.socket).network target).attendedBy (h.audience mode)

inductive RunExec (h : Host σ) (s : Settings) (r : Running σ) :
    Option Tracer → List Event → EStateM.Result RunFailure (Running σ) Unit → Prop
  | unresolved {e r₁} : Running.onHost (h.resolveTarget s) r = .error e r₁ →
      RunExec h s r none [] (.error e r₁)
  | unbuilt {target r₁ refused} : Running.onHost (h.resolveTarget s) r = .ok target r₁ →
      (s.request target).build = .error refused →
      RunExec h s r none [] (.error (.packetLength refused) r₁)
  | unconnected {target r₁ tracer e r₂} : Running.onHost (h.resolveTarget s) r = .ok target r₁ →
      (s.request target).build = .ok tracer →
      (Running.socket h.kernel.socket).connect tracer.target r₁ = .error e r₂ →
      RunExec h s r (some tracer) [] (.error (.trace e) r₂)
  | failed {target r₁ tracer r₂ e t} : Running.onHost (h.resolveTarget s) r = .ok target r₁ →
      (s.request target).build = .ok tracer →
      (Running.socket h.kernel.socket).connect tracer.target r₁ = .ok () r₂ →
      (h.world s.mode tracer.target).transcribed.trace
        (Tracing.unspoken ⟨Session.start tracer.config, r₂⟩) = .error e t →
      RunExec h s r (some tracer) (published t.world.past) (.error (.trace e) t.world.inner)
  | finished {target r₁ tracer r₂ summary t} :
      Running.onHost (h.resolveTarget s) r = .ok target r₁ →
      (s.request target).build = .ok tracer →
      (Running.socket h.kernel.socket).connect tracer.target r₁ = .ok () r₂ →
      (h.world s.mode tracer.target).transcribed.trace
        (Tracing.unspoken ⟨Session.start tracer.config, r₂⟩) = .ok summary t →
      RunExec h s r (some tracer) (published t.world.past)
        (.ok () { t.world.inner with output := t.world.inner.output.summary summary })

theorem Host.run_exec (h : Host σ) (s : Settings) (r : Running σ) :
    ∃ started events, RunExec h s r started events (h.run s r) := by
  unfold Host.run
  simp only [Bind.bind, EStateM.bind]
  cases resolved : Running.onHost (h.resolveTarget s) r with
  | error e r₁ => exact ⟨_, _, .unresolved resolved⟩
  | ok target r₁ =>
    simp only [Host.traceTo]
    cases built : (s.request target).build with
    | error refused => exact ⟨_, _, .unbuilt resolved built⟩
    | ok tracer =>
      simp only [Tracer.runWith_socket]
      cases connected : (Running.socket h.kernel.socket).connect tracer.target r₁ with
      | error e r₂ => exact ⟨_, _, .unconnected resolved built connected⟩
      | ok _ r₂ =>
        have told := (h.world s.mode tracer.target).trace_eq ⟨Session.start tracer.config, r₂⟩
        unfold Host.world at told
        simp only [World.traceWith_eq, told]
        cases traced : (h.world s.mode tracer.target).transcribed.trace
            (Tracing.unspoken ⟨Session.start tracer.config, r₂⟩) with
        | error e t =>
          have ended := RunExec.failed resolved built connected traced
          unfold Host.world at traced
          simp only [traced, untoldResult]
          exact ⟨_, _, ended⟩
        | ok summary t =>
          have ended := RunExec.finished resolved built connected traced
          unfold Host.world at traced
          simp only [traced, untoldResult]
          exact ⟨_, _, ended⟩

/-- There is no other derivation. -/
theorem RunExec.unique {h : Host σ} {s : Settings} {r : Running σ} {started started' : Option Tracer}
    {events events' : List Event} {result result' : EStateM.Result RunFailure (Running σ) Unit}
    (ex : RunExec h s r started events result) (ex' : RunExec h s r started' events' result') :
    started' = started ∧ events' = events ∧ result' = result := by
  cases ex <;> cases ex' <;> simp_all

/-! ## What the network leaves alone -/

/-- The operation keeps `J` up, whether it fails or not. -/
def Keeps (J : σ → Prop) (act : EStateM ε σ α) : Prop := ∀ s, J s → J (finalState (act s))

section Keeps
variable {J : σ → Prop}

theorem Keeps.liftIo {act : EStateM IoFailure σ α} (h : Keeps J act) : Keeps J (liftIo act) := by
  intro s hJ
  have kept := h s hJ
  unfold HopTrace.liftIo
  generalize act s = acted at kept
  cases acted <;> exact kept

theorem Keeps.forM {ι : Type} {act : ι → EStateM ε σ Unit} (h : ∀ i, Keeps J (act i))
    (items : List ι) : Keeps J (items.forM act : EStateM ε σ Unit) := by
  intro s hJ
  induction items generalizing s with
  | nil => exact hJ
  | cons i rest ih =>
    have kept := h i s hJ
    rw [forM_cons]
    generalize act i s = acted at kept
    cases acted with
    | ok _ s' => exact ih s' kept
    | error e s' => exact kept

/-- Every operation of the socket keeps `J` up. -/
structure Socket.Keeping (sock : Socket σ) (J : σ → Prop) : Prop where
  now : ∀ {s}, J s → J (sock.now s).2
  create : ∀ version, Keeps J (sock.create version)
  enable : ∀ feature, Keeps J (sock.enable feature)
  limitHops : ∀ version limit, Keeps J (sock.limitHops version limit)
  sendTo : ∀ payload target, Keeps J (sock.sendTo payload target)
  awaitReadable : ∀ limit, Keeps J (sock.awaitReadable limit)
  receive : ∀ size, Keeps J (sock.receive size)
  receiveError : ∀ size, Keeps J (sock.receiveError size)

/-- Every operation of the network keeps `J` up. -/
structure Network.Keeping (n : Network σ) (J : σ → Prop) : Prop where
  now : ∀ {s}, J s → J (n.now s).2
  setTtl : ∀ ttl, Keeps J (n.setTtl ttl)
  send : ∀ payload port, Keeps J (n.send payload port)
  awaitReadable : ∀ limit, Keeps J (n.awaitReadable limit)
  receiveReply : Keeps J n.receiveReply
  receiveNotification : Keeps J n.receiveNotification

namespace Socket.Keeping
variable {sock : Socket σ}

theorem connect (h : sock.Keeping J) (target : IpAddress) : Keeps J (sock.connect target) := by
  intro s hJ
  have created := (h.create (Family.ofTarget target).socketVersion).liftIo s hJ
  rw [Socket.connect_eq]
  generalize liftIo (sock.create (Family.ofTarget target).socketVersion) s = made at created
  cases made with
  | ok _ s' => exact Keeps.forM (fun feature => (h.enable feature).liftIo) _ s' created
  | error e s' => exact created

theorem send (h : sock.Keeping J) (target : IpAddress) (payload : Payload) (port : UInt16) :
    Keeps J (sock.send target payload port) := by
  intro s hJ
  have kept := h.sendTo payload { address := target, port } s hJ
  unfold Socket.send
  generalize sock.sendTo payload { address := target, port } s = sent at kept
  cases sent <;> exact kept

theorem receiveReply (h : sock.Keeping J) : Keeps J sock.receiveReply := by
  intro s hJ
  have kept := h.receive replySize s hJ
  unfold Socket.receiveReply
  generalize sock.receive replySize s = received at kept
  cases received <;> exact kept

theorem receiveNotification (h : sock.Keeping J) : Keeps J sock.receiveNotification := by
  intro s hJ
  have kept := h.receiveError ProbeHeader.size s hJ
  unfold Socket.receiveNotification
  generalize sock.receiveError ProbeHeader.size s = received at kept
  cases received with
  | error e s' => exact kept
  | ok found s' =>
    cases found with
    | none => exact kept
    | some m => exact h.now kept

theorem network (h : sock.Keeping J) (target : IpAddress) : (sock.network target).Keeping J where
  now := h.now
  setTtl ttl := Keeps.forM (fun version => (h.limitHops version ttl).liftIo) _
  send := h.send target
  awaitReadable limit := (h.awaitReadable limit).liftIo
  receiveReply := h.receiveReply
  receiveNotification := h.receiveNotification

end Socket.Keeping

end Keeps

namespace Running

/-- What holds of the names and of the output of a run. -/
def Holding (P : NameCache → Report.Output → Prop) (r : Running σ) : Prop := P r.cache r.output

variable {P : NameCache → Report.Output → Prop}

theorem keeps_onHost (act : EStateM ε σ α) : Keeps (Holding P) (onHost act) := by
  intro r hP
  unfold onHost
  cases act r.host <;> exact hP

theorem socket_keeping (sock : Socket σ) : (socket sock).Keeping (Holding P) where
  now hP := hP
  create _ := keeps_onHost _
  enable _ := keeps_onHost _
  limitHops _ _ := keeps_onHost _
  sendTo _ _ := keeps_onHost _
  awaitReadable _ := keeps_onHost _
  receive _ := keeps_onHost _
  receiveError _ := keeps_onHost _

end Running

end HopTrace
