import HopTrace.Kernel
import HopTrace.Names

/-!
# Hosts

A host is what a program runs on: system calls and name lookups that act on one state.
Looking up a name does not refill the error queue.
-/
namespace HopTrace

structure Host (σ : Type) where
  kernel : Kernel σ
  names : NameService σ
  errorBacklog_reverse_le : ∀ (a : IpAddress) (s : σ),
    kernel.errorBacklog (names.reverse a s).2 ≤ kernel.errorBacklog s

inductive HostCall where
  | system (call : SystemCall)
  | lookup (lookup : Lookup)
  deriving DecidableEq, Repr

/-- A host that writes down what is asked of it. -/
def Host.recorded {ι σ : Type} (h : Host σ) (mark : HostCall → ι) : Host (Journal ι σ) where
  kernel := h.kernel.recorded fun call => mark (.system call)
  names := h.names.recorded fun lookup => mark (.lookup lookup)
  errorBacklog_reverse_le a j := h.errorBacklog_reverse_le a j.inner

end HopTrace
