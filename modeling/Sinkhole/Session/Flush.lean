import Sinkhole.Forwarding.Query

/-! # Writing to the tunnel

Queued packets are written in their order. A packet whose write fails is lost, and those behind it
stay queued.
-/
namespace Sinkhole

/-- How the tunnel takes the write that comes after a number of others. -/
abbrev TunnelWriter := Nat → Option IoError

structure Flushed where
  written : List Bytes
  left : List Bytes
  failure : Option IoError
deriving DecidableEq, Repr

def flushPackets (writer : TunnelWriter) : (count : Nat) → List Bytes → Flushed
  | _, [] => ⟨[], [], none⟩
  | count, packet :: rest =>
    match writer count with
    | some cause => ⟨[], rest, some cause⟩
    | none =>
      let flushed := flushPackets writer (count + 1) rest
      { flushed with written := packet :: flushed.written }

namespace SessionState

def flush {ρ : Type} (session : SessionState ρ) (writer : TunnelWriter) (count : Nat) :
    SessionState ρ × Flushed :=
  let flushed := flushPackets writer count session.outbound
  ({ session with outbound := flushed.left }, flushed)

end SessionState

def Flushed.error? (flushed : Flushed) : Option Error :=
  flushed.failure.map fun cause => .network (.tunnelWrite cause)

end Sinkhole
