import Sinkhole.Address

/-! # Flows

The addressing of one UDP datagram, and the flow of its answer.
-/
namespace Sinkhole

structure Flow where
  source : IpAddress
  destination : IpAddress
  sourcePort : UInt16
  destinationPort : UInt16
deriving DecidableEq, Repr

namespace Flow

def reversed (flow : Flow) : Flow :=
  ⟨flow.destination, flow.source, flow.destinationPort, flow.sourcePort⟩

@[simp] theorem reversed_reversed (flow : Flow) : flow.reversed.reversed = flow := rfl

end Flow

end Sinkhole
