import Sinkhole.Error

/-! # Building a tunnel

A tunnel is configured by calls, each of which the host may refuse. The trace of a configuration
is the list of its calls with their outcomes.
-/
namespace Sinkhole

inductive BuilderCall where
  | address (address : IpAddress) (bits : Nat)
  | dnsServer (address : IpAddress)
  | route (address : IpAddress) (bits : Nat)
  | disallow (package : String)
  | establish
deriving DecidableEq, Repr

structure BuilderStep where
  call : BuilderCall
  failure : Option IoError
deriving DecidableEq, Repr

abbrev BuilderTrace := List BuilderStep

/-- How the host answers a call after the calls made before it. -/
abbrev Builder := BuilderTrace → BuilderCall → Option IoError

def Builder.attempt (builder : Builder) (trace : BuilderTrace) (call : BuilderCall) :
    Option IoError × BuilderTrace :=
  let failure := builder trace call
  (failure, trace ++ [⟨call, failure⟩])

end Sinkhole
