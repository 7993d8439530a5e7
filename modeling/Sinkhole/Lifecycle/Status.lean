/-! # Lifecycle status

The coarse status that the host is told. Codes are stable, so a host can keep them; a code that
stands for nothing reads as stopped.
-/
namespace Sinkhole

inductive Status where
  | starting
  | running
  | stopping
  | waitingForNetwork
  | reconnecting
  | reconnectingNetworkError
  | stopped
deriving DecidableEq, Repr

namespace Status

def code : Status → Nat
  | starting => 10
  | running => 11
  | stopping => 20
  | waitingForNetwork => 21
  | reconnecting => 22
  | reconnectingNetworkError => 23
  | stopped => 0

def ofCode : Nat → Status
  | 10 => starting
  | 11 => running
  | 20 => stopping
  | 21 => waitingForNetwork
  | 22 => reconnecting
  | 23 => reconnectingNetworkError
  | _ => stopped

def isStarted (status : Status) : Bool :=
  status != stopped

def text : Status → String
  | starting => "starting"
  | running => "running"
  | stopping => "stopping"
  | waitingForNetwork => "waiting for network"
  | reconnecting => "reconnecting"
  | reconnectingNetworkError => "reconnecting after network error"
  | stopped => "stopped"

@[simp] theorem ofCode_code (status : Status) : ofCode status.code = status := by
  cases status <;> rfl

end Status

end Sinkhole
