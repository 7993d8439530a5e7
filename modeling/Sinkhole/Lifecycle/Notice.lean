import Sinkhole.Tunnel.Platform

/-! # Notices

What the worker is told while it runs: that a network came or went, and that the interface of one
of its sessions is down. Notices wait in a queue until the worker hears them, in a session or
while it waits for a network; the available networks are the same replay either way.
-/
namespace Sinkhole

inductive NetworkClass where
  | wifi
  | cellular
deriving DecidableEq, Repr

/-- A set of network classes. -/
structure NetworkSet where
  wifi : Bool
  cellular : Bool
deriving DecidableEq, Repr

namespace NetworkSet

def empty : NetworkSet := ⟨false, false⟩

def isEmpty (networks : NetworkSet) : Bool := !networks.wifi && !networks.cellular

def contains (networks : NetworkSet) : NetworkClass → Bool
  | .wifi => networks.wifi
  | .cellular => networks.cellular

def insert (networks : NetworkSet) : NetworkClass → NetworkSet
  | .wifi => { networks with wifi := true }
  | .cellular => { networks with cellular := true }

def erase (networks : NetworkSet) : NetworkClass → NetworkSet
  | .wifi => { networks with wifi := false }
  | .cellular => { networks with cellular := false }

@[simp] theorem contains_insert (networks : NetworkSet) (added network : NetworkClass) :
    (networks.insert added).contains network =
      (decide (network = added) || networks.contains network) := by
  cases added <;> cases network <;> rfl

@[simp] theorem contains_erase (networks : NetworkSet) (lost network : NetworkClass) :
    (networks.erase lost).contains network =
      (!decide (network = lost) && networks.contains network) := by
  cases lost <;> cases network <;> rfl

theorem isEmpty_iff {networks : NetworkSet} :
    networks.isEmpty ↔ ∀ network, networks.contains network = false := by
  rcases networks with ⟨wifi, cellular⟩
  constructor
  · intro h network
    cases network <;> simp_all [isEmpty, contains]
  · intro h
    have hwifi := h .wifi
    have hcellular := h .cellular
    simp_all [isEmpty, contains]

def ofNetworks (networks : List Network) : NetworkSet :=
  match networks.find? (·.active) with
  | some network => ⟨network.has .wifi, network.has .cellular⟩
  | none => empty

end NetworkSet

inductive Notice where
  | networkAvailable (network : NetworkClass)
  | networkLost (network : NetworkClass)
  /-- The monitor of a session saw its interface go down. -/
  | interfaceDown (generation : Nat)
deriving DecidableEq, Repr

inductive SessionEnd where
  | stopped
  | reconnect
  | networkLost
deriving DecidableEq, Repr

/-- The available networks, and the number of sessions so far. -/
structure Control where
  networks : NetworkSet
  generation : Nat
deriving DecidableEq, Repr

namespace Control

/-- The host confirming its active network right after the start changes nothing. -/
def initial (networks : List Network) : Control := ⟨.ofNetworks networks, 0⟩

def replay (networks : NetworkSet) : Notice → NetworkSet
  | .networkAvailable network => networks.insert network
  | .networkLost network => networks.erase network
  | .interfaceDown _ => networks

def hear (control : Control) (notice : Notice) : Control :=
  { control with networks := replay control.networks notice }

/-- Whether a notice ends the session that hears it. -/
def sessionEnd? (control : Control) : Notice → Option SessionEnd
  | .networkAvailable _ => if control.networks.isEmpty then some .reconnect else none
  | .networkLost network =>
    some (if (control.networks.erase network).isEmpty then .networkLost else .reconnect)
  | .interfaceDown generation =>
    if generation = control.generation then some .reconnect else none

end Control

end Sinkhole
