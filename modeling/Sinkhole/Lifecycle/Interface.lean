import Sinkhole.Address.Parser

/-! # Tunnel interfaces

Tunnel interfaces are named `tun` with a number. The newest one has the highest number; of two
with the same number the later in the listing counts.
-/
namespace Sinkhole

structure Interface where
  name : String
  up : Bool
deriving DecidableEq, Repr

def number32? (text : List Char) : Option Nat :=
  let digits := match text with
    | '+' :: rest => rest
    | _ => text
  match IpAddress.readNumber 10 4294967296 none true digits with
  | some (value, []) => some value
  | _ => none

def tunnelNumber? (name : String) : Option Nat :=
  match name.toList with
  | 't' :: 'u' :: 'n' :: rest => number32? rest
  | _ => none

/-- The later of two candidates wins unless its number is smaller. -/
def newerTunnel (best : Option (Nat × String)) (interface : Interface) : Option (Nat × String) :=
  match tunnelNumber? interface.name with
  | none => best
  | some number =>
    match best with
    | some (highest, _) => if number < highest then best else some (number, interface.name)
    | none => some (number, interface.name)

def tunnelInterface? (interfaces : List Interface) : Option String :=
  (interfaces.foldl newerTunnel none).map (·.2)

end Sinkhole
