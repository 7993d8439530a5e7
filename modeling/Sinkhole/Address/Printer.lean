import Sinkhole.Address.Parser

/-! # The text of an address

IPv4 is four decimal numbers. IPv6 is lowercase hexadecimal groups in which the first longest run
of at least two zero groups is written `::`; an IPv4-mapped address ends in its IPv4 text. An
endpoint puts an IPv6 address in square brackets.
-/
namespace Sinkhole

namespace IpAddress

def groupText (group : Nat) : String :=
  String.ofList (Nat.toDigits 16 group)

/-- The start and length of the first longest run of zeros, counting positions from `index`. -/
def longestZeroRun : List Nat → Nat → Nat × Nat → Nat × Nat → Nat × Nat
  | [], _, _, best => best
  | group :: rest, index, current, best =>
    let current := if group = 0 then
        (if current.2 = 0 then (index, 1) else (current.1, current.2 + 1))
      else (0, 0)
    let best := if best.2 < current.2 then current else best
    longestZeroRun rest (index + 1) current best

def groupsText (groups : List Nat) : String :=
  ":".intercalate (groups.map groupText)

def octetsText (octets : Bytes) : String :=
  ".".intercalate (octets.map fun octet => toString octet.toNat)

def v6Text (groups : List Nat) (octets : Bytes) : String :=
  if groups.take 6 = [0, 0, 0, 0, 0, 0xffff] then
    "::ffff:" ++ octetsText (octets.drop 12)
  else
    let run := longestZeroRun groups 0 (0, 0) (0, 0)
    if 1 < run.2 then
      groupsText (groups.take run.1) ++ "::" ++ groupsText (groups.drop (run.1 + run.2))
    else
      groupsText groups

def toText : IpAddress → String
  | v4 octets => octetsText octets.toList
  | v6 octets => v6Text (groupsOfOctets octets.toList) octets.toList

instance : ToString IpAddress := ⟨toText⟩

end IpAddress

namespace Endpoint

def toText (endpoint : Endpoint) : String :=
  let address := endpoint.address.toText
  let port := toString endpoint.port.toNat
  if endpoint.address.isV6 then "[" ++ address ++ "]:" ++ port else address ++ ":" ++ port

instance : ToString Endpoint := ⟨toText⟩

end Endpoint

/-- The text of a socket address; a zone that is not zero stands behind the address. -/
def SocketAddress.toText (socket : SocketAddress) : String :=
  if socket.zone = 0 then socket.endpoint.toText
  else
    "[" ++ socket.endpoint.address.toText ++ "%" ++ toString socket.zone ++ "]:" ++
      toString socket.endpoint.port.toNat

end Sinkhole
