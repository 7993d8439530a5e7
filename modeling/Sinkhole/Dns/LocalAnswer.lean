import Sinkhole.Address.Parser
import Sinkhole.Dns.Message

/-! # Local answers

A request is answered without asking anyone: a blocked name gets no answer but a start of
authority that makes its absence known for a short time, a redirected one gets the address it is
redirected to. Everything else in the request is sent back as it came.
-/
namespace Sinkhole.Dns

/-- How long local answers may be kept, in seconds. -/
def localTtl : UInt32 := 5

def blockedZone : Name :=
  ⟨["nullroute".toUTF8.toList, "vpn".toUTF8.toList, "invalid".toUTF8.toList]⟩

def internetClass : UInt16 := 1

/-- The start of authority of the blocked zone: all numbers zero except its minimum. -/
def blockedAuthority : Record where
  owner := blockedZone
  type := 6
  rclass := internetClass
  ttl := localTtl
  data := .fields [.name blockedZone, .name blockedZone,
    .pieces (List.replicate 4 (Word.octets32 0) ++ [Word.octets32 localTtl])]

namespace Message

/-- The name that rules are asked about. -/
def host? (message : Message) : Option String :=
  message.questions.head?.map (·.name.host)

def blockedResponse (request : Message) : Message :=
  { request with
    header := { request.header with response := true, responseCode := 0 }
    authority := request.authority ++ [blockedAuthority] }

def addressRecord (owner : Name) (address : IpAddress) : Record where
  owner := owner
  type := if address.isV6 then 28 else 1
  rclass := internetClass
  ttl := localTtl
  data := .fields [.pieces (unitsOf (if address.isV6 then 2 else 1) address.toBytes)]

/-- The answer to the first question, if the target is an address. -/
def redirectAnswer? (request : Message) (target : String) : Option Record := do
  let question ← request.questions.head?
  let address ← IpAddress.parse? (Text.trim target)
  pure (addressRecord question.name address)

def redirectedResponse (request : Message) (target : String) : Message :=
  { request with
    header := { request.header with
      response := true, authoritative := true, recursionDesired := false, responseCode := 0 }
    answers := request.answers ++ (request.redirectAnswer? target).toList }

end Message

end Sinkhole.Dns
