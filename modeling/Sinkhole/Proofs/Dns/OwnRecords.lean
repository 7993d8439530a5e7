import Mathlib
import Sinkhole.Dns.LocalAnswer

/-! # Whose records local answers carry

A local answer starts from the request, with all that the request brought along. Its own records come
behind those, and only a redirected one sets the bit of an authority. Main statement: local answers
carry nothing but their own records exactly when the request is a question without answers and
authorities that does not claim to be authoritative.
-/
namespace Sinkhole.Dns

/-- The start of authority that makes the absence of a name known, for five seconds. -/
structure Record.IsDenial (record : Record) : Prop where
  owner : record.owner = blockedZone
  type : record.type = 6
  ttl : record.ttl = 5
  minimum : ∃ numbers, record.data =
    .fields [.name blockedZone, .name blockedZone, .pieces (numbers ++ [[0, 0, 0, 5]])]

/-- The address of a name, for five seconds. -/
structure Record.IsAddressOf (record : Record) (name : Name) (address : IpAddress) : Prop where
  owner : record.owner = name
  type : record.type = if address.isV6 then 28 else 1
  ttl : record.ttl = 5
  octets : ∃ pieces, record.data = .fields [.pieces pieces] ∧ pieces.flatten = address.toBytes

theorem isDenial_blockedAuthority : blockedAuthority.IsDenial :=
  ⟨rfl, rfl, rfl, _, rfl⟩

theorem isAddressOf_addressRecord (name : Name) (address : IpAddress) :
    (Message.addressRecord name address).IsAddressOf name address :=
  ⟨rfl, rfl, rfl, _, rfl, flatten_unitsOf (by split <;> decide) _⟩

namespace Message

/-- Nothing but the absence of the name, and not on anyone's authority. -/
structure DeniesOnly (response : Message) : Prop where
  answers : response.answers = []
  authoritative : response.header.authoritative = false
  authority : ∃ record, response.authority = [record] ∧ record.IsDenial

/-- Nothing but the target's address for the name that was asked about, if the target has one. -/
structure PointsOnlyTo (response request : Message) (target : String) : Prop where
  address : ∀ address, IpAddress.parse? (Text.trim target) = some address →
    ∃ question record, request.questions.head? = some question ∧ response.answers = [record] ∧
      record.IsAddressOf question.name address
  noAddress : IpAddress.parse? (Text.trim target) = none → response.answers = []

/-- Both local answers to the request carry their own records only. -/
def KeepsToOwnRecords (request : Message) : Prop :=
  request.blockedResponse.DeniesOnly ∧
    ∀ target, (request.redirectedResponse target).PointsOnlyTo request target

variable {request : Message}

theorem deniesOnly_blockedResponse (hanswers : request.answers = [])
    (hauthority : request.authority = []) (hclear : request.header.authoritative = false) :
    request.blockedResponse.DeniesOnly := by
  refine ⟨hanswers, hclear, blockedAuthority, ?_, isDenial_blockedAuthority⟩
  simp [blockedResponse, hauthority]

theorem pointsOnlyTo_redirectedResponse (hanswers : request.answers = [])
    (hquestions : request.questions ≠ []) (target : String) :
    (request.redirectedResponse target).PointsOnlyTo request target := by
  obtain ⟨question, others, hcons⟩ := List.exists_cons_of_ne_nil hquestions
  have hhead : request.questions.head? = some question := by
    rw [hcons]
    rfl
  refine ⟨?_, ?_⟩
  · intro address haddress
    refine ⟨question, addressRecord question.name address, hhead, ?_,
      isAddressOf_addressRecord _ _⟩
    simp [redirectedResponse, redirectAnswer?, hanswers, hhead, haddress]
  · intro hnone
    simp [redirectedResponse, redirectAnswer?, hanswers, hnone]

theorem keepsToOwnRecords_iff (request : Message) :
    request.KeepsToOwnRecords ↔
      request.answers = [] ∧ request.authority = [] ∧ request.header.authoritative = false ∧
        request.questions ≠ [] := by
  constructor
  · rintro ⟨⟨hanswers, hclear, record, hauthority, -⟩, hpoints⟩
    have hnone : request.authority = [] := by
      have hlength := congrArg List.length hauthority
      simpa [blockedResponse] using hlength
    refine ⟨hanswers, hnone, hclear, ?_⟩
    -- Any address as the target shows that there has to be a question to answer.
    have hparse : IpAddress.parse? (Text.trim "0.0.0.0") =
        some (.v4 (Vector.replicate 4 0)) := by cbv
    obtain ⟨question, -, hhead, -⟩ := (hpoints "0.0.0.0").address _ hparse
    rintro hempty
    rw [hempty] at hhead
    cases hhead
  · rintro ⟨hanswers, hauthority, hclear, hquestions⟩
    exact ⟨deniesOnly_blockedResponse hanswers hauthority hclear,
      pointsOnlyTo_redirectedResponse hanswers hquestions⟩

/-- A query for the address of `ads.example.com` that brings along the answer `6.6.6.6`. -/
def answeredPayload : Bytes :=
  [0, 7, 1, 0, 0, 1, 0, 1, 0, 0, 0, 0, 3, 97, 100, 115, 7, 101, 120, 97, 109, 112, 108, 101, 3, 99,
    111, 109, 0, 0, 1, 0, 1, 0xc0, 12, 0, 1, 0, 1, 0, 0, 0, 60, 0, 4, 6, 6, 6, 6]

def answeredName : Name :=
  ⟨[[97, 100, 115], [101, 120, 97, 109, 112, 108, 101], [99, 111, 109]]⟩

def answeredQuery : Message where
  header := ⟨7, false, 0, false, false, true, false, false, false, 0⟩
  questions := [⟨answeredName, 1, 1⟩]
  answers := [⟨answeredName, 1, 1, 60, .fields [.pieces [[6], [6], [6], [6]]]⟩]
  authority := []
  additional := []
  extension := none

/-- The answer that was brought along is what a blocked name has in the end. -/
theorem not_keepsToOwnRecords_answeredQuery :
    Message.decode answeredPayload = .ok answeredQuery ∧
      answeredQuery.blockedResponse.answers = answeredQuery.answers ∧
      ¬ answeredQuery.KeepsToOwnRecords := by
  refine ⟨by cbv, rfl, ?_⟩
  rintro ⟨hdenies, -⟩
  cases hdenies.answers

end Message

end Sinkhole.Dns
