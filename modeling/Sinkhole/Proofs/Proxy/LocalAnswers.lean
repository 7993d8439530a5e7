import Sinkhole.Proofs.Dns.OwnRecords
import Sinkhole.Proofs.Dns.RoundTrip
import Sinkhole.Proofs.Proxy.Decision

/-! # Local answers on the wire

A request with one question and no records, save an extension record without options, has a local
answer that fits into a message: its names are those of a message that was read, and its own records
are short. So the answer is written, carried back in a packet and read there as it was made. Main
statement: what is read there, for a blocked and for a redirected name.
-/
namespace Sinkhole

namespace Dns

theorem blockedZone_eq :
    blockedZone = ⟨[[110, 117, 108, 108, 114, 111, 117, 116, 101], [118, 112, 110],
      [105, 110, 118, 97, 108, 105, 100]]⟩ := by
  cbv

theorem valid_blockedZone : blockedZone.Valid := by
  rw [blockedZone_eq]
  exact ⟨by decide, by decide⟩

theorem fits_blockedAuthority : blockedAuthority.Fits where
  owner := valid_blockedZone
  extension := fun htype => absurd htype (by decide)
  data := by
    have hnumbers : FieldFits (.units 4 5)
        (.pieces (List.replicate 4 (Word.octets32 0) ++ [Word.octets32 localTtl])) := by
      have hunits : ∀ unit ∈ List.replicate 4 (Word.octets32 0) ++ [Word.octets32 localTtl],
          unit.length = 4 := by decide
      exact .units hunits
    have hlayout : List.Forall₂ FieldFits (layoutOf 6)
        [.name blockedZone, .name blockedZone,
          .pieces (List.replicate 4 (Word.octets32 0) ++ [Word.octets32 localTtl])] :=
      .cons (.name valid_blockedZone) (.cons (.name valid_blockedZone) (.cons hnumbers .nil))
    exact .fields ⟨rfl, by decide⟩ (by decide) hlayout

theorem fits_unitsOf {owner : Name} (howner : owner.Valid) {type : UInt16} (htype : HasLayout type)
    {size count : Nat} (hlayout : layoutOf type = [.units size count]) (hsize : 0 < size)
    (hcount : 0 < count) {octets : Bytes} (h : octets.length = count * size)
    (rclass : UInt16) (ttl : UInt32) :
    (⟨owner, type, rclass, ttl, .fields [.pieces (unitsOf size octets)]⟩ : Record).Fits := by
  obtain ⟨hunits, hlengths⟩ := unitsOf_whole hsize h
  have hfield : FieldFits (.units size count) (.pieces (unitsOf size octets)) := by
    rw [← hunits]
    exact .units hlengths
  refine ⟨howner, ?_, ?_⟩
  · rintro rfl
    exact absurd htype.2 (by decide)
  · have hleast : 0 < layoutLeast type := by
      simp [layoutLeast, hlayout, FieldKind.least, hcount, hsize]
    refine .fields htype hleast ?_
    rw [hlayout]
    exact .cons hfield .nil

theorem fits_addressRecord {owner : Name} (howner : owner.Valid) (address : IpAddress) :
    (Message.addressRecord owner address).Fits := by
  cases address with
  | v4 octets =>
    exact @fits_unitsOf owner howner 1 ⟨rfl, by decide⟩ 1 4 rfl (by decide) (by decide) _
      octets.length_toList internetClass localTtl
  | v6 octets =>
    exact @fits_unitsOf owner howner 28 ⟨rfl, by decide⟩ 2 8 rfl (by decide) (by decide) _
      octets.length_toList internetClass localTtl

theorem room_addressRecord_le (owner : Name) (address : IpAddress) :
    (Message.addressRecord owner address).room ≤ owner.wireLength + 26 := by
  have hmost : layoutMost (Message.addressRecord owner address).type ≤ 16 := by
    cases address with
    | v4 octets => exact (by decide : layoutMost 1 ≤ 16)
    | v6 octets => exact (by decide : layoutMost 28 ≤ 16)
  have howner : (Message.addressRecord owner address).owner = owner := rfl
  unfold Record.room
  rw [howner]
  omega

namespace Message

/-- One question and no records, save an extension record without options. -/
structure AsksOnly (message : Message) (question : Question) : Prop where
  questions : message.questions = [question]
  authoritative : message.header.authoritative = false
  answers : message.answers = []
  authority : message.authority = []
  additional : message.additional = []
  options : ∀ extension ∈ message.extension, extension.options = []

variable {request : Message} {question : Question}

theorem AsksOnly.fits_extension (h : request.AsksOnly question) (hread : request.WasRead) :
    ∀ extension ∈ request.extension, extension.Fits := fun extension hextension =>
  ⟨hread.version extension hextension, hread.payloadSize extension hextension,
    h.options extension hextension⟩

theorem AsksOnly.valid_question (h : request.AsksOnly question) (hread : request.WasRead) :
    question.name.Valid := by
  apply hread.questions
  rw [h.questions]
  exact List.mem_singleton_self question

theorem AsksOnly.fits_answer (h : request.AsksOnly question) (hread : request.WasRead)
    {answer : Message} (hopcode : answer.header.opcode = request.header.opcode)
    (hcode : answer.header.responseCode = 0) (hquestions : answer.questions = request.questions)
    (hadditional : answer.additional = request.additional)
    (hextension : answer.extension = request.extension)
    (hanswers : ∀ record ∈ answer.answers, record.Fits)
    (hauthority : ∀ record ∈ answer.authority, record.Fits)
    (hroom : (answer.answers.map Record.room).sum + (answer.authority.map Record.room).sum ≤ 1000) :
    answer.Fits where
  opcode := by rw [hopcode]; exact hread.opcode
  responseCode := by
    unfold CodeFits
    rw [hcode]
    split <;> decide
  questions := by rw [hquestions]; exact hread.questions
  answers := hanswers
  authority := hauthority
  additional := by simp [hadditional, h.additional]
  ordinary := by simp [hadditional, h.additional]
  extension := by rw [hextension]; exact h.fits_extension hread
  room := by
    -- Besides its own records the answer has one question and at most one extension record.
    have hname : question.name.wireLength ≤ 255 := (h.valid_question hread).length
    have hsection : (answer.extensionSection.map Record.room).sum ≤ 266 := by
      unfold Message.extensionSection
      cases answer.extension with
      | none => simp
      | some extension => exact Nat.le_of_eq rfl
    simp only [Message.room, hquestions, hadditional, h.questions, h.additional, List.map_cons,
      List.map_nil, List.sum_cons, List.sum_nil, Question.room, headerLength, suffixLimit]
    omega

theorem AsksOnly.fits_blockedResponse (h : request.AsksOnly question) (hread : request.WasRead) :
    request.blockedResponse.Fits := by
  have hroom : blockedAuthority.room ≤ 1000 := by
    simp only [Record.room, blockedAuthority, blockedZone_eq]
    decide
  refine h.fits_answer hread (by rfl) (by rfl) (by rfl) (by rfl) (by rfl) ?_ ?_ ?_
  · simp [blockedResponse, h.answers]
  · simpa [blockedResponse, h.authority] using fits_blockedAuthority
  · simpa [blockedResponse, h.answers, h.authority] using hroom

theorem AsksOnly.answers_redirectedResponse (h : request.AsksOnly question) (target : String) :
    (request.redirectedResponse target).answers =
      ((IpAddress.parse? (Text.trim target)).map (addressRecord question.name)).toList := by
  simp only [redirectedResponse, h.answers, redirectAnswer?, h.questions, List.nil_append]
  cases IpAddress.parse? (Text.trim target) <;> rfl

theorem AsksOnly.fits_redirectedResponse (h : request.AsksOnly question)
    (hread : request.WasRead) (target : String) : (request.redirectedResponse target).Fits := by
  have hname := h.valid_question hread
  have hlength : question.name.wireLength ≤ 255 := hname.length
  refine h.fits_answer hread (by rfl) (by rfl) (by rfl) (by rfl) (by rfl) ?_ ?_ ?_
  · rw [h.answers_redirectedResponse]
    intro record hrecord
    obtain ⟨address, -, rfl⟩ : ∃ address, IpAddress.parse? (Text.trim target) = some address ∧
        addressRecord question.name address = record := by simpa using hrecord
    exact fits_addressRecord hname address
  · simp [redirectedResponse, h.authority]
  · rw [h.answers_redirectedResponse]
    have hauthority : (request.redirectedResponse target).authority = [] := h.authority
    rw [hauthority]
    cases IpAddress.parse? (Text.trim target) with
    | none => simp
    | some address =>
      have hroom := room_addressRecord_le question.name address
      simp
      omega

/-- The answer takes over what says which request it is for. -/
structure RespondsTo (answer request : Message) (question : Question) : Prop where
  id : answer.header.id = request.header.id
  opcode : answer.header.opcode = request.header.opcode
  questions : answer.questions = [question]
  response : answer.header.response = true
  responseCode : answer.header.responseCode = 0

/-- What is read in the answer about a blocked name. -/
structure Denies (answer request : Message) (question : Question) : Prop
    extends answer.RespondsTo request question, answer.DeniesOnly where
  recursionDesired : answer.header.recursionDesired = request.header.recursionDesired

/-- What is read in the answer about a redirected name. -/
structure PointsTo (answer request : Message) (question : Question) (target : String) : Prop
    extends answer.RespondsTo request question, answer.PointsOnlyTo request target where
  recursionDesired : answer.header.recursionDesired = false
  authoritative : answer.header.authoritative = true
  authority : answer.authority = []

theorem AsksOnly.denies (h : request.AsksOnly question) :
    request.blockedResponse.Denies request question where
  toDeniesOnly := deniesOnly_blockedResponse h.answers h.authority h.authoritative
  id := rfl
  opcode := rfl
  questions := h.questions
  response := rfl
  responseCode := rfl
  recursionDesired := rfl

theorem AsksOnly.pointsTo (h : request.AsksOnly question) (target : String) :
    (request.redirectedResponse target).PointsTo request question target where
  toPointsOnlyTo := pointsOnlyTo_redirectedResponse h.answers (by simp [h.questions]) target
  id := rfl
  opcode := rfl
  questions := h.questions
  response := rfl
  responseCode := rfl
  recursionDesired := rfl
  authoritative := rfl
  authority := h.authority

end Message

end Dns

/-- The session has one more packet, back along the flow, and a message like that is read in it. -/
def QueuesMessage (session after : SessionState Flow) (flow : Flow) (P : Dns.Message → Prop) :
    Prop :=
  ∃ packet octets message, after = session.queue packet ∧
    Packet.datagram? packet = some (flow.reversed, octets) ∧
    Dns.Message.decode octets = .ok message ∧ P message

theorem queuesMessage_answerLocally {flow : Flow} (hflow : flow.OneFamily)
    {response : Dns.Message} (hfits : response.Fits) (session : SessionState Flow)
    {P : Dns.Message → Prop} (hresponse : P response) :
    QueuesMessage session (answerLocally flow response session) flow P := by
  obtain ⟨octets, hencode, hlength, hdecode⟩ := hfits.decode_encode
  obtain ⟨packet, hpacket, hread⟩ := Packet.response_ok octets hflow
  have hroom := hfits.room
  have hmost : octets.length ≤ flow.maxPayload := by
    have hlimit : Dns.suffixLimit = 16383 := rfl
    unfold Flow.maxPayload
    split <;> omega
  refine ⟨packet, octets, response, ?_, hread hmost, hdecode, hresponse⟩
  simp only [answerLocally, hencode, queueAnswer, hpacket]

/-- A request with one question and no records is answered here with a message that arrives as it
was made, with the question as it was asked. -/
theorem localAnswer_arrives {κ σ : Type} (classify : Classifier κ) (resolve : Resolver σ Flow)
    {packet payload : Bytes} {flow : Flow} {address : IpAddress} {message : Dns.Message}
    {question : Dns.Question} {session : SessionState Flow} (classifier : κ) (state : σ)
    (hdatagram : Packet.datagram? packet = some (flow, payload))
    (hmapped : session.servers.reverseLookup flow.destination = some address)
    (hdecoded : Dns.Message.decode payload = .ok message) (honly : message.AsksOnly question) :
    let after := (handlePacket classify resolve packet session classifier state).session
    ((classify question.name.host classifier).1 = .blocked →
      QueuesMessage session after flow (·.Denies message question)) ∧
    ∀ target, (classify question.name.host classifier).1 = .redirected target →
      QueuesMessage session after flow (·.PointsTo message question target) := by
  intro after
  have hread := Dns.Message.wasRead hdecoded
  have hhead : message.questions.head? = some question := by
    rw [honly.questions]
    rfl
  have hask : AsksAbout session.servers packet flow ⟨address, flow.destinationPort⟩ payload
      message question.name.host :=
    ⟨hdatagram, hmapped, rfl, hdecoded, question, hhead, rfl⟩
  have hdns : TunnelRequest.ofPacket session.servers packet =
      .dns ⟨flow, ⟨address, flow.destinationPort⟩, payload, message, question.name.host⟩ :=
    TunnelRequest.ofPacket_eq_dns_iff.2 hask
  have hafter : after = (handleDns classify resolve
      ⟨flow, ⟨address, flow.destinationPort⟩, payload, message, question.name.host⟩ session
        classifier state).session :=
    congrArg Handled.session (handlePacket_dns classify resolve session classifier state hdns)
  constructor
  · intro hblocked
    rw [hafter, handleDns_blocked classify resolve session classifier state (Prod.ext hblocked rfl)]
    exact queuesMessage_answerLocally hask.oneFamily (honly.fits_blockedResponse hread) session
      honly.denies
  · intro target hredirected
    rw [hafter, handleDns_redirected classify resolve session classifier state
      (Prod.ext hredirected rfl)]
    exact queuesMessage_answerLocally hask.oneFamily (honly.fits_redirectedResponse hread target)
      session (honly.pointsTo target)

def constantly : Classifier Classification := fun _ decision => (decision, decision)

theorem localAnswer_arrives_mixedCase :
    mixedCaseMessage.AsksOnly ⟨mixedCaseName, 1, 1⟩ ∧
      QueuesMessage (.new oneServer 1)
        (handlePacket constantly (Forwarder.resolve UdpPath.offline 0) mixedCasePacket
          (.new oneServer 1) .blocked .udp).session mixedCaseFlow
        (·.Denies mixedCaseMessage ⟨mixedCaseName, 1, 1⟩) ∧
      QueuesMessage (.new oneServer 1)
        (handlePacket constantly (Forwarder.resolve UdpPath.offline 0) mixedCasePacket
          (.new oneServer 1) (.redirected "9.9.9.9") .udp).session mixedCaseFlow
        (·.PointsTo mixedCaseMessage ⟨mixedCaseName, 1, 1⟩ "9.9.9.9") := by
  have honly : mixedCaseMessage.AsksOnly ⟨mixedCaseName, 1, 1⟩ :=
    ⟨rfl, rfl, rfl, rfl, rfl, by simp [mixedCaseMessage]⟩
  have hmapped : (SessionState.new oneServer 1 : SessionState Flow).servers.reverseLookup
      mixedCaseFlow.destination = some (.v4 (Vector.replicate 4 9)) := mixedCase_asksAbout.mapped
  have harrives := fun decision => localAnswer_arrives constantly
    (Forwarder.resolve UdpPath.offline 0) decision .udp mixedCase_asksAbout.datagram hmapped
    mixedCase_asksAbout.decoded honly
  exact ⟨honly, (harrives .blocked).1 rfl, (harrives (.redirected "9.9.9.9")).2 "9.9.9.9" rfl⟩

end Sinkhole
