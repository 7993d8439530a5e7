import Sinkhole.Dns.Record

/-! # Messages

A message is a header, questions and three sections of records. One extension record in the last
section is kept apart, as the properties it stands for; a second one makes the message invalid. It
has the high part of the response code, of which the header has room for the lowest four bits.
Octets behind the last record are ignored. Writing puts the extension record last.
-/
namespace Sinkhole.Dns

structure Header where
  id : UInt16
  response : Bool
  opcode : Nat
  authoritative : Bool
  truncated : Bool
  recursionDesired : Bool
  recursionAvailable : Bool
  authenticData : Bool
  checkingDisabled : Bool
  responseCode : Nat
deriving DecidableEq, Repr

structure Question where
  name : Name
  qtype : UInt16
  qclass : UInt16
deriving DecidableEq, Repr

structure Extension where
  version : Nat
  dnssecOk : Bool
  payloadSize : UInt16
  options : List ExtensionOption
deriving DecidableEq, Repr

structure Message where
  header : Header
  questions : List Question
  answers : List Record
  authority : List Record
  additional : List Record
  extension : Option Extension
deriving DecidableEq, Repr

/-- Bit `i` of an octet, the lowest being bit zero. -/
def bit (octet : UInt8) (i : Nat) : Bool := octet.toNat.testBit i

def isKnownOpcode (opcode : Nat) : Bool := [0, 2, 4, 5].contains opcode

def headerCodes : Nat := 16

namespace Decoder

def header : Decoder Header := do
  let id ← word16
  let high ← octet
  let opcode := high.toNat / 8 % 16
  if !isKnownOpcode opcode then fail .badOpcode
  else
    let low ← octet
    pure {
      id := id
      response := bit high 7
      opcode := opcode
      authoritative := bit high 2
      truncated := bit high 1
      recursionDesired := bit high 0
      recursionAvailable := bit low 7
      authenticData := bit low 5
      checkingDisabled := bit low 4
      responseCode := low.toNat % headerCodes }

def question : Decoder Question := do
  let name ← name
  let qtype ← word16
  let qclass ← word16
  pure ⟨name, qtype, qclass⟩

end Decoder

/-- The part of the response code that the extension record has. -/
def highCode (extension : Option Record) : Nat :=
  match extension with
  | some record => record.ttl.toNat / 16777216
  | none => 0

def Extension.ofRecord (record : Record) : Extension where
  version := record.ttl.toNat / 65536 % 256
  dnssecOk := record.ttl.toNat / 32768 % 2 = 1
  payloadSize := record.rclass
  options := match record.data with
    | .options options => options
    | _ => []

def Extension.toRecord (extension : Extension) (responseCode : Nat) : Record where
  owner := Name.root
  type := extensionType
  rclass := extension.payloadSize
  ttl := UInt32.ofNat (responseCode / headerCodes % 256 * 16777216 + extension.version * 65536 +
    if extension.dnssecOk then 32768 else 0)
  data := if extension.options.isEmpty then .empty else .options extension.options

/-- Takes the extension record out of a section; `none` when there are two. -/
def splitExtension? (records : List Record) : Option (List Record × Option Record) :=
  let others := records.filter (·.type != extensionType)
  match records.filter (·.type == extensionType) with
  | [] => some (others, none)
  | [record] => some (others, some record)
  | _ => none

def Decoder.message : Decoder Message := do
  let header ← header
  let questionCount ← word16
  let answerCount ← word16
  let authorityCount ← word16
  let additionalCount ← word16
  let questions ← repeated questionCount.toNat question
  let answers ← repeated answerCount.toNat record
  let authority ← repeated authorityCount.toNat record
  let additional ← repeated additionalCount.toNat record
  match splitExtension? additional with
  | some (additional, extension) =>
    let header := { header with
      responseCode := highCode extension * headerCodes + header.responseCode }
    pure ⟨header, questions, answers, authority, additional, extension.map .ofRecord⟩
  | none => fail .badExtension

namespace Message

def decode (octets : Bytes) : Except DecodeError Message :=
  (Decoder.message.run (.start octets)).map (·.1)

end Message

def placed (set : Bool) (i : Nat) : Nat := if set then 1 <<< i else 0

def Header.octets (header : Header) : Bytes :=
  let high := placed header.response 7 + header.opcode * 8 + placed header.authoritative 2 +
    placed header.truncated 1 + placed header.recursionDesired 0
  let low := placed header.recursionAvailable 7 + placed header.authenticData 5 +
    placed header.checkingDisabled 4 + header.responseCode % headerCodes
  Word.octets16 header.id ++ [UInt8.ofNat high, UInt8.ofNat low]

def countOctets (count : Nat) : Bytes := Word.octets16 (UInt16.ofNat count)

def headerLength : Nat := 12

structure Section where
  count : Nat
  cut : Bool
deriving DecidableEq, Repr

namespace Encoder

def question (question : Question) : Encoder Unit := do
  name false question.name
  word16 question.qtype
  word16 question.qclass

def questions : List Question → Encoder Unit
  | [] => pure ()
  | first :: others => do
    question first
    questions others

/-- Writes records until one no longer fits, which is left out with all after it: what follows is
written over it. -/
def records : List Record → Encoder Section
  | [] => pure ⟨0, false⟩
  | first :: others => fun draft =>
    let start := draft.position
    match record first draft with
    | .ok () draft =>
      match records others draft with
      | .ok rest draft => .ok { rest with count := rest.count + 1 } draft
      | .error cause draft => .error cause draft
    | .error .tooLong draft => .ok ⟨0, true⟩ { draft with position := start }
    | .error cause draft => .error cause draft

end Encoder

namespace Message

/-- The record of the extension, which is a section of its own: it is written even where records
before it no longer fit. -/
def extensionSection (message : Message) : List Record :=
  (message.extension.map (·.toRecord message.header.responseCode)).toList

end Message

/-- Writes a message. The header comes last, when the counts are known. -/
def Encoder.message (message : Message) : Encoder Unit := do
  reserve headerLength
  questions message.questions
  let answers ← records message.answers
  let authority ← records message.authority
  let additional ← records message.additional
  let extension ← records message.extensionSection
  let cut := answers.cut || authority.cut || additional.cut || extension.cut
  let header := { message.header with truncated := message.header.truncated || cut }
  fill 0 (header.octets ++ countOctets message.questions.length ++ countOctets answers.count ++
    countOctets authority.count ++ countOctets (additional.count + extension.count))

def Message.encode (message : Message) : Except EncodeError Bytes :=
  match Encoder.message message .empty with
  | .ok () draft => .ok draft.octets.toList
  | .error cause _ => .error cause

end Sinkhole.Dns
