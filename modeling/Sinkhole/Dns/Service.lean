import Sinkhole.Dns.RecordLayout

/-! # Service parameters

The parameters of a service record are keys in increasing order, each with a value behind its
length. Some values have a form: lists of keys, of protocol names or of addresses, a port, or
octets behind a second length. Other values are written behind a length of one octet more, which
counts modulo 256.
-/
namespace Sinkhole.Dns

/-- A key with its value in the pieces in which it is written. -/
structure ServiceParameter where
  key : UInt16
  value : List Bytes
deriving DecidableEq, Repr

def protocolNames? (octets : Bytes) : Option (List Bytes) :=
  match octets with
  | [] => some []
  | length :: rest =>
    let name := rest.take length.toNat
    if rest.length < length.toNat || (String.fromUTF8? ⟨name.toArray⟩).isNone then none
    else (protocolNames? (rest.drop length.toNat)).map ([length] :: name :: ·)
termination_by octets.length
decreasing_by
  simp only [List.length_drop, List.length_cons]
  omega

def innerOctets? : Bytes → Option Bytes
  | a :: b :: rest =>
    let length := (Word.of16 a b).toNat
    if rest.length < length then none else some (rest.take length)
  | _ => none

/-- The value of a parameter, if its octets have the form that the key asks for. -/
def parameterValue? (key : UInt16) (octets : Bytes) : Option (List Bytes) :=
  match key.toNat with
  | 0 => if octets.length % 2 = 0 && !octets.isEmpty then some (unitsOf 2 octets) else none
  | 1 => if octets.isEmpty then none else protocolNames? octets
  | 2 => if octets.isEmpty then some [] else none
  | 3 => if octets.length < 2 then none else some [octets.take 2]
  | 4 => if octets.length % 4 = 0 then some (unitsOf 1 octets) else none
  | 5 => (innerOctets? octets).map fun inner =>
      [Word.octets16 (UInt16.ofNat inner.length), inner]
  | 6 => if octets.length % 16 = 0 then some (unitsOf 2 octets) else none
  | _ => some [[Encoder.lengthOctet octets], octets]

namespace Decoder

def parameter : Decoder ServiceParameter := do
  let key ← word16
  let length ← word16
  let octets ← octets length.toNat
  match parameterValue? key octets with
  | some value => pure ⟨key, value⟩
  | none => fail .badRecordData

/-- Parameters while at least a key and a length fit before `stop`. -/
def parameters (stop : Nat) (last : Option UInt16) : (steps : Nat) →
    Decoder (List ServiceParameter)
  | 0 => pure []
  | steps + 1 => do
    let here ← position
    if stop < here then fail .badRecordLength
    else if stop < here + 4 then pure []
    else
      let first ← parameter
      if last.any (first.key ≤ ·) then fail .badRecordData
      else
        let others ← parameters stop (some first.key) steps
        pure (first :: others)

end Decoder

namespace Encoder

def parameters : List ServiceParameter → Encoder Unit
  | [] => pure ()
  | first :: others => do
    word16 first.key
    measured (pieces first.value)
    parameters others

end Encoder

end Sinkhole.Dns
