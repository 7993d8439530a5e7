import Sinkhole.Dns.Authorization
import Sinkhole.Dns.Extension
import Sinkhole.Dns.RecordLayout
import Sinkhole.Dns.Service
import Sinkhole.Dns.TypeBitmap

/-! # Resource records

A record is an owner, a type, a class, a time to live and data. Data without octets is kept as
such whatever the type. Reading fails unless it ends exactly where the length says.
-/
namespace Sinkhole.Dns

inductive RecordData where
  | empty
  | fields (values : List FieldValue)
  | options (options : List ExtensionOption)
  /-- A serial number, two flags and a set of types to synchronize. -/
  | synchronization (serial : Bytes) (immediate minimum : Bool) (types : List Nat)
  /-- Priority, target and parameters of a service. -/
  | service (priority : UInt16) (target : Name) (parameters : List ServiceParameter)
  | authorization (authorization : Authorization)
deriving DecidableEq, Repr

structure Record where
  owner : Name
  type : UInt16
  rclass : UInt16
  ttl : UInt32
  data : RecordData
deriving DecidableEq, Repr

def extensionType : UInt16 := 41

/-- The smallest size of answers that an extension record can ask for. -/
def minPayloadSize : UInt16 := 512

/-- Types that only questions have, and the type zero. -/
def isQuestionOnly (type : UInt16) : Bool := [0, 251, 252, 255].contains type.toNat

namespace Decoder

def synchronization (stop : Nat) : Decoder RecordData := do
  let serial ← octets 4
  let high ← octet
  let low ← octet
  if 4 ≤ low then fail .badRecordData
  else
    let _ := high
    match readTypeSet? (← upTo stop) with
    | some types => pure (.synchronization serial (low.toNat % 2 = 1) (2 ≤ low) types)
    | none => fail .badRecordData

def service (stop : Nat) : Decoder RecordData := do
  let priority ← word16
  let target ← name
  let here ← position
  let parameters ← parameters stop none (stop - here + 1)
  pure (.service priority target parameters)

def options (length : Nat) : Decoder RecordData := do
  let data ← octets length
  match readOptions length [] data with
  | .options found => pure (.options found)
  | .incomplete => pure (.options [])
  | .malformed => fail .badExtension

def authorization (length : Nat) : Decoder RecordData := do
  let data ← octets length
  match authorization? data with
  | some value => pure (.authorization value)
  | none => fail .badRecordData

/-- The data of a record, which stands before `stop`. -/
def recordData (type : UInt16) (length stop : Nat) : Decoder RecordData :=
  if length = 0 then pure .empty
  else if isQuestionOnly type then fail .badRecordData
  else
    match type.toNat with
    | 41 => options length
    | 62 => synchronization stop
    | 64 => service stop
    | 65 => service stop
    | 257 => authorization length
    | _ => do
      let values ← fields stop (layoutOf type)
      pure (.fields values)

/-- The class of a record. That of the extension record is a size with a least value, and its
owner is the root. -/
def recordClass (owner : Name) (type : UInt16) : Decoder UInt16 := do
  let value ← word16
  if type = extensionType then
    if owner.labels.isEmpty then pure (max value minPayloadSize) else fail .badExtension
  else pure value

def record : Decoder Record := do
  let owner ← name
  let type ← word16
  let rclass ← recordClass owner type
  let ttl ← word32
  let length ← word16
  if (← remaining) < length.toNat then fail .badRecordLength
  else
    let stop := (← position) + length.toNat
    let data ← recordData type length.toNat stop
    if (← position) = stop then pure ⟨owner, type, rclass, ttl, data⟩
    else fail .badRecordLength

end Decoder

namespace Encoder

def recordData : RecordData → Encoder Unit
  | .empty => pure ()
  | .fields values => fields values
  | .options held => pieces (held.flatMap ExtensionOption.pieces)
  | .synchronization serial immediate minimum types => do
    let flags : UInt8 := (if immediate then 1 else 0) + (if minimum then 2 else 0)
    pieces [serial, [0, flags]]
    pieces (unitsOf 1 (writeTypeSet types))
  | .service priority target held => do
    word16 priority
    name false target
    parameters held
  | .authorization held => pieces held.pieces

def record (record : Record) : Encoder Unit := do
  name false record.owner
  word16 record.type
  word16 record.rclass
  word32 record.ttl
  measured (recordData record.data)

end Encoder

end Sinkhole.Dns
