import Sinkhole.Dns.Encoder
import Sinkhole.Dns.NameWire

/-! # Record layouts

The data of most record types is a fixed sequence of fields. A layout names the kinds of the
fields; reading gives their values, in which names are apart from other octets because only names
may be written with pointers, and some not even those. Other octets are written in the pieces in
which they were read.
-/
namespace Sinkhole.Dns

inductive FieldKind where
  /-- Units of as many octets. -/
  | units (size count : Nat)
  | name
  /-- A name that is written in full, in lowercase where so asked. -/
  | fullName (lower : Bool)
  /-- Text behind its length, of letters and digits only where so asked. -/
  | text (alphanumeric : Bool)
  /-- Texts up to the end of the data. -/
  | texts
  /-- All octets up to the end of the data, in one piece. -/
  | rest
  /-- The same, one by one. -/
  | singles
deriving DecidableEq, Repr

inductive FieldValue where
  | pieces (pieces : List Bytes)
  | name (name : Name)
  | fullName (name : Name)
deriving DecidableEq, Repr

/-- The layout of a record type, unless its data has a form of its own. -/
def layoutOf (type : UInt16) : List FieldKind :=
  match type.toNat with
  | 1 => [.units 1 4]
  | 2 => [.name]
  | 5 => [.name]
  | 6 => [.name, .name, .units 4 5]
  | 12 => [.name]
  | 13 => [.text false, .text false]
  | 15 => [.units 2 1, .name]
  | 16 => [.texts]
  | 28 => [.units 2 8]
  | 33 => [.units 2 3, .fullName true]
  | 35 => [.units 2 2, .text true, .text false, .text false, .fullName false]
  | 44 => [.units 1 2, .rest]
  | 52 => [.units 1 3, .rest]
  | 61 => [.rest]
  | 65305 => [.fullName true]
  | _ => [.singles]

def isAlphanumeric (octet : UInt8) : Bool := (Char.ofNat octet.toNat).isAlphanum

namespace Decoder

/-- Texts with their lengths, up to `stop`. Every reading moves forward, so as many steps as there
are octets are enough. -/
def textsUpTo (stop : Nat) : (steps : Nat) → Decoder (List Bytes)
  | 0 => pure []
  | steps + 1 => do
    if stop ≤ (← position) then pure []
    else
      let text ← counted
      let others ← textsUpTo stop steps
      pure ([Encoder.lengthOctet text] :: text :: others)

def upTo (stop : Nat) : Decoder Bytes := do
  let here ← position
  if stop < here then fail .badRecordLength else octets (stop - here)

def field (stop : Nat) : FieldKind → Decoder FieldValue
  | .units size count => do
    let value ← repeated count (octets size)
    pure (.pieces value)
  | .name => do
    let value ← name
    pure (.name value)
  | .fullName lower => do
    let value ← name
    pure (.fullName (if lower then value.lowercase else value))
  | .text alphanumeric => do
    let value ← counted
    if alphanumeric && !value.all isAlphanumeric then fail .badRecordData
    else pure (.pieces [[Encoder.lengthOctet value], value])
  | .texts => do
    let here ← position
    let value ← textsUpTo stop (stop - here)
    pure (.pieces value)
  | .rest => do
    let value ← upTo stop
    pure (.pieces [value])
  | .singles => do
    let value ← upTo stop
    pure (.pieces (value.map ([·])))

def fields (stop : Nat) : List FieldKind → Decoder (List FieldValue)
  | [] => pure []
  | kind :: kinds => do
    let value ← field stop kind
    let values ← fields stop kinds
    pure (value :: values)

end Decoder

namespace Encoder

def field : FieldValue → Encoder Unit
  | .pieces value => pieces value
  | .name value => name false value
  | .fullName value => name true value

def fields : List FieldValue → Encoder Unit
  | [] => pure ()
  | first :: others => do
    field first
    fields others

end Encoder

end Sinkhole.Dns
