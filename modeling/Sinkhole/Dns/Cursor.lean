import Sinkhole.Octets

/-! # Reading a message

A cursor stands in a message: it knows what is ahead and how far it has come. Readers move it
forward and fail with the cause.
-/
namespace Sinkhole.Dns

inductive DecodeError where
  | endOfMessage
  | badLabel
  | badPointer
  | nameTooLong
  | badOpcode
  | badExtension
  | badRecordLength
  | badRecordData
deriving DecidableEq, Repr

structure Cursor where
  message : Bytes
  position : Nat
  rest : Bytes
deriving DecidableEq, Repr

abbrev Decoder := StateT Cursor (Except DecodeError)

namespace Cursor

def start (message : Bytes) : Cursor := ⟨message, 0, message⟩

end Cursor

namespace Decoder

def octet : Decoder UInt8 := fun cursor =>
  match cursor.rest with
  | [] => .error .endOfMessage
  | b :: rest => .ok (b, { cursor with position := cursor.position + 1, rest := rest })

def word16 : Decoder UInt16 := fun cursor =>
  match cursor.rest with
  | a :: b :: rest =>
    .ok (Word.of16 a b, { cursor with position := cursor.position + 2, rest := rest })
  | _ => .error .endOfMessage

def word32 : Decoder UInt32 := fun cursor =>
  match cursor.rest with
  | a :: b :: c :: d :: rest =>
    .ok (Word.of32 a b c d, { cursor with position := cursor.position + 4, rest := rest })
  | _ => .error .endOfMessage

def octets (count : Nat) : Decoder Bytes := fun cursor =>
  if cursor.rest.length < count then .error .endOfMessage
  else .ok (cursor.rest.take count,
    { cursor with position := cursor.position + count, rest := cursor.rest.drop count })

def counted : Decoder Bytes := do
  let count ← octet
  octets count.toNat

def position : Decoder Nat := fun cursor => .ok (cursor.position, cursor)

def remaining : Decoder Nat := fun cursor => .ok (cursor.rest.length, cursor)

def fail {α : Type} (cause : DecodeError) : Decoder α := fun _ => .error cause

def repeated {α : Type} (count : Nat) (read : Decoder α) : Decoder (List α) :=
  match count with
  | 0 => pure []
  | count + 1 => do
    let first ← read
    let others ← repeated count read
    pure (first :: others)

end Decoder

end Sinkhole.Dns
