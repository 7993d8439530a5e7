import Sinkhole.Dns.Cursor
import Sinkhole.Dns.Name

/-! # Reading names

Labels stand behind their lengths and a zero ends the name. Instead of its last labels a name may
have a pointer to where they were written before. Reading follows pointers backwards only: each
one has to go before the start of the labels it ends, and what it points to has to end before them
as well, so every name is read in finitely many steps.
-/
namespace Sinkhole.Dns

namespace Name

/-- Reads labels up to the end of a name. `start` is where they began, `limit` is where a name
that points here began, and `used` counts the octets of the labels read so far. The position
returned is behind what stands at `start`. -/
def readLabels (message : Bytes) (start : Nat) (limit : Option Nat) (used position : Nat)
    (rest : Bytes) : Except DecodeError (List Label × Nat) :=
  if limit.any (· ≤ position) then .error .badPointer
  else
    match rest with
    | [] => .error .endOfMessage
    | first :: rest =>
      if first = 0 then .ok ([], position + 1)
      else if first < 64 then
        let length := first.toNat
        if rest.length < length then .error .endOfMessage
        else if maxNameLength ≤ used + length + 1 then .error .nameTooLong
        else
          match readLabels message start limit (used + length + 1) (position + 1 + length)
              (rest.drop length) with
          | .ok (labels, next) => .ok (rest.take length :: labels, next)
          | .error cause => .error cause
      else if first < 192 then .error .badLabel
      else
        match rest with
        | [] => .error .endOfMessage
        | second :: _ =>
          let target := (first.toNat - 192) * 256 + second.toNat
          if target < start then
            match readLabels message target (some start) used target (message.drop target) with
            | .ok (labels, _) => .ok (labels, position + 2)
            | .error cause => .error cause
          else .error .badPointer
termination_by (start, rest.length)
decreasing_by
  · apply Prod.Lex.right
    simp only [List.length_drop, List.length_cons]
    omega
  · exact Prod.Lex.left _ _ (by assumption)

end Name

def Decoder.name : Decoder Name := fun cursor =>
  match Name.readLabels cursor.message cursor.position none 0 cursor.position cursor.rest with
  | .ok (labels, next) =>
    .ok (⟨labels⟩, { cursor with
      position := next
      rest := cursor.rest.drop (next - cursor.position) })
  | .error cause => .error cause

namespace Name

def lowercase (name : Name) : Name :=
  ⟨name.labels.map fun label => label.map fun octet =>
    if 65 ≤ octet && octet ≤ 90 then octet + 32 else octet⟩

end Name

end Sinkhole.Dns
