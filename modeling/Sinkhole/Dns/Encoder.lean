import Sinkhole.Dns.Name

/-! # Writing a message

A message is written piece by piece into a draft. Writing mostly adds to the end of the draft; it
may also go back, to point to a name or because a record did not fit, and then goes over what was
written. A draft keeps what a failed writer left, so a writer's failure comes with a draft too.
-/
namespace Sinkhole.Dns

inductive EncodeError where
  | tooLong
  /-- A piece would start over written octets and go past their end. -/
  | overrun
deriving DecidableEq, Repr

abbrev SuffixTable := List (List Label × Nat)

structure Draft where
  octets : Array UInt8
  position : Nat
  suffixes : SuffixTable
deriving Repr

abbrev Encoder := EStateM EncodeError Draft

def maxMessageLength : Nat := 65535

/-- Names that end behind this position are not pointed to. -/
def suffixLimit : Nat := 0x3fff

def putOctets (octets : Array UInt8) (position : Nat) : Bytes → Array UInt8
  | [] => octets
  | octet :: rest => putOctets (octets.setIfInBounds position octet) (position + 1) rest

@[simp] theorem size_putOctets (octets : Array UInt8) (position : Nat) (piece : Bytes) :
    (putOctets octets position piece).size = octets.size := by
  induction piece generalizing octets position with
  | nil => rfl
  | cons octet rest ih => simp [putOctets, ih]

namespace Draft

def empty : Draft := ⟨#[], 0, []⟩

def AtEnd (draft : Draft) : Prop := draft.position = draft.octets.size

def append (draft : Draft) (piece : Bytes) : Draft where
  octets := draft.octets ++ piece
  position := draft.position + piece.length
  suffixes := draft.suffixes

def put (draft : Draft) (piece : Bytes) : Draft where
  octets := putOctets draft.octets draft.position piece
  position := draft.position + piece.length
  suffixes := draft.suffixes

theorem atEnd_empty : empty.AtEnd := rfl

theorem AtEnd.append {draft : Draft} (h : draft.AtEnd) (piece : Bytes) :
    (draft.append piece).AtEnd := by
  simp only [AtEnd] at h
  simp [AtEnd, Draft.append, h, ← Array.length_toList]

end Draft

namespace Encoder

def piece (octets : Bytes) : Encoder Unit := fun draft =>
  if draft.position < draft.octets.size then
    if draft.octets.size < draft.position + octets.length then .error .overrun draft
    else .ok () (draft.put octets)
  else if maxMessageLength < draft.octets.size + octets.length then .error .tooLong draft
  else .ok () (draft.append octets)

theorem piece_of_atEnd {draft : Draft} (h : draft.AtEnd) {octets : Bytes}
    (room : draft.octets.size + octets.length ≤ maxMessageLength) :
    piece octets draft = .ok () (draft.append octets) := by
  simp only [Draft.AtEnd] at h
  rw [piece, if_neg (by omega), if_neg (by omega)]

def pieces : List Bytes → Encoder Unit
  | [] => pure ()
  | first :: others => do
    piece first
    pieces others

def word16 (word : UInt16) : Encoder Unit := piece (Word.octets16 word)

def word32 (word : UInt32) : Encoder Unit := piece (Word.octets32 word)

def position : Encoder Nat := fun draft => .ok draft.position draft

/-- Leaves room for some octets. What was written behind them is given up. -/
def reserve (count : Nat) : Encoder Unit := fun draft =>
  let ending := draft.position + count
  if maxMessageLength < ending then .error .tooLong draft
  else
    let kept := draft.octets.shrink ending
    .ok () { draft with
      octets := kept ++ List.replicate (ending - kept.size) (0 : UInt8)
      position := ending }

def fill (start : Nat) (octets : Bytes) : Encoder Unit := fun draft =>
  .ok () { draft with octets := putOctets draft.octets start octets }

def measured (body : Encoder Unit) : Encoder Unit := do
  let start ← position
  reserve 2
  body
  let stop ← position
  fill start (Word.octets16 (UInt16.ofNat (stop - start - 2)))

/-- Where the suffix of a name was written, if it can be pointed to. -/
def suffix? (labels : List Label) : Encoder (Option Nat) := fun draft =>
  .ok (draft.suffixes.lookup labels) draft

/-- Remembers where the suffix of a name that was just written starts. -/
def remember (labels : List Label) (start : Nat) : Encoder Unit := fun draft =>
  if draft.position < suffixLimit then
    .ok () { draft with suffixes := draft.suffixes ++ [(labels, start)] }
  else .ok () draft

/-- Goes back to a position and gives up what was written from there on. -/
def backTo (start : Nat) : Encoder Unit := fun draft =>
  .ok () {
    octets := draft.octets.shrink start
    position := start
    suffixes := draft.suffixes.filter (·.2 < start) }

def pointer (target : Nat) : Bytes := Word.octets16 (UInt16.ofNat (0xc000 + target))

def lengthOctet (octets : Bytes) : UInt8 := UInt8.ofNat octets.length

def labels : List Label → Encoder (List (List Label × Nat))
  | [] => pure []
  | label :: rest => do
    let start ← position
    piece [lengthOctet label]
    piece label
    let others ← labels rest
    pure ((label :: rest, start) :: others)

/-- Ends a name. From the first suffix that was written before, a pointer takes the place of the
labels, unless the name has to be in full; the others are remembered. -/
def endName (full : Bool) : List (List Label × Nat) → Encoder Unit
  | [] => piece [0]
  | (suffix, start) :: others => do
    match ← suffix? suffix with
    | none =>
      remember suffix start
      endName full others
    | some target =>
      if full then endName full others
      else
        backTo start
        piece (pointer target)

def name (full : Bool) (name : Name) : Encoder Unit := do
  let suffixes ← labels name.labels
  endName full suffixes

end Encoder

end Sinkhole.Dns
