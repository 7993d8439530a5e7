import Sinkhole.Octets

/-! # Sets of record types

A set of record types is written in windows of 256 types: the window's number, the length of its
bitmap and the bitmap without zero octets at its end.
-/
namespace Sinkhole.Dns

/-- The numbers of the bits that are set, the highest bit being number zero. -/
def bitsOf (octet : UInt8) : List Nat :=
  (List.range 8).filter fun i => octet.toNat.testBit (7 - i)

/-- The types in a window's bitmap, unless it goes past the window. -/
def windowTypes? (window : Nat) (bitmap : Bytes) : Option (List Nat) :=
  let types := bitmap.zipIdx.flatMap fun (octet, i) =>
    (bitsOf octet).map fun bit => i * 8 + bit
  if types.any (255 < ·) then none else some (types.map (window * 256 + ·))

/-- The types of a sequence of windows. The last window may be cut off anywhere. -/
def readTypeSet? (octets : Bytes) : Option (List Nat) :=
  match octets with
  | window :: length :: rest =>
    if rest.isEmpty then some []
    else if length = 0 then none
    else do
      let types ← windowTypes? window.toNat (rest.take length.toNat)
      let others ← readTypeSet? (rest.drop length.toNat)
      pure (types ++ others)
  | _ => some []
termination_by octets.length
decreasing_by
  simp only [List.length_drop, List.length_cons]
  omega

/-- The octet of the types from `base` to `base + 7` that are in the set. -/
def bitmapOctet (types : List Nat) (base : Nat) : UInt8 :=
  UInt8.ofNat ((List.range 8).foldl (fun octet i =>
    if types.contains (base + i) then octet + (1 <<< (7 - i)) else octet) 0)

/-- The window with its bitmap, when a type of the set lies in it. -/
def writeWindow (types : List Nat) (window : Nat) : Bytes :=
  let inWindow := (types.filter fun type => type / 256 = window).map (· % 256)
  match inWindow.max? with
  | none => []
  | some highest =>
    let length := highest / 8 + 1
    UInt8.ofNat window :: UInt8.ofNat length ::
      (List.range length).map fun i => bitmapOctet inWindow (i * 8)

def writeTypeSet (types : List Nat) : Bytes :=
  (List.range 256).flatMap (writeWindow types)

end Sinkhole.Dns
