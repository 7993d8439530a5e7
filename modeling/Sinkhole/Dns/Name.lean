import Sinkhole.Rules.Host
import Sinkhole.Octets

/-! # Domain names

A name is the list of its labels, and a label is any octets. In text the labels are separated by
points and followed by one; an octet that could be mistaken is written after a backslash, as
itself when it is visible ASCII and as three octal digits otherwise.
-/
namespace Sinkhole.Dns

abbrev Label := Bytes

structure Name where
  labels : List Label
deriving DecidableEq, Repr

def maxLabelLength : Nat := 63

/-- The longest name on the wire, its final zero included. -/
def maxNameLength : Nat := 255

namespace Name

def root : Name := ⟨[]⟩

def labelsLength (labels : List Label) : Nat :=
  labels.foldr (fun label octets => label.length + 1 + octets) 0

def wireLength (name : Name) : Nat := labelsLength name.labels + 1

/-- An octet that stands for itself in text; a hyphen does not when it opens a label. -/
def isPlain (first : Bool) (octet : UInt8) : Bool :=
  let c := Char.ofNat octet.toNat
  c.isAlphanum || c == '_' || (c == '-' && !first) || (c == '*' && first)

def octalDigits (octet : UInt8) : List Char :=
  let n := octet.toNat
  [Char.ofNat (48 + n / 64), Char.ofNat (48 + n / 8 % 8), Char.ofNat (48 + n % 8)]

def octetText (first : Bool) (octet : UInt8) : List Char :=
  if isPlain first octet then [Char.ofNat octet.toNat]
  else if 0x20 < octet && octet < 0x7f then ['\\', Char.ofNat octet.toNat]
  else '\\' :: octalDigits octet

def labelText : Label → List Char
  | [] => []
  | first :: rest => octetText true first ++ rest.flatMap (octetText false)

def text (name : Name) : String :=
  match name.labels with
  | [] => "."
  | labels => String.ofList (labels.flatMap fun label => labelText label ++ ['.'])

/-- The form in which rules see the name. -/
def host (name : Name) : String :=
  normalizeHost name.text

end Name

end Sinkhole.Dns
