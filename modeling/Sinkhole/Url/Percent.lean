import Sinkhole.Octets

/-! # Percent encoding

Octets that a part of a URL may not hold are written as a percent sign and two uppercase
hexadecimal digits. Each part has its own class of octets to encode; controls and octets beyond
ASCII always are.
-/
namespace Sinkhole.Url

def upperHexDigit (n : Nat) : Char :=
  if n < 10 then Char.ofNat (48 + n) else Char.ofNat (55 + n)

def percentOctet (octet : UInt8) : List Char :=
  ['%', upperHexDigit (octet.toNat / 16), upperHexDigit (octet.toNat % 16)]

def isControl (octet : UInt8) : Bool := octet < 0x20 || 0x7e < octet

def encodesIn (extra : List Char) (octet : UInt8) : Bool :=
  isControl octet || extra.contains (Char.ofNat octet.toNat)

def inFragment : UInt8 → Bool := encodesIn [' ', '"', '<', '>', '\x60']

def inQuery : UInt8 → Bool := encodesIn [' ', '"', '#', '<', '>']

def inSpecialQuery : UInt8 → Bool := encodesIn [' ', '"', '#', '<', '>', '\x27']

def inPath : UInt8 → Bool :=
  encodesIn [' ', '"', '<', '>', '\x60', '#', '?', '\x7b', '\x7d']

def inUserinfo : UInt8 → Bool :=
  encodesIn [' ', '"', '<', '>', '\x60', '#', '?', '\x7b', '\x7d', '/', ':', ';', '=', '@', '[',
    '\\', ']', '^', '|']

def percentEncode (encodes : UInt8 → Bool) (text : List Char) : List Char :=
  (String.ofList text).toUTF8.toList.flatMap fun octet =>
    if encodes octet then percentOctet octet else [Char.ofNat octet.toNat]

def hexValue? (octet : UInt8) : Option Nat :=
  let n := octet.toNat
  if 48 ≤ n ∧ n ≤ 57 then some (n - 48)
  else if 97 ≤ n ∧ n ≤ 102 then some (n - 87)
  else if 65 ≤ n ∧ n ≤ 70 then some (n - 55)
  else none

def percentDecode : Bytes → Bytes
  | octet :: high :: low :: rest =>
    match octet, hexValue? high, hexValue? low with
    | 37, some h, some l => UInt8.ofNat (h * 16 + l) :: percentDecode rest
    | _, _, _ => octet :: percentDecode (high :: low :: rest)
  | octets => octets

end Sinkhole.Url
