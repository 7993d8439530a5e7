import Sinkhole.Address
import Sinkhole.Text.Digits

/-! # Reading addresses

An IPv4 number has one to three decimal digits and no leading zero. An IPv6 address has eight
groups of one to four hexadecimal digits, or fewer with one `::` standing for at least one zero
group; its last two groups may be written as an IPv4 address. A socket address adds a port, and
an IPv6 one is bracketed and may name a zone number.

Each reader takes the characters ahead and returns its value with the characters behind it.
-/
namespace Sinkhole

namespace IpAddress

/-- A number below `limit`; `maxDigits` bounds its length where given. -/
def readNumber (base limit : Nat) (maxDigits : Option Nat) (leadingZero : Bool)
    (text : List Char) : Option (Nat × List Char) :=
  let (digits, rest) := spanDigits base text
  let tooLong := match maxDigits with
    | some bound => decide (bound < digits.length)
    | none => false
  let padded := !leadingZero && digits.head? == some 0 && decide (1 < digits.length)
  let value := digitsValue base digits
  if digits.isEmpty || tooLong || padded || limit ≤ value then none
  else some (value, rest)

def readChar (c : Char) : List Char → Option (List Char)
  | [] => none
  | d :: rest => if d = c then some rest else none

def readOctet (text : List Char) : Option (UInt8 × List Char) :=
  (readNumber 10 256 (some 3) false text).map fun (value, rest) => (UInt8.ofNat value, rest)

def readOctets4 (text : List Char) : Option ((UInt8 × UInt8 × UInt8 × UInt8) × List Char) := do
  let (a, text) ← readOctet text
  let text ← readChar '.' text
  let (b, text) ← readOctet text
  let text ← readChar '.' text
  let (c, text) ← readOctet text
  let text ← readChar '.' text
  let (d, text) ← readOctet text
  pure ((a, b, c, d), text)

/-- Up to `room` groups with colons between them, and whether they end in an IPv4 address. A colon
leads when a group was read before. -/
def readGroups : (room : Nat) → (first : Bool) → List Char → List Nat × Bool × List Char
  | 0, _, text => ([], false, text)
  | room + 1, first, text =>
    let body := if first then some text else readChar ':' text
    let embedded := if room = 0 then none else body.bind readOctets4
    match embedded with
    | some ((a, b, c, d), rest) =>
      ([a.toNat * 256 + b.toNat, c.toNat * 256 + d.toNat], true, rest)
    | none =>
      match body.bind (readNumber 16 65536 (some 4) true) with
      | some (group, rest) =>
        let (groups, embedded, rest) := readGroups room false rest
        (group :: groups, embedded, rest)
      | none => ([], false, text)

def readV4 (text : List Char) : Option (IpAddress × List Char) :=
  (readOctets4 text).map fun ((a, b, c, d), rest) => (v4 #v[a, b, c, d], rest)

def readV6 (text : List Char) : Option (IpAddress × List Char) := do
  let (head, headV4, text) := readGroups 8 true text
  if head.length = 8 then pure (ofGroups head, text)
  else if headV4 then none
  else
    let text ← readChar ':' text
    let text ← readChar ':' text
    let (tail, _, text) := readGroups (7 - head.length) true text
    pure (ofGroups (head ++ List.replicate (8 - head.length - tail.length) 0 ++ tail), text)

def whole {α : Type} (read : List Char → Option (α × List Char)) (text : String) : Option α :=
  match read text.toList with
  | some (value, []) => some value
  | _ => none

def parse? (text : String) : Option IpAddress :=
  whole (fun cs => (readV4 cs).or (readV6 cs)) text

end IpAddress

structure SocketAddress where
  endpoint : Endpoint
  zone : Nat := 0
deriving DecidableEq, Repr

namespace SocketAddress

open IpAddress

def readPort (text : List Char) : Option (UInt16 × List Char) := do
  let text ← readChar ':' text
  let (port, text) ← readNumber 10 65536 none true text
  pure (UInt16.ofNat port, text)

def readV4 (text : List Char) : Option (SocketAddress × List Char) := do
  let (address, text) ← IpAddress.readV4 text
  let (port, text) ← readPort text
  pure (⟨⟨address, port⟩, 0⟩, text)

/-- A zone number after a percent sign; without one the zone is zero and nothing is consumed. -/
def readZone (text : List Char) : Nat × List Char :=
  match readChar '%' text with
  | none => (0, text)
  | some rest =>
    match readNumber 10 4294967296 none true rest with
    | none => (0, text)
    | some zone => zone

def readV6 (text : List Char) : Option (SocketAddress × List Char) := do
  let text ← readChar '[' text
  let (address, text) ← IpAddress.readV6 text
  let (zone, text) := readZone text
  let text ← readChar ']' text
  let (port, text) ← readPort text
  pure (⟨⟨address, port⟩, zone⟩, text)

def parse? (text : String) : Option SocketAddress :=
  whole (fun cs => (readV4 cs).or (readV6 cs)) text

end SocketAddress

end Sinkhole
