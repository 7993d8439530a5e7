import Sinkhole.Address.Parser
import Sinkhole.Address.Printer
import Sinkhole.Domain.International
import Sinkhole.Url.Percent

/-! # Hosts of URLs

A host in square brackets is an IPv6 address. Under the schemes of the web a host is otherwise a
domain name, percent-decoded and in ASCII, or an IPv4 address when its last label is a number; IPv4
numbers may be hexadecimal or octal and the last one fills the octets that are left. Under other
schemes it is any text without delimiters.
-/
namespace Sinkhole.Url

inductive UrlError where
  | emptyHost
  | domainName
  | invalidPort
  | invalidIpv4
  | invalidIpv6
  | domainCharacter
  | noScheme
deriving DecidableEq, Repr

def UrlError.message : UrlError → String
  | emptyHost => "empty host"
  | domainName => "invalid international domain name"
  | invalidPort => "invalid port number"
  | invalidIpv4 => "invalid IPv4 address"
  | invalidIpv6 => "invalid IPv6 address"
  | domainCharacter => "invalid domain character"
  | noScheme => "relative URL without a base"

inductive Host where
  | domain (name : String)
  | address (address : IpAddress)
deriving DecidableEq, Repr

namespace Host

/-- The groups of an IPv6 address in a URL, which never end in IPv4 text. -/
def v6Text (groups : List Nat) : String :=
  let run := IpAddress.longestZeroRun groups 0 (0, 0) (0, 0)
  if 1 < run.2 then
    IpAddress.groupsText (groups.take run.1) ++ "::" ++
      IpAddress.groupsText (groups.drop (run.1 + run.2))
  else IpAddress.groupsText groups

def text : Host → String
  | domain name => name
  | address (.v4 octets) => (IpAddress.v4 octets).toText
  | address (.v6 octets) => "[" ++ v6Text (groupsOfOctets octets.toList) ++ "]"

/-- Characters that no domain name holds. -/
def forbiddenInDomain (c : Char) : Bool :=
  c.toNat ≤ 0x20 || c.toNat == 0x7f ||
    ['%', '#', '/', ':', '<', '>', '?', '@', '[', '\\', ']', '^', '|'].contains c

/-- Characters that no host holds under other schemes. -/
def forbiddenInHost (c : Char) : Bool :=
  ['\x00', '\t', '\n', '\r', ' ', '#', '/', ':', '<', '>', '?', '@', '[', '\\', ']', '^',
    '|'].contains c

/-- A number with its base: after `0x` hexadecimal, after another zero octal. The value is absent
when it takes more than 32 bits, and the result when this is no number. -/
def number? (text : List Char) : Option (Option Nat) :=
  let valueIn (base : Nat) (digits : List Char) : Option (Option Nat) :=
    match spanDigits base digits with
    | (values, []) =>
      let value := digitsValue base values
      some (if value < 4294967296 then some value else none)
    | _ => none
  match text with
  | [] => none
  | '0' :: 'x' :: digits => valueIn 16 digits
  | '0' :: 'X' :: digits => valueIn 16 digits
  | '0' :: d :: digits => valueIn 8 (d :: digits)
  | _ => valueIn 10 text

/-- The labels without an empty one at the end. -/
def significantLabels (name : List Char) : List (List Char) :=
  let parts := Text.parts (· == '.') name
  if 1 < parts.length && parts.getLast? == some [] then parts.dropLast else parts

def endsInNumber (name : List Char) : Bool :=
  match (significantLabels name).getLast? with
  | none => false
  | some last => (!last.isEmpty && last.all Char.isDigit) || (number? last).isSome

def ipv4OfNumbers? (numbers : List Nat) : Option IpAddress :=
  match numbers.getLast? with
  | none => none
  | some last =>
    let leading := numbers.dropLast
    if 4 < numbers.length || leading.any (255 < ·) || 1 <<< (8 * (4 - leading.length)) ≤ last then
      none
    else
      let value := leading.zipIdx.foldl (fun value (n, i) => value + (n <<< (8 * (3 - i)))) last
      some (.v4 #v[UInt8.ofNat (value / 16777216), UInt8.ofNat (value / 65536 % 256),
        UInt8.ofNat (value / 256 % 256), UInt8.ofNat (value % 256)])

def ipv4? (name : List Char) : Option IpAddress := do
  let parts ← (significantLabels name).mapM number?
  let numbers ← parts.mapM id
  ipv4OfNumbers? numbers

def bracketed (inner : List Char) : Except UrlError Host :=
  match inner.getLast? with
  | some ']' =>
    match IpAddress.readV6 inner.dropLast with
    | some (ip, []) => .ok (.address ip)
    | _ => .error .invalidIpv6
  | _ => .error .invalidIpv6

def ofDomain (text : List Char) : Except UrlError Host :=
  match text with
  | '[' :: inner => bracketed inner
  | _ =>
    let octets := percentDecode (String.ofList text).toUTF8.toList
    match String.fromUTF8? ⟨octets.toArray⟩ with
    | none => .error .domainName
    | some decoded =>
      match Domain.toAscii? forbiddenInDomain decoded.toList with
      | none => .error .domainName
      | some name =>
        if name.isEmpty then .error .emptyHost
        else if endsInNumber name then
          match ipv4? name with
          | some ip => .ok (.address ip)
          | none => .error .invalidIpv4
        else .ok (.domain (String.ofList name))

def ofText (text : List Char) : Except UrlError Host :=
  match text with
  | '[' :: inner => bracketed inner
  | _ =>
    if text.any forbiddenInHost then .error .domainCharacter
    else .ok (.domain (String.ofList (percentEncode isControl text)))

end Host

end Sinkhole.Url
