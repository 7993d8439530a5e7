import Sinkhole.Dns.IssuerName
import Sinkhole.Url.Parser

/-! # Certification authority authorizations

An authorization has a flag octet of which the highest bit counts, a tag of one to fifteen letters
and digits, and a value. Under the issuing tags the value is a domain name or none, then
parameters; it is written in one way only, with `; ` before every parameter. Under the reporting
tag it is a URL, written in its normal form. Other values are any octets.
-/
namespace Sinkhole.Dns

inductive TagKind where
  | issue
  | report
  | unknown
deriving DecidableEq, Repr

def asciiText (octets : Bytes) : String :=
  String.ofList (octets.map fun octet => Char.ofNat octet.toNat)

def utf8Octets (text : List Char) : Bytes := (String.ofList text).toUTF8.toList

/-- The tag's kind and the form in which a known tag is written. -/
def tagKind (tag : Bytes) : TagKind × Bytes :=
  match asciiText (tag.map fun octet => if 65 ≤ octet && octet ≤ 90 then octet + 32 else octet) with
  | "issue" => (.issue, "issue".toUTF8.toList)
  | "issuewild" => (.issue, "issuewild".toUTF8.toList)
  | "iodef" => (.report, "iodef".toUTF8.toList)
  | _ => (.unknown, tag)

structure IssuerParameter where
  key : List Char
  value : List Char
deriving DecidableEq, Repr

structure Issuer where
  name : Option IssuerName
  parameters : List IssuerParameter
deriving DecidableEq, Repr

/-- A key starts with one or two letters and digits and may then have hyphens too. -/
def isParameterKey (key : List Char) : Bool :=
  !key.isEmpty && (key.take 2).all Char.isAlphanum &&
    (key.drop 2).all fun c => c.isAlphanum || c == '-'

def isParameterValue (value : List Char) : Bool :=
  value.all fun c => !(isControl c || Text.isBlank c)

def issuerParameter? (text : List Char) : Option IssuerParameter :=
  let key := text.takeWhile (· != '=')
  match text.dropWhile (· != '=') with
  | [] => none
  | _ :: value =>
    if isParameterKey key && isParameterValue value then some ⟨key, value⟩ else none

def isKeyPadding (c : Char) : Bool := c == ' ' || c == '\t'

def issuerParameters? (text : List Char) : Option (List IssuerParameter) :=
  (((Text.parts (· == ';') text).map fun part => part.dropWhile isKeyPadding).filter
    (!·.isEmpty)).mapM issuerParameter?

def issuer? (octets : Bytes) : Option Issuer := do
  let nameOctets := octets.takeWhile (· != 59)
  let parameterText := ((octets.dropWhile (· != 59)).drop 1).map fun octet =>
    Char.ofNat octet.toNat
  let name ←
    if nameOctets.isEmpty then some none
    else
      match String.fromUTF8? ⟨nameOctets.toArray⟩ with
      | some text => (IssuerName.ofText? text.toList).map some
      | none => none
  let parameters ← issuerParameters? parameterText
  pure ⟨name, parameters⟩

inductive AuthorizationValue where
  | issuer (issuer : Issuer)
  | report (url : Url)
  | unknown (octets : Bytes)
deriving DecidableEq, Repr

structure Authorization where
  critical : Bool
  tag : Bytes
  value : AuthorizationValue
deriving DecidableEq, Repr

def reportUrl? (octets : Bytes) : Option Url :=
  match String.fromUTF8? ⟨octets.toArray⟩ with
  | none => none
  | some text => (Url.parse text).toOption

def authorizationValue? (kind : TagKind) (octets : Bytes) : Option AuthorizationValue :=
  match kind with
  | .issue => (issuer? octets).map .issuer
  | .report => (reportUrl? octets).map .report
  | .unknown => some (.unknown octets)

def authorization? : Bytes → Option Authorization
  | flags :: tagLength :: rest =>
    let tag := rest.take tagLength.toNat
    if rest.length < tagLength.toNat || tagLength = 0 || 15 < tagLength ||
        !tag.all (fun octet => (Char.ofNat octet.toNat).isAlphanum) then none
    else
      let (kind, tag) := tagKind tag
      (authorizationValue? kind (rest.drop tagLength.toNat)).map fun value =>
        ⟨128 ≤ flags, tag, value⟩
  | _ => none

def IssuerParameter.pieces (parameter : IssuerParameter) : List Bytes :=
  [utf8Octets [';'], utf8Octets [' '], utf8Octets parameter.key, utf8Octets ['='],
    utf8Octets parameter.value]

/-- An issuer in normal form. When nobody is named and nothing is said, a semicolon stands for
it. -/
def Issuer.pieces (issuer : Issuer) : List Bytes :=
  match issuer.name with
  | some name => utf8Octets name.text :: issuer.parameters.flatMap IssuerParameter.pieces
  | none =>
    if issuer.parameters.isEmpty then [utf8Octets [';']]
    else issuer.parameters.flatMap IssuerParameter.pieces

def AuthorizationValue.pieces : AuthorizationValue → List Bytes
  | .issuer held => held.pieces
  | .report url => [url.text.toUTF8.toList]
  | .unknown octets => [octets]

def Authorization.pieces (authorization : Authorization) : List Bytes :=
  [if authorization.critical then 128 else 0] :: [UInt8.ofNat authorization.tag.length] ::
    authorization.tag :: authorization.value.pieces

end Sinkhole.Dns
