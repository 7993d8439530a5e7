import Sinkhole.Url.Host

/-! # URLs

A URL is its scheme, then an authority with host, user and port or none, then a path, a query and
a fragment. Its text is the normal form: default ports are left out, the scheme is lowercase and
what a part may not hold is percent-encoded.
-/
namespace Sinkhole

inductive SchemeKind where
  | web (defaultPort : Nat)
  | file
  | other
deriving DecidableEq, Repr

def SchemeKind.ofScheme : String → SchemeKind
  | "http" => web 80
  | "https" => web 443
  | "ws" => web 80
  | "wss" => web 443
  | "ftp" => web 21
  | "file" => file
  | _ => other

/-- Whether backslashes separate path segments as slashes do. -/
def SchemeKind.isSpecial : SchemeKind → Bool
  | web _ => true
  | file => true
  | other => false

structure Authority where
  username : List Char
  password : List Char
  host : Option Url.Host
  port : Option Nat
deriving DecidableEq, Repr

structure Url where
  scheme : String
  authority : Option Authority
  path : List Char
  query : Option (List Char)
  fragment : Option (List Char)
deriving DecidableEq, Repr

namespace Authority

def text (authority : Authority) : String :=
  let password := if authority.password.isEmpty then [] else ':' :: authority.password
  let user := authority.username ++ password
  let user := if user.isEmpty then [] else user ++ ['@']
  let port := match authority.port with
    | some port => ":" ++ toString port
    | none => ""
  let host := match authority.host with
    | some host => host.text
    | none => ""
  "//" ++ String.ofList user ++ host ++ port

end Authority

namespace Url

/-- What stands before the path. A path of two slashes would pass for an authority, so a segment
of one point goes before it. -/
def authorityText (url : Url) : String :=
  match url.authority, url.path with
  | some authority, _ => authority.text
  | none, '/' :: '/' :: _ => "/."
  | none, _ => ""

def text (url : Url) : String :=
  let part (lead : Char) (text : Option (List Char)) : List Char :=
    match text with
    | some text => lead :: text
    | none => []
  url.scheme ++ ":" ++ url.authorityText ++
    String.ofList (url.path ++ part '?' url.query ++ part '#' url.fragment)

def host? (url : Url) : Option Url.Host := do
  let authority ← url.authority
  authority.host

end Url

end Sinkhole
