import Sinkhole.Url.Basic
import Sinkhole.Url.Path

/-! # Reading URLs

Reads an absolute URL. Blanks and controls around it and tabs and line breaks inside are ignored.
Under the schemes of the web any number of slashes may stand before the authority.
-/
namespace Sinkhole.Url

def isPadding (c : Char) : Bool := c.toNat ≤ 0x20

def withoutPadding (text : List Char) : List Char :=
  ((text.dropWhile isPadding).reverse.dropWhile isPadding).reverse

def withoutIgnored (text : List Char) : List Char := text.filter (!isIgnored ·)

def isSchemeChar (c : Char) : Bool := c.isAlphanum || c == '+' || c == '-' || c == '.'

def splitScheme? (text : List Char) : Option (String × List Char) :=
  let inScheme (c : Char) : Bool := isSchemeChar c || isIgnored c
  match withoutIgnored (text.takeWhile inScheme), text.dropWhile inScheme with
  | first :: scheme, ':' :: rest =>
    if first.isAlpha then some (String.ofList ((first :: scheme).map Char.toLower), rest) else none
  | _, _ => none

def endsAuthority (special : Bool) (c : Char) : Bool := isSlash special c || c == '?' || c == '#'

/-- The text before the last `@` of an authority, and what follows it. -/
def splitUser (special : Bool) (text : List Char) : Option (List Char) × List Char :=
  let authority := text.takeWhile (!endsAuthority special ·)
  let reversed := authority.reverse.dropWhile (· != '@')
  match reversed with
  | [] => (none, text)
  | _ :: user => (some user.reverse, text.drop reversed.length)

/-- The host ends with the authority, or at a colon outside of square brackets. -/
def spanHost (special : Bool) : (bracketed : Bool) → List Char → List Char × List Char
  | _, [] => ([], [])
  | bracketed, c :: rest =>
    if endsAuthority special c || (c == ':' && !bracketed) then ([], c :: rest)
    else
      let bracketed := if c = '[' then true else if c = ']' then false else bracketed
      let (host, after) := spanHost special bracketed rest
      (c :: host, after)

/-- The port behind a colon, and what follows it. It is absent when it is the scheme's own. -/
def readPort (kind : SchemeKind) (text : List Char) :
    Except UrlError (Option Nat × List Char) :=
  match text with
  | ':' :: text =>
    let (digits, rest) := spanDigits 10 text
    let port := digitsValue 10 digits
    if 65535 < port || !rest.head?.all (endsAuthority true) then .error .invalidPort
    else if digits.isEmpty || kind = .web port then .ok (none, rest)
    else .ok (some port, rest)
  | _ => .ok (none, text)

def splitPassword (user : List Char) : List Char × List Char :=
  let name := user.takeWhile (· != ':')
  let password := (user.dropWhile (· != ':')).drop 1
  (percentEncode inUserinfo name, percentEncode inUserinfo password)

def readAuthority (kind : SchemeKind) (text : List Char) :
    Except UrlError (Authority × List Char) := do
  let special := kind.isSpecial
  let (user, text) := splitUser special text
  if user == some [] && text.head?.any (endsAuthority special) then throw .emptyHost
  let (hostText, text) := spanHost special false text
  if special && hostText.isEmpty then throw .emptyHost
  let host ← if special then Host.ofDomain hostText else Host.ofText hostText
  if hostText.isEmpty && text.head? == some ':' then throw .emptyHost
  let (port, text) ← readPort kind text
  let (username, password) := splitPassword (user.getD [])
  if hostText.isEmpty && !(username.isEmpty && password.isEmpty) then throw .emptyHost
  pure (⟨username, password, if hostText.isEmpty then none else some host, port⟩, text)

def splitTail (text : List Char) : List Char × Option (List Char) × Option (List Char) :=
  let path := text.takeWhile fun c => c != '?' && c != '#'
  let rest := text.dropWhile fun c => c != '?' && c != '#'
  let query := match rest with
    | '?' :: after => some (after.takeWhile (· != '#'))
    | _ => none
  let fragment := match rest.dropWhile (· != '#') with
    | '#' :: after => some after
    | _ => none
  (path, query, fragment)

def encodeQuery (special : Bool) (query : List Char) : List Char :=
  percentEncode (if special then inSpecialQuery else inQuery) query

/-- The path as it is written. Only a scheme of the web asks for one behind an authority; without
an authority a path has slashes only where it starts with one. -/
def pathText (special authority : Bool) (path : List Char) : List Char :=
  if authority then
    if path.isEmpty && !special then [] else hierarchicalPath special path
  else if path.head? == some '/' then hierarchicalPath special path
  else percentEncode isControl path

def assemble (scheme : String) (kind : SchemeKind) (authority : Option Authority)
    (tail : List Char) : Url :=
  let special := kind.isSpecial
  let (path, query, fragment) := splitTail tail
  { scheme := scheme
    authority := authority
    path := pathText special authority.isSome path
    query := query.map (encodeQuery special)
    fragment := fragment.map (percentEncode inFragment) }

def splitLocalHost (text : List Char) : List Char × List Char :=
  match text with
  | a :: b :: rest =>
    if isSlash true a && isSlash true b then
      let host := rest.takeWhile (!endsAuthority true ·)
      if isDrive (withoutIgnored host) then ([], rest)
      else (withoutIgnored host, rest.dropWhile (!endsAuthority true ·))
    else ([], text)
  | _ => ([], text)

/-- Reads a URL of a file. Its path may name a drive instead of a host, and `localhost` counts as
no host. -/
def fileUrl (scheme : String) (text : List Char) : Except UrlError Url := do
  let leading := withoutIgnored (text.takeWhile fun c => isSlash true c || isIgnored c)
  let text := leading ++ text.dropWhile fun c => isSlash true c || isIgnored c
  let (hostText, tail) := splitLocalHost text
  let host ← if hostText.isEmpty then pure none else (Host.ofDomain hostText).map some
  let (path, query, fragment) := splitTail tail
  let (path, drive) := localPath path
  let host := if drive || host = some (.domain "localhost") then none else host
  pure
    { scheme := scheme
      authority := some ⟨[], [], host, none⟩
      path := path
      query := query.map fun query => encodeQuery true (withoutIgnored query)
      fragment := fragment.map fun text => percentEncode inFragment (withoutIgnored text) }

def authorityUrl (scheme : String) (kind : SchemeKind) (text : List Char) :
    Except UrlError Url := do
  let (authority, tail) ← readAuthority kind text
  pure (assemble scheme kind (some authority) tail)

def parse (text : String) : Except UrlError Url :=
  match splitScheme? (withoutPadding text.toList) with
  | none => .error .noScheme
  | some (scheme, rest) =>
    match SchemeKind.ofScheme scheme with
    | .file => fileUrl scheme rest
    | .web port =>
      authorityUrl scheme (.web port) ((withoutIgnored rest).dropWhile (isSlash true))
    | .other =>
      match withoutIgnored rest with
      | '/' :: '/' :: rest => authorityUrl scheme .other rest
      | rest => .ok (assemble scheme .other none rest)

end Sinkhole.Url
