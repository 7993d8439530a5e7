import Sinkhole.Text.Blank

/-! # Host names and patterns

Host names are compared in lowercase and without trailing dots. A pattern is an exact name or a
wildcard, which is kept as the text after its star and covers every name that ends with it. Only
ASCII letters have case here.
-/
namespace Sinkhole

def normalizeHost (host : String) : String :=
  String.ofList ((Text.trimEnd (· == '.') host.toList).map Char.toLower)

/-- What one host pattern covers. -/
inductive HostPattern where
  | exact (name : String)
  | wildcard (suffix : String)
deriving DecidableEq, Repr

def endsWith (text suffix : String) : Bool :=
  suffix.toList.isSuffixOf text.toList

namespace HostPattern

/-- A pattern as it is written, in any letter case and with any trailing dots. -/
def ofText (text : String) : HostPattern :=
  let name := normalizeHost text
  match name.toList with
  | '*' :: suffix => .wildcard (String.ofList suffix)
  | _ => .exact name

def name? : HostPattern → Option String
  | .exact name => some name
  | .wildcard _ => none

def suffix? : HostPattern → Option String
  | .exact _ => none
  | .wildcard suffix => some suffix

def covers (pattern : HostPattern) (host : String) : Bool :=
  match pattern with
  | .exact name => name == host
  | .wildcard suffix => endsWith host suffix

end HostPattern

theorem endsWith_iff {text suffix : String} :
    endsWith text suffix = true ↔ suffix.toList <:+ text.toList := by
  simp [endsWith]

end Sinkhole
