import Sinkhole.Rules.HostRules

/-! # Rules as a scan of their lists

The meaning of rule lists, read off the lists themselves with no compiled form between.
-/
namespace Sinkhole.RuleLists

def target (entry : String × String) : String :=
  Text.trim entry.2

/-- The target of the last redirect for exactly this name. -/
def exactTarget? (lists : RuleLists) (host : String) : Option String :=
  (lists.redirected.reverse.find? fun entry => HostPattern.ofText entry.1 == .exact host).map target

/-- The target of the first wildcard redirect that covers the name. -/
def wildcardTarget? (lists : RuleLists) (host : String) : Option String :=
  (lists.redirected.find? fun entry =>
    match HostPattern.ofText entry.1 with
    | .wildcard suffix => endsWith host suffix
    | .exact _ => false).map target

def anyCovers (patterns : List String) (host : String) : Bool :=
  patterns.any fun text => (HostPattern.ofText text).covers host

def decide (lists : RuleLists) (host : String) : Classification :=
  let name := normalizeHost host
  match (lists.exactTarget? name).or (lists.wildcardTarget? name) with
  | some target => .redirected target
  | none =>
    if anyCovers lists.allowed name then .allowed
    else if anyCovers lists.blocked name then .blocked
    else .allowed

end Sinkhole.RuleLists
